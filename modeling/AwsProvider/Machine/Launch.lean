import AwsProvider.Machine.Resolve
import AwsProvider.Machine.Tags
import AwsProvider.Machine.Market

/-!
# Launching an instance

`launchInstance` resolves the references of the provider spec, runs the configuration checks,
builds one `RunInstances` request and sends it. It is modelled in two parts around that call:
`launchInstanceRequest` is the function up to `inputConfig`, and `launchInstanceResult` the
handling of the answer. The network interface, built between the two resolutions, is
`launchNetworkInterface`.

## What is proved

* `launchInstanceRequest_sat`: the part before the call asks describe calls only, a request it
  returns passes every clause of `RequestSafe`, and an error it returns is an invalid
  configuration or the error of the market options;
* `launchInstanceRequest_resolved`: a run that returns a request ran every resolution to a value
  on its own history, and the request carries those values (`Resolved`);
* `launchInstanceResult_error_class`: after the call, the error is an invalid configuration
  exactly when the call failed with a request failure whose status code is written with a leading
  `4`, and is otherwise a `CreateMachine` error;
* `launchInstance_runInstances_safe` and `launchInstance_failure_classification` transfer these to
  every run, for every sequence of answers of the cloud;
* `launchInstance_misclassified_failures`: a describe call failing with status 503 still ends in
  an invalid configuration, since every resolution error is wrapped as one, and an unknown market
  type ends in a plain error.

## Honest scope

`getClusterID` is not in the source: its result is the `clusterID` field of `Machine`. The
`runResult == nil` check is dead (the SDK hands back no nil output without an error) and is not
modelled. Logging, events and metrics are left out.
-/

namespace AwsProvider.Machine

open Go EC2 Api

/-- `zoneTypeWavelengthZone`. -/
def zoneTypeWavelengthZone : String := "wavelength-zone"

/-- The public IP of `launchInstance`'s network interface: in a Wavelength zone it is a carrier
IP. -/
def associatePublicIP (publicIP : Option Bool) (subnetID : String)
    (networkInterface : InstanceNetworkInterfaceSpecification) :
    Prog InstanceNetworkInterfaceSpecification :=
  match publicIP with
  | none => pure networkInterface
  | some _ => do
    let zoneName ← (getAvalabilityZoneFromSubnetID subnetID).mapError fun err =>
      invalidMachineConfiguration ("error discoverying zone type: " ++ err.error)
    let zoneType ← (getAvalabilityZoneTypeFromZoneName zoneName).mapError fun err =>
      invalidMachineConfiguration ("error discoverying zone type: " ++ err.error)
    pure (if zoneType = zoneTypeWavelengthZone then
        { networkInterface with associateCarrierIpAddress := publicIP }
      else { networkInterface with associatePublicIpAddress := publicIP })

/-- The network interface of `launchInstance`: device index, subnet and groups, the public IP,
and the interface type `NetworkInterfaceType` asks for. -/
def launchNetworkInterface (machineProviderConfig : AWSMachineProviderConfig)
    (securityGroupsIDs : List String) (subnetID : String) :
    Prog InstanceNetworkInterfaceSpecification := do
  let networkInterface ← associatePublicIP machineProviderConfig.publicIP subnetID
    ⟨some machineProviderConfig.deviceIndex, some subnetID, securityGroupsIDs, none, none, none⟩
  if machineProviderConfig.networkInterfaceType = awsENANetworkInterfaceType then
    pure { networkInterface with interfaceType := some "interface" }
  else if machineProviderConfig.networkInterfaceType = awsEFANetworkInterfaceType then
    pure { networkInterface with interfaceType := some "efa" }
  else if machineProviderConfig.networkInterfaceType = "" then pure networkInterface
  else throw (invalidMachineConfiguration ("invalid value for networkInterfaceType " ++
    quote machineProviderConfig.networkInterfaceType ++
    ", valid values are \"\", \"ENA\" and \"EFA\""))

/-- `clusterID, ok := getClusterID(machine)` and the error when it is not found. -/
def requireClusterID (machine : Machine) : Outcome String :=
  match machine.clusterID with
  | some clusterID => .ok clusterID
  | none => .error (invalidMachineConfiguration
      ("Unable to get cluster ID for machine: " ++ quote machine.name))

section Launch

variable (parseRFC3339 : String → Except String Int)

/-- `launchInstance` up to its `RunInstances` call: the request it sends. -/
def launchInstanceRequest (machine : Machine) (machineProviderConfig : AWSMachineProviderConfig)
    (userData : List UInt8) (infra : Option Infrastructure) : Prog RunInstancesInput := do
  let amiID ← (getAMI parseRFC3339 machineProviderConfig.ami).mapError fun err =>
    invalidMachineConfiguration ("error getting AMI: " ++ err.error)
  let securityGroupsIDs ← (getSecurityGroupsIDs machineProviderConfig.securityGroups).mapError
    fun err => invalidMachineConfiguration ("error getting security groups IDs: " ++ err.error)
  let subnetIDs ← (getSubnetIDs machineProviderConfig.subnet
      machineProviderConfig.placement.availabilityZone).mapError fun err =>
    invalidMachineConfiguration ("error getting subnet IDs: " ++ err.error)
  let subnetID ← Prog.ofOutcome (index "subnetIDs[0]" subnetIDs 0)
  let networkInterface ← launchNetworkInterface machineProviderConfig securityGroupsIDs subnetID
  let ami ← Prog.ofOutcome (deref "amiID" amiID)
  let blockDeviceMappings ← (getBlockDeviceMappings machineProviderConfig.blockDevices ami).mapError
    fun err => invalidMachineConfiguration ("error getting blockDeviceMappings: " ++ err.error)
  let clusterID ← Prog.ofOutcome (requireClusterID machine)
  let tagList ← Prog.ofOutcome (buildTagList machine.name clusterID machineProviderConfig.tags infra)
  let placement ← Prog.ofOutcome (constructInstancePlacement machineProviderConfig)
  let capacityReservationSpecification ← Prog.ofOutcome
    (getCapacityReservationSpecification machineProviderConfig.capacityReservationID)
  let instanceMarketOptions ← Prog.ofOutcome (getInstanceMarketOptionsRequest machineProviderConfig).2
  pure
    { imageId := amiID
      instanceType := some machineProviderConfig.instanceType
      minCount := some 1
      maxCount := some 1
      keyName := machineProviderConfig.keyName
      iamInstanceProfile := (machineProviderConfig.iamInstanceProfile.bind (·.id)).map fun id => ⟨some id⟩
      tagSpecifications := [⟨some "instance", tagList⟩, ⟨some "volume", tagList⟩]
      networkInterfaces := [networkInterface]
      userData := some (base64Encode userData)
      placement := placement
      metadataOptions := getInstanceMetadataOptionsRequest machineProviderConfig
      instanceMarketOptions := instanceMarketOptions
      capacityReservationSpecification := capacityReservationSpecification
      blockDeviceMappings := blockDeviceMappings }

/-- `launchInstance` after its `RunInstances` call. A request failure with a status code written
with a leading `4` is an invalid configuration; every other failure, and a reservation without
exactly one instance, is a `CreateMachine` error. -/
def launchInstanceResult : Except AWSError Reservation → Outcome EC2.Instance
  | .error (.requestFailure code message statusCode requestID) =>
    if hasPrefix (toString statusCode) "4" then
      .error (invalidMachineConfiguration ("error launching instance: " ++ message))
    else .error (createMachine ("error creating EC2 instance: " ++
      (AWSError.requestFailure code message statusCode requestID).error))
  | .error err => .error (createMachine ("error creating EC2 instance: " ++ err.error))
  | .ok runResult =>
    match runResult.instances with
    | [inst] => .ok inst
    | _ => .error (createMachine "unexpected reservation creating instance")

/-- `launchInstance`. -/
def launchInstance (machine : Machine) (machineProviderConfig : AWSMachineProviderConfig)
    (userData : List UInt8) (infra : Option Infrastructure) : Prog EC2.Instance := do
  let inputConfig ← launchInstanceRequest parseRFC3339 machine machineProviderConfig userData infra
  let runResult ← Client.runInstances inputConfig
  Prog.ofOutcome (launchInstanceResult runResult)

/-! ### Before the call -/

/-- What a `RunInstances` request of `launchInstance` satisfies: one instance, safe market
options, a well-formed capacity reservation, the ownership and name tags; and every configuration
check passed. -/
structure RequestSafe (machine : Machine) (machineProviderConfig : AWSMachineProviderConfig)
    (infra : Option Infrastructure) (req : RunInstancesInput) : Prop where
  /-- `MinCount = 1`. -/
  minCount : req.minCount = some 1
  /-- `MaxCount = 1`. -/
  maxCount : req.maxCount = some 1
  /-- Spot options ask for the spot market, termination on interruption and a one-time request. -/
  spot : ∀ mo spot, req.instanceMarketOptions = some mo → mo.spotOptions = some spot →
    mo.marketType = some EC2.marketTypeSpot ∧
      spot.instanceInterruptionBehavior = some EC2.instanceInterruptionBehaviorTerminate ∧
      spot.spotInstanceType = some EC2.spotInstanceTypeOneTime
  /-- The capacity-block market comes with a capacity reservation matching `^cr-[0-9a-f]{17}$`. -/
  capacityBlock : ∀ mo, req.instanceMarketOptions = some mo →
    mo.marketType = some EC2.marketTypeCapacityBlock →
    ∃ id, matchesCapacityReservationID id = true ∧
      req.capacityReservationSpecification = some ⟨some ⟨some id⟩⟩
  /-- The instance and its volumes carry the tag list, which ends with the ownership tag of the
  machine's cluster and its name. -/
  tags : ∃ clusterID tagList, machine.clusterID = some clusterID ∧
    buildTagList machine.name clusterID machineProviderConfig.tags infra = .ok tagList ∧
    req.tagSpecifications = [⟨some "instance", tagList⟩, ⟨some "volume", tagList⟩] ∧
    ∃ userTags, tagList = userTags ++ [tagOf (ownershipTag clusterID), tagOf ("Name", machine.name)]
  /-- The market options passed their checks. -/
  marketOptions : (getInstanceMarketOptionsRequest machineProviderConfig).2 =
    .ok req.instanceMarketOptions
  /-- The capacity-reservation ID passed its check. -/
  capacityReservation : getCapacityReservationSpecification
    machineProviderConfig.capacityReservationID = .ok req.capacityReservationSpecification
  /-- The tenancy passed its check. -/
  placement : constructInstancePlacement machineProviderConfig = .ok req.placement
  /-- The interface type is one of the three known. -/
  networkInterfaceType : machineProviderConfig.networkInterfaceType ∈
    ["", awsENANetworkInterfaceType, awsEFANetworkInterfaceType]

/-- The resolutions of `launchInstance`, run one after another against `cloud` from the history
`h`, each returned a value, and the request carries what they returned: the image `getAMI`
resolved, the one network interface built on the resolved groups and the first resolved subnet,
and the block devices `getBlockDeviceMappings` built for that image, whose run ends at `pre`. -/
def Resolved (cloud : Cloud) (machineProviderConfig : AWSMachineProviderConfig)
    (h pre : List Call) (req : RunInstancesInput) : Prop :=
  ∃ ami securityGroupsIDs subnetIDs subnetID networkInterface h₁ h₂ h₃ h₄,
    (getAMI parseRFC3339 machineProviderConfig.ami).run cloud h = (.ok (some ami), h₁) ∧
    (getSecurityGroupsIDs machineProviderConfig.securityGroups).run cloud h₁ =
      (.ok securityGroupsIDs, h₂) ∧
    (getSubnetIDs machineProviderConfig.subnet
      machineProviderConfig.placement.availabilityZone).run cloud h₂ = (.ok subnetIDs, h₃) ∧
    subnetIDs.head? = some subnetID ∧
    (launchNetworkInterface machineProviderConfig securityGroupsIDs subnetID).run cloud h₃ =
      (.ok networkInterface, h₄) ∧
    (getBlockDeviceMappings machineProviderConfig.blockDevices ami).run cloud h₄ =
      (.ok req.blockDeviceMappings, pre) ∧
    req.imageId = some ami ∧ req.networkInterfaces = [networkInterface] ∧
    networkInterface.groups = securityGroupsIDs ∧ networkInterface.subnetId = some subnetID

/-- The errors `launchInstance` returns before its `RunInstances` call: an invalid configuration,
or the error of the market options. -/
def PreLaunchError (machineProviderConfig : AWSMachineProviderConfig) (err : GoError) : Prop :=
  err.isInvalidConfiguration = true ∨ (getInstanceMarketOptionsRequest machineProviderConfig).2 = .error err

end Launch

section Errors

variable {E : GoError → Prop} (hE : ∀ msg, E (invalidMachineConfiguration msg))
include hE

theorem associatePublicIP_sat (publicIP : Option Bool) (subnetID : String)
    (ni : InstanceNetworkInterfaceSpecification) :
    (associatePublicIP publicIP subnetID ni).Sat (·.isDescribe) (Outcome.Spec
      (fun ni' => ni'.groups = ni.groups ∧ ni'.subnetId = ni.subnetId) E) := by
  unfold associatePublicIP
  split
  · exact ⟨rfl, rfl⟩
  · refine Prog.Sat.bind_spec ((getAvalabilityZoneFromSubnetID_describes _).mapError_spec _
      fun _ => hE _) fun zoneName _ => ?_
    refine Prog.Sat.bind_spec ((getAvalabilityZoneTypeFromZoneName_describes _).mapError_spec _
      fun _ => hE _) fun zoneType _ => ?_
    split_ifs <;> exact ⟨rfl, rfl⟩

/-- The network interface carries the groups and the subnet it is given, and is built only for a
known interface type. -/
theorem launchNetworkInterface_sat (machineProviderConfig : AWSMachineProviderConfig)
    (securityGroupsIDs : List String) (subnetID : String) :
    (launchNetworkInterface machineProviderConfig securityGroupsIDs subnetID).Sat (·.isDescribe)
      (Outcome.Spec (fun ni => ni.groups = securityGroupsIDs ∧ ni.subnetId = some subnetID ∧
          machineProviderConfig.networkInterfaceType ∈
            ["", awsENANetworkInterfaceType, awsEFANetworkInterfaceType]) E) := by
  unfold launchNetworkInterface
  refine Prog.Sat.bind_spec (associatePublicIP_sat hE _ _ _) fun ni ⟨hg, hs⟩ => ?_
  split_ifs with hena hefa hnone
  · exact ⟨hg, hs, by simp [hena]⟩
  · exact ⟨hg, hs, by simp [hefa]⟩
  · exact ⟨hg, hs, by simp [hnone]⟩
  · exact hE _

end Errors

section Launch

variable (parseRFC3339 : String → Except String Int)

/-- **Before `RunInstances`.** `launchInstanceRequest` asks describe calls only; a request it
returns satisfies `RequestSafe`; an error it returns is a `PreLaunchError`. -/
theorem launchInstanceRequest_sat (machine : Machine)
    (machineProviderConfig : AWSMachineProviderConfig) (userData : List UInt8)
    (infra : Option Infrastructure) :
    (launchInstanceRequest parseRFC3339 machine machineProviderConfig userData infra).Sat
      (·.isDescribe) (Outcome.Spec (RequestSafe machine machineProviderConfig infra)
        (PreLaunchError machineProviderConfig)) := by
  have invalid : ∀ msg, PreLaunchError machineProviderConfig (invalidMachineConfiguration msg) :=
    fun _ => .inl rfl
  have describes_of {α : Type} {p : Prog α} {R : α → Prop}
      (h : p.Sat (·.isDescribe) (Outcome.Spec R fun _ => True)) : Describes p :=
    h.mono (fun _ h => h) fun _ _ => trivial
  unfold launchInstanceRequest
  refine Prog.Sat.bind_spec ((getAMI_describes _ _).mapError_spec _ fun _ => invalid _)
    fun amiID _ => ?_
  refine Prog.Sat.bind_spec ((describes_of (getSecurityGroupsIDs_sat _)).mapError_spec _
    fun _ => invalid _) fun securityGroupsIDs _ => ?_
  refine Prog.Sat.bind_spec ((describes_of (getSubnetIDs_sat _ _)).mapError_spec _
    fun _ => invalid _) fun subnetIDs _ => ?_
  refine Prog.Sat.bind_spec (Prog.sat_ofOutcome_spec _ fun _ h => ?_) fun subnetID _ => ?_
  · unfold index at h; split at h <;> cases h
  refine Prog.Sat.bind_spec (launchNetworkInterface_sat invalid _ _ _) fun ni ⟨_, _, htype⟩ => ?_
  refine Prog.Sat.bind_spec (Prog.sat_ofOutcome_spec _ fun _ h => ?_) fun ami _ => ?_
  · cases amiID <;> cases h
  refine Prog.Sat.bind_spec ((getBlockDeviceMappings_describes _ _).mapError_spec _
    fun _ => invalid _) fun blockDeviceMappings _ => ?_
  refine Prog.Sat.bind_spec (Prog.sat_ofOutcome_spec _ fun _ h => ?_) fun clusterID hcid => ?_
  · unfold requireClusterID at h; split at h <;> cases h; exact invalid _
  refine Prog.Sat.bind_spec (Prog.sat_ofOutcome_spec _ fun _ h => ?_) fun tagList htag => ?_
  · rw [buildTagList_eq] at h; cases h
  refine Prog.Sat.bind_spec (Prog.sat_ofOutcome_spec _ fun _ h => ?_) fun placement hpl => ?_
  · exact .inl (constructInstancePlacement_error h)
  refine Prog.Sat.bind_spec (Prog.sat_ofOutcome_spec _ fun _ h => ?_) fun capacity hcap => ?_
  · exact .inl (getCapacityReservationSpecification_error h)
  refine Prog.Sat.bind_spec (Prog.sat_ofOutcome_spec _ fun _ h => .inr h) fun market hmo => ?_
  have hcid' : machine.clusterID = some clusterID := by
    unfold requireClusterID at hcid; split at hcid <;> cases hcid; assumption
  refine (Prog.sat_pure _ _).mpr ((Outcome.spec_ok _ _ _).mpr
    ⟨rfl, rfl, fun mo spot h hs => ?_, fun mo h hmt => ?_, ?_, hmo, hcap, hpl, htype⟩)
  · exact spotOptions_of_getInstanceMarketOptionsRequest (hmo.trans (congrArg _ h)) hs
  · obtain ⟨hid, -⟩ := capacityBlock_of_getInstanceMarketOptionsRequest (hmo.trans (congrArg _ h)) hmt
    obtain ⟨hm, hspec⟩ := getCapacityReservationSpecification_target hcap hid
    exact ⟨_, hm, hspec⟩
  · exact ⟨clusterID, tagList, hcid', htag, rfl, _,
      Outcome.ok.inj (htag.symm.trans (buildTagList_eq _ _ _ _))⟩

/-- A run of `launchInstanceRequest` that returns a request ran every resolution to a value, on
this run's own history, and built the request from those values. -/
theorem launchInstanceRequest_resolved {cloud : Cloud} {machine : Machine}
    {machineProviderConfig : AWSMachineProviderConfig} {userData : List UInt8}
    {infra : Option Infrastructure} {h pre : List Call} {req : RunInstancesInput}
    (hrun : (launchInstanceRequest parseRFC3339 machine machineProviderConfig userData infra).run
      cloud h = (.ok req, pre)) :
    Resolved parseRFC3339 cloud machineProviderConfig h pre req := by
  unfold launchInstanceRequest at hrun
  obtain ⟨amiID, h₁, hami, hrun⟩ := Prog.run_bind_eq_ok hrun
  obtain ⟨securityGroupsIDs, h₂, hsg, hrun⟩ := Prog.run_bind_eq_ok hrun
  obtain ⟨subnetIDs, h₃, hsub, hrun⟩ := Prog.run_bind_eq_ok hrun
  obtain ⟨subnetID, hsid, hrun⟩ := Prog.run_ofOutcome_bind_eq_ok hrun
  obtain ⟨ni, h₄, hni, hrun⟩ := Prog.run_bind_eq_ok hrun
  obtain ⟨ami, hderef, hrun⟩ := Prog.run_ofOutcome_bind_eq_ok hrun
  obtain ⟨blockDeviceMappings, h₅, hbdm, hrun⟩ := Prog.run_bind_eq_ok hrun
  -- the checks, which make no call: cluster ID, tags, placement, reservation, market options
  obtain ⟨_, -, hrun⟩ := Prog.run_ofOutcome_bind_eq_ok hrun
  obtain ⟨_, -, hrun⟩ := Prog.run_ofOutcome_bind_eq_ok hrun
  obtain ⟨_, -, hrun⟩ := Prog.run_ofOutcome_bind_eq_ok hrun
  obtain ⟨_, -, hrun⟩ := Prog.run_ofOutcome_bind_eq_ok hrun
  obtain ⟨_, -, hrun⟩ := Prog.run_ofOutcome_bind_eq_ok hrun
  cases hrun
  cases amiID <;> cases hderef
  have hhead : subnetIDs.head? = some subnetID := by
    cases subnetIDs <;> simp [index] at hsid; exact congrArg some hsid
  obtain ⟨hspec, -⟩ := (@launchNetworkInterface_sat (fun _ => True) (fun _ => trivial)
    machineProviderConfig securityGroupsIDs subnetID).run cloud h₃
  rw [hni] at hspec
  exact ⟨ami, securityGroupsIDs, subnetIDs, subnetID, ni, h₁, h₂, h₃, h₄,
    Prog.run_mapError_eq_ok.mp hami, Prog.run_mapError_eq_ok.mp hsg, Prog.run_mapError_eq_ok.mp hsub,
    hhead, hni, Prog.run_mapError_eq_ok.mp hbdm, rfl, rfl, hspec.1, hspec.2.1⟩

/-! ### The call and its answer -/

/-- After `RunInstances` the error is an invalid configuration exactly when the call failed with a
request failure whose status code is written with a leading `4`; any other error is a
`CreateMachine` error. -/
theorem launchInstanceResult_error_class {runResult : Except AWSError Reservation} {err : GoError}
    (h : launchInstanceResult runResult = .error err) :
    (err.isInvalidConfiguration = true ↔ ∃ code message statusCode requestID,
      runResult = .error (.requestFailure code message statusCode requestID) ∧
        hasPrefix (toString statusCode) "4" = true) ∧
    (err.isInvalidConfiguration = false → ∃ msg, err = createMachine msg) := by
  unfold launchInstanceResult at h
  split at h
  · split_ifs at h with h4 <;> cases h
    · exact ⟨iff_of_true rfl ⟨_, _, _, _, rfl, h4⟩, fun h => (nomatch h)⟩
    · exact ⟨iff_of_false Bool.false_ne_true (fun ⟨_, _, _, _, he, h4'⟩ => by
        cases he; exact h4 h4'), fun _ => ⟨_, rfl⟩⟩
  · cases h
    exact ⟨iff_of_false Bool.false_ne_true (fun ⟨_, _, _, _, he, _⟩ => by cases he; simp_all),
      fun _ => ⟨_, rfl⟩⟩
  · split at h <;> cases h
    exact ⟨iff_of_false Bool.false_ne_true (fun ⟨_, _, _, _, he, _⟩ => by cases he),
      fun _ => ⟨_, rfl⟩⟩

/-- **At most one `RunInstances` call, and a safe one.** Whatever the cloud answers, a run of
`launchInstance` makes describe calls only, or describe calls followed by one last `RunInstances`
call whose request satisfies `RequestSafe`: it was sent only after every configuration check
passed and every resolution, run on this run's own answers, returned the values the request
carries (`Resolved`). -/
theorem launchInstance_runInstances_safe (cloud : Cloud) (machine : Machine)
    (machineProviderConfig : AWSMachineProviderConfig) (userData : List UInt8)
    (infra : Option Infrastructure) :
    (∀ c ∈ ((launchInstance parseRFC3339 machine machineProviderConfig userData infra).run
      cloud []).2, c.isDescribe) ∨
    ∃ pre req, ((launchInstance parseRFC3339 machine machineProviderConfig userData infra).run
        cloud []).2 = pre ++ [.runInstances req] ∧ (∀ c ∈ pre, c.isDescribe) ∧
      RequestSafe machine machineProviderConfig infra req ∧
      Resolved parseRFC3339 cloud machineProviderConfig [] pre req := by
  obtain ⟨hQ, new, hlog, hall⟩ :=
    (launchInstanceRequest_sat parseRFC3339 machine machineProviderConfig userData infra).run cloud []
  rw [launchInstance, Prog.run_bind]
  generalize hr : (launchInstanceRequest parseRFC3339 machine machineProviderConfig userData
    infra).run cloud [] = r at hQ hlog
  obtain ⟨req | err | p, log⟩ := r <;> simp only [List.nil_append] at hlog <;> subst hlog
  · exact .inr ⟨log, req, by simp [Client.runInstances, Prog.run_ofOutcome], hall, hQ,
      launchInstanceRequest_resolved parseRFC3339 hr⟩
  · exact .inl hall
  · exact .inl hall

/-- **Which failures are invalid configurations.** When a run of `launchInstance` fails, whatever
the cloud answered: without a `RunInstances` call the error is an invalid configuration or the
error of the market options, whether a check failed or a describe call did (with any status);
with one, that call was the last, the error is an invalid configuration exactly when the call
failed with a request failure whose status code is written with a leading `4`, and any other
error is a `CreateMachine` error. -/
theorem launchInstance_failure_classification (cloud : Cloud) (machine : Machine)
    (machineProviderConfig : AWSMachineProviderConfig) (userData : List UInt8)
    (infra : Option Infrastructure) (err : GoError)
    (hfail : ((launchInstance parseRFC3339 machine machineProviderConfig userData infra).run
      cloud []).1 = .error err) :
    ((∀ c ∈ ((launchInstance parseRFC3339 machine machineProviderConfig userData infra).run
        cloud []).2, c.isDescribe) ∧ PreLaunchError machineProviderConfig err) ∨
    ∃ pre req, ((launchInstance parseRFC3339 machine machineProviderConfig userData infra).run
        cloud []).2 = pre ++ [.runInstances req] ∧
      (err.isInvalidConfiguration = true ↔ ∃ code message statusCode requestID,
        cloud pre (.runInstances req) = .error (.requestFailure code message statusCode requestID) ∧
          hasPrefix (toString statusCode) "4" = true) ∧
      (err.isInvalidConfiguration = false → ∃ msg, err = createMachine msg) := by
  obtain ⟨hQ, new, hlog, hall⟩ :=
    (launchInstanceRequest_sat parseRFC3339 machine machineProviderConfig userData infra).run cloud []
  rw [launchInstance, Prog.run_bind] at hfail ⊢
  generalize (launchInstanceRequest parseRFC3339 machine machineProviderConfig userData infra).run
    cloud [] = r at hQ hlog hfail
  obtain ⟨req | e | p, log⟩ := r <;> simp only [List.nil_append] at hlog <;> subst hlog
  · simp only [Prog.runAfter_ok, Client.runInstances, Prog.call_bind, Prog.pure_bind,
      Prog.run_call, Prog.run_ofOutcome] at hfail ⊢
    exact .inr ⟨log, req, rfl, launchInstanceResult_error_class hfail⟩
  · cases hfail
    exact .inl ⟨hall, hQ⟩
  · cases hfail

end Launch

/-! ### Runs at fixed inputs -/

/-- A provider config that names its AMI, security group and subnet by ID. -/
def configByIDs : AWSMachineProviderConfig :=
  { (default : AWSMachineProviderConfig) with
    ami := ⟨some "ami-0", none, none⟩
    securityGroups := [⟨some "sg-0", none, none⟩]
    subnet := ⟨some "subnet-0", none, none⟩ }

/-- A machine of cluster `cluster`. -/
def clusterMachine : Machine := ⟨"worker-0", some "cluster"⟩

/-- A cloud that rejects every call as a client error. -/
def rejectingCloud : Cloud :=
  fun _ => Call.failure (.requestFailure "InvalidParameterValue" "invalid parameter" 400 "r-1")

/-- Two failures of `launchInstance` classed against their shape. A describe call failing with a
server error (503) is reported as an invalid configuration, since `getAMI`'s error is wrapped as
one whatever its status; and an unknown market type, a configuration error made before any call,
is returned as a plain error, which the controller retries (the one call is the zone lookup of
the subnet, whose failure is ignored). -/
theorem launchInstance_misclassified_failures :
    (launchInstance (fun _ => .error "") clusterMachine
        { configByIDs with ami := ⟨none, none, some [⟨"name", ["rhcos"]⟩]⟩ } [] none).run
      (fun _ => Call.failure (.requestFailure "ServiceUnavailable" "Service Unavailable" 503 "r-1"))
        [] =
    (.error (invalidMachineConfiguration ("error getting AMI: error describing AMI: " ++
        "ServiceUnavailable: Service Unavailable\n\tstatus code: 503, request id: r-1")),
      [.describeImages ⟨[⟨"name", ["rhcos"]⟩], []⟩]) ∧
    (launchInstance (fun _ => .error "") clusterMachine { configByIDs with marketType := "Bogus" }
        [] none).run rejectingCloud [] =
      (.error (.new "invalid MarketType \"Bogus\""),
        [.describeSubnets ⟨some false, [], ["subnet-0"]⟩]) :=
  ⟨rfl, rfl⟩

/-- `RunInstances` rejected with status 400: an invalid configuration, after the call. -/
theorem launchInstance_failure_classification_rejected :
    let run := (launchInstance (fun _ => .error "") clusterMachine configByIDs [] none).run
      rejectingCloud []
    run.1 = .error (invalidMachineConfiguration "error launching instance: invalid parameter") ∧
    (((∀ c ∈ run.2, c.isDescribe) ∧ PreLaunchError configByIDs
        (invalidMachineConfiguration "error launching instance: invalid parameter")) ∨
      ∃ pre req, run.2 = pre ++ [.runInstances req] ∧
        ((invalidMachineConfiguration "error launching instance: invalid parameter").isInvalidConfiguration
            = true ↔ ∃ code message statusCode requestID,
          rejectingCloud pre (.runInstances req) =
            .error (.requestFailure code message statusCode requestID) ∧
            hasPrefix (toString statusCode) "4" = true) ∧
        ((invalidMachineConfiguration "error launching instance: invalid parameter").isInvalidConfiguration
            = false → ∃ msg, invalidMachineConfiguration "error launching instance: invalid parameter" =
              createMachine msg)) := by
  intro run
  exact ⟨rfl, launchInstance_failure_classification _ _ _ _ _ _ _ rfl⟩

/-- With market type `Spot` and no Spot options, `getInstanceMarketOptionsRequest` reads through
the absent options, and `launchInstance` panics once its resolutions have succeeded. -/
theorem launchInstance_spot_without_options_panics :
    (getInstanceMarketOptionsRequest { configByIDs with marketType := Api.marketTypeSpot }).2 =
      .panic (.nilPointerDereference "providerConfig.SpotMarketOptions") ∧
    ((launchInstance (fun _ => .error "") clusterMachine
        { configByIDs with marketType := Api.marketTypeSpot } [] none).run rejectingCloud []).1 =
      .panic (.nilPointerDereference "providerConfig.SpotMarketOptions") :=
  ⟨rfl, rfl⟩

end AwsProvider.Machine
