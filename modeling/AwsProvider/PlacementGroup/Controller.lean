import AwsProvider.PlacementGroup.Object
import AwsProvider.Cloud.Prog
import AwsProvider.Machine.Tags

/-!
# The placement-group controller

`controller.go` of `awsplacementgroup`: one `Reconcile` cycle reads the object, validates it,
fetches the Infrastructure object, builds the AWS client, runs `reconcile`, and patches the
object and then its status. `reconcile` refreshes the observed configuration when it has
expired (`reflectObservedConfiguration`), then releases an `Unmanaged` group, adds the
finalizer, deletes the group of an object being deleted (`deletePlacementGroup`), or checks the
group and creates it when it is missing (`checkOrCreatePlacementGroup`).

The functions that mutate the object through its pointer return the object with the error.
The store is an `Option AWSPlacementGroup` (none: no such object); what one cycle sees of the
cluster besides it is a `Cycle`.

## Honest scope

Every `metav1.Now()` and `time.Since` of one cycle reads the same instant `Cycle.now`. The API
server's rounding of `ExpiresAt` to seconds is not modelled. An element of a list the SDK returns
is never nil, so the `placementGroup == nil` check of `validateExistingPlacementGroupConfig` is
dead and not modelled. Logging and events are left out.
-/

namespace AwsProvider.PlacementGroup

open Go EC2 Api

/-! ### Tags -/

/-- `mergeInfrastructureAndAWSPlacementGroupSpecTags`, the same merge as the machine
controller's. -/
def mergeInfrastructureAndAWSPlacementGroupSpecTags
    (awsPlacementGroupSpecTags : List Api.TagSpecification) (infra : Option Infrastructure) :
    List Api.TagSpecification :=
  Machine.mergeInfrastructureAndMachineSpecTags awsPlacementGroupSpecTags infra

/-- `removeDuplicatedTags` of the placement-group controller: the same body as the machine
controller's copy. -/
def removeDuplicatedTags (tags : List EC2.Tag) : Outcome (List EC2.Tag) :=
  Machine.removeDuplicatedTags tags

/-- **Deduplicating tags.** On tags whose keys are all set, both copies of `removeDuplicatedTags`
return the same list: a sublist of the input whose keys are pairwise distinct, that keeps every
key of the input, and whose every tag is the input's first tag with its key; both return that
list unchanged when run on it again. -/
theorem removeDuplicatedTags_first (tags : List EC2.Tag) (hkeys : ∀ t ∈ tags, t.key.isSome) :
    ∃ result, Machine.removeDuplicatedTags tags = .ok result ∧
      removeDuplicatedTags tags = .ok result ∧
      result.Sublist tags ∧ (result.map (·.key)).Nodup ∧
      (∀ t ∈ tags, t.key ∈ result.map (·.key)) ∧
      (∀ t ∈ result, tags.find? (·.key = t.key) = some t) ∧
      Machine.removeDuplicatedTags result = .ok result ∧ removeDuplicatedTags result = .ok result := by
  have hsub := Machine.firstBy_sublist (·.key) tags
  have hidem : Machine.removeDuplicatedTags (Machine.firstBy (·.key) tags) =
      .ok (Machine.firstBy (·.key) tags) := by
    rw [Machine.removeDuplicatedTags_keyed _ fun t ht => hkeys t (hsub.subset ht),
      Machine.firstBy_idem]
  exact ⟨_, Machine.removeDuplicatedTags_keyed tags hkeys,
    Machine.removeDuplicatedTags_keyed tags hkeys, hsub, Machine.nodup_map_firstBy _ tags,
    fun t ht => Machine.mem_map_firstBy _ (List.mem_map_of_mem _ ht),
    fun t ht => Machine.find?_of_mem_firstBy _ ht, hidem, hidem⟩

/-- The test's list with a repeated key. -/
theorem removeDuplicatedTags_first_repeated :
    (∀ t ∈ [(⟨some "clusterID", some "test-ClusterIDValue"⟩ : EC2.Tag),
        ⟨some "clusterSize", some "test-ClusterSizeValue"⟩,
        ⟨some "clusterSize", some "test-ClusterSizeDuplicatedValue"⟩], t.key.isSome) ∧
    ∃ result, Machine.removeDuplicatedTags [⟨some "clusterID", some "test-ClusterIDValue"⟩,
        ⟨some "clusterSize", some "test-ClusterSizeValue"⟩,
        ⟨some "clusterSize", some "test-ClusterSizeDuplicatedValue"⟩] = .ok result ∧
      removeDuplicatedTags [⟨some "clusterID", some "test-ClusterIDValue"⟩,
        ⟨some "clusterSize", some "test-ClusterSizeValue"⟩,
        ⟨some "clusterSize", some "test-ClusterSizeDuplicatedValue"⟩] = .ok result :=
  have hkeys : ∀ t ∈ [(⟨some "clusterID", some "test-ClusterIDValue"⟩ : EC2.Tag),
      ⟨some "clusterSize", some "test-ClusterSizeValue"⟩,
      ⟨some "clusterSize", some "test-ClusterSizeDuplicatedValue"⟩], t.key.isSome := by decide
  ⟨hkeys, (removeDuplicatedTags_first _ hkeys).imp fun _ h => ⟨h.1, h.2.1⟩⟩

/-- A tag without a key makes both copies panic on `*entry.Key`. -/
theorem removeDuplicatedTags_nil_key :
    Machine.removeDuplicatedTags [⟨none, some "v"⟩] = .panic (.nilPointerDereference "entry.Key") ∧
      removeDuplicatedTags [⟨none, some "v"⟩] = .panic (.nilPointerDereference "entry.Key") :=
  ⟨rfl, rfl⟩

/-- `buildPlacementGroupTagList`: the body of `buildTagList`, with the cluster ID read from
`infra`. -/
def buildPlacementGroupTagList (awsPlacementGroup : String)
    (awsPlacementGroupSpecTags : List Api.TagSpecification) (infra : Option Infrastructure) :
    Outcome (List EC2.Tag) := do
  let mergedTags := mergeInfrastructureAndAWSPlacementGroupSpecTags awsPlacementGroupSpecTags infra
  let infrastructure ← deref "infra" infra
  Machine.ownedTagList awsPlacementGroup infrastructure.status.infrastructureName mergedTags

/-- With an Infrastructure object, the tags of a group are those `buildTagList` gives a machine of
the cluster. -/
theorem buildPlacementGroupTagList_some (name : String) (tags : List Api.TagSpecification)
    (infra : Infrastructure) :
    buildPlacementGroupTagList name tags (some infra) =
      Machine.buildTagList name infra.status.infrastructureName tags (some infra) :=
  rfl

/-- **The tag list of an instance or a group.** `buildTagList` keeps the first entry for each key
that is not reserved, in the order the keys first occur in the spec's tags followed by the
cluster's, then the ownership tag and the name tag; its keys are pairwise distinct; and a group
of a cluster with an Infrastructure object gets the tags `buildTagList` gives a machine of it. -/
theorem buildTagList_firstEntries (machineName clusterID : String)
    (tags : List Api.TagSpecification) (infra : Option Infrastructure) :
    let user := Machine.userPairs
      (tags ++ ((infraResourceTags infra).getD []).map fun t => ⟨t.key, t.value⟩)
    ∃ tagList, Machine.buildTagList machineName clusterID tags infra = .ok tagList ∧
      tagList = (Machine.firstEntries user).map Machine.tagOf ++
        [Machine.tagOf (Machine.ownershipTag clusterID), Machine.tagOf ("Name", machineName)] ∧
      (Machine.firstEntries user).Sublist user ∧
      (∀ k ∈ user.map (·.1), k ∈ (Machine.firstEntries user).map (·.1)) ∧
      (∀ kv ∈ Machine.firstEntries user, user.lookup kv.1 = some kv.2) ∧
      (tagList.map (·.key)).Nodup ∧
      ∀ i : Infrastructure, buildPlacementGroupTagList machineName tags (some i) =
        Machine.buildTagList machineName i.status.infrastructureName tags (some i) :=
  ⟨_, Machine.buildTagList_eq machineName clusterID tags infra, rfl,
    Machine.firstEntries_sublist _, fun _ hk => Machine.mem_keys_firstEntries hk,
    fun _ hkv => Machine.lookup_of_mem_firstEntries hkv,
    Machine.ownedTagList_keys_nodup machineName clusterID _,
    fun i => buildPlacementGroupTagList_some machineName tags i⟩

/-! ### Describing a group by name -/

/-- `isAWS4xxError`: a request failure with a status code in `[400, 500)`. -/
def isAWS4xxError : AWSError → Bool
  | .requestFailure _ _ statusCode _ => decide (400 ≤ statusCode) && decide (statusCode < 500)
  | _ => false

/-- The `DescribePlacementGroups` of one name that three functions start with: a 4xx error is
ignored, leaving the SDK's empty output; another error is handed back. -/
def describePlacementGroupsByName (name : String) :
    Prog (Except AWSError (List EC2.PlacementGroup)) := do
  let placementGroups ← Client.describePlacementGroups ⟨[name]⟩
  match placementGroups with
  | .error err => pure (if isAWS4xxError err then .ok (sdkOutput placementGroups).placementGroups
      else .error err)
  | .ok out => pure (.ok out.placementGroups)

/-- The EC2 strategy of a group type. -/
def placementStrategy (groupType : String) : Option String :=
  if groupType = awsSpreadPlacementGroupType then some placementStrategySpread
  else if groupType = awsClusterPlacementGroupType then some placementStrategyCluster
  else if groupType = awsPartitionPlacementGroupType then some placementStrategyPartition
  else none

/-! ### Observing and validating an existing group -/

/-- `meta.SetStatusCondition(&pg.Status.Conditions, condition)`. -/
def AWSPlacementGroup.setCondition (pg : AWSPlacementGroup) (condition : Condition) :
    AWSPlacementGroup :=
  { pg with status := { pg.status with conditions := setStatusCondition pg.status.conditions condition } }

/-- `setObservedConfiguration`: the observed type and partition count, and `Ready` as whether they
equal the spec's managed configuration. The partition is always set, count zero included. -/
def setObservedConfiguration (pg : AWSPlacementGroup) (placementGroup : EC2.PlacementGroup) :
    AWSPlacementGroup :=
  let observed : ManagedAWSPlacementGroup :=
    ⟨title (stringValue placementGroup.strategy),
      some ⟨toInt32 (int64Value placementGroup.partitionCount)⟩⟩
  let equal := match pg.spec.managementSpec.managed with
    | some managed => decide (observed = managed)
    | none => false
  let pg := { pg with status := { pg.status with observedConfiguration := observed } }
  if equal then pg.setCondition ⟨readyConditionType, "True", configurationInSyncConditionReason, ""⟩
  else pg.setCondition ⟨readyConditionType, "False", configurationMismatchConditionReason, ""⟩

/-- `validateExistingPlacementGroupConfig`: the name, the strategy, and for a partition group the
partition count when the spec sets one. -/
def validateExistingPlacementGroupConfig (pg : AWSPlacementGroup)
    (placementGroup : EC2.PlacementGroup) : Outcome Unit := do
  if stringValue placementGroup.groupName ≠ pg.name then
    .error (.new ("name mismatch between configured and existing values: wanted: " ++
      quote pg.name ++ ", got: " ++ quote (stringValue placementGroup.groupName)))
  else
    let managed ← deref "pg.Spec.ManagementSpec.Managed" pg.spec.managementSpec.managed
    match placementStrategy managed.groupType with
    | none => .error (.new ("unknown placement strategy " ++ quote managed.groupType ++
        ": valid values are " ++ awsSpreadPlacementGroupType ++ ", " ++
        awsClusterPlacementGroupType ++ " and " ++ awsPartitionPlacementGroupType))
    | some expectedPlacementGroupType =>
      if stringValue placementGroup.strategy ≠ expectedPlacementGroupType then
        .error (.new ("type mismatch between configured and existing values: wanted: " ++
          quote expectedPlacementGroupType ++ ", got: " ++ quote (stringValue placementGroup.strategy)))
      else match managed.partition with
        | some partition =>
          if managed.groupType = awsPartitionPlacementGroupType ∧ partition.count ≠ 0 ∧
              partition.count ≠ int64Value placementGroup.partitionCount then
            .error (.new ("group partition count mismatch between configured and existing " ++
              "values: wanted: " ++ toString partition.count ++ ", got: " ++
              toString (int64Value placementGroup.partitionCount)))
          else pure ()
        | none => pure ()

/-- `Status.ExpiresAt` two minutes after `now`. -/
def AWSPlacementGroup.expiringAt (pg : AWSPlacementGroup) (now : Int) : AWSPlacementGroup :=
  { pg with status := { pg.status with expiresAt := some (now + 120000000000) } }

/-- `reflectObservedConfiguration`: the observed configuration of the group of that name, if there
is one, and a fresh expiry. -/
def reflectObservedConfiguration (pg : AWSPlacementGroup) (now : Int) :
    Prog (AWSPlacementGroup × Option GoError) := do
  let placementGroups ← describePlacementGroupsByName pg.name
  match placementGroups with
  | .error err => pure (pg, some (.wrap "could not describe aws placement groups: " (.aws err)))
  | .ok [] => pure (pg.expiringAt now, none)
  | .ok [placementGroup] => do
    let _ ← Prog.ofOutcome (deref "placementGroups.PlacementGroups[0].GroupId" placementGroup.groupId)
    pure ((setObservedConfiguration pg placementGroup).expiringAt now, none)
  | .ok groups => pure (pg, some (.new ("expected 1 aws placement group for name " ++ pg.name ++
      ", got " ++ toString groups.length)))

/-! ### Creating and deleting -/

/-- The `CreatePlacementGroupInput` of `checkOrCreatePlacementGroup`: the strategy of the group
type, and for a partition group the count the spec sets, if not zero. -/
def createPlacementGroupInput (name : String) (tagList : List EC2.Tag)
    (managed : ManagedAWSPlacementGroup) : Except GoError CreatePlacementGroupInput :=
  match placementStrategy managed.groupType with
  | none => .error (.new ("unknown aws placement strategy " ++ quote managed.groupType ++
      ": valid values are " ++ awsSpreadPlacementGroupType ++ ", " ++ awsClusterPlacementGroupType ++
      ", " ++ awsPartitionPlacementGroupType))
  | some strategy => .ok
    { groupName := some name
      strategy := some strategy
      partitionCount :=
        if managed.groupType = awsPartitionPlacementGroupType then
          (managed.partition.map (·.count)).filter (· ≠ 0)
        else none
      tagSpecifications := [⟨some resourceTypePlacementGroup, tagList⟩] }

/-- `checkOrCreatePlacementGroup`: check the group of that name against the spec, or create it
when there is none. -/
def checkOrCreatePlacementGroup (pg : AWSPlacementGroup) (infra : Infrastructure) :
    Prog (AWSPlacementGroup × Option GoError) := do
  let placementGroups ← describePlacementGroupsByName pg.name
  match placementGroups with
  | .error err => pure (pg, some (.wrap ("failed to check aws placement group: could not describe " ++
      "aws placement groups: ") (.aws err)))
  | .ok [placementGroup] =>
    match validateExistingPlacementGroupConfig pg placementGroup with
    | .panic p => .panic p
    | .error err =>
      let werr := GoError.wrap "invalid configuration for existing aws placement group: " err
      pure (pg.setCondition ⟨readyConditionType, "False", configurationMismatchConditionReason,
        werr.error⟩, some werr)
    | .ok () => pure (setObservedConfiguration pg placementGroup, none)
  | .ok [] => do
    let tagList ← Prog.ofOutcome (buildPlacementGroupTagList pg.name [] (some infra))
    let managed ← Prog.ofOutcome (deref "pg.Spec.ManagementSpec.Managed" pg.spec.managementSpec.managed)
    match createPlacementGroupInput pg.name tagList managed with
    | .error err => pure (pg, some err)
    | .ok input => do
      let out ← Client.createPlacementGroup input
      match out with
      | .error err =>
        let werr := GoError.wrap "failed to create aws placement group: " (.aws err)
        pure (pg.setCondition ⟨readyConditionType, "False", creationFailedConditionReason, werr.error⟩,
          some werr)
      | .ok out => do
        let pg := pg.setCondition ⟨readyConditionType, "True", creationSucceededConditionReason, ""⟩
        let placementGroup ← Prog.ofOutcome (deref "out.PlacementGroup" out.placementGroup)
        let _ ← Prog.ofOutcome (deref "out.PlacementGroup.GroupName" placementGroup.groupName)
        let _ ← Prog.ofOutcome (deref "out.PlacementGroup.GroupId" placementGroup.groupId)
        pure (pg, none)
  | .ok groups => pure (pg, some (.new ("failed to check aws placement group: expected 1 aws " ++
      "placement group for name " ++ quote pg.name ++ ", got " ++ toString groups.length)))

/-- The instances not in state `terminated`; `instance.State.Name` reads through `State`. -/
def activeInstanceCount : List EC2.Instance → Outcome Nat
  | [] => pure 0
  | inst :: insts => do
    let state ← deref "instance.State" inst.state
    let instanceCount ← activeInstanceCount insts
    pure (if stringValue state.name ≠ "terminated" then instanceCount + 1 else instanceCount)

/-- Whether a group carries the ownership tag of the cluster `clusterID`. -/
def hasOwnershipTag (placementGroup : EC2.PlacementGroup) (clusterID : String) : Bool :=
  placementGroup.tags.any fun tag =>
    stringValue tag.key = "kubernetes.io/cluster/" ++ clusterID && stringValue tag.value = "owned"

/-- `deletePlacementGroup`: delete the group of that name, if it is the only one, carries the
cluster's ownership tag and holds no instance that is not terminated. -/
def deletePlacementGroup (pg : AWSPlacementGroup) (infra : Infrastructure) : Prog Unit := do
  let placementGroups ← describePlacementGroupsByName pg.name
  match placementGroups with
  | .error err => throw (.wrap "could not describe aws placement groups: " (.aws err))
  | .ok [] => pure ()
  | .ok [placementGroup] =>
    if !hasOwnershipTag placementGroup infra.status.infrastructureName then
      throw (.new "aws placement group was not created by machine-api")
    else do
      let result ← Client.describeInstances ⟨[⟨"placement-group-name", [pg.name]⟩]⟩
      match result with
      | .error err =>
        throw (.wrap "could not get the number of instances in aws placement group: " (.aws err))
      | .ok out => do
        let instanceCount ← Prog.ofOutcome
          (activeInstanceCount (out.reservations.flatMap (·.instances)))
        if instanceCount > 0 then
          throw (.new ("aws placement group still contains " ++ toString instanceCount ++ " instances"))
        else do
          let deleted ← Client.deletePlacementGroup ⟨some pg.name⟩
          match deleted with
          | .error err => throw (.wrap "could not remove the cloud resource on aws: " (.aws err))
          | .ok () => pure ()
  | .ok groups => throw (.new ("expected 1 aws placement group for name " ++ quote pg.name ++
      ", got " ++ toString groups.length))

/-! ### The cycle -/

/-- What `reconcile` leaves: the object as it mutated it, the result and the error. -/
structure ReconcileResult where
  /-- The object, with its new finalizers and status. -/
  pg : AWSPlacementGroup
  /-- The `ctrl.Result`. -/
  result : Result
  /-- The error, if any. -/
  err : Option GoError

/-- `reconcile`. -/
def reconcile (infra : Infrastructure) (now : Int) (awsPlacementGroup : AWSPlacementGroup) :
    Prog ReconcileResult := do
  let (pg, err) ← (if awsPlacementGroup.status.expiresAt.all (· < now) then
      reflectObservedConfiguration awsPlacementGroup now
    else pure (awsPlacementGroup, none) : Prog (AWSPlacementGroup × Option GoError))
  match err with
  | some err => pure ⟨pg, default, some (.wrap "failed to reflect observed configuration in status: " err)⟩
  | none =>
    let pg := { pg with status := { pg.status with
      managementState := pg.spec.managementSpec.managementState } }
    if pg.spec.managementSpec.managementState = unmanagedManagementState then
      if containsFinalizer pg awsPlacementGroupFinalizer then
        pure ⟨removeFinalizer pg awsPlacementGroupFinalizer, ⟨true, 0⟩, none⟩
      else do
        let expiresAt ← Prog.ofOutcome (deref "awsPlacementGroup.Status.ExpiresAt" pg.status.expiresAt)
        pure ⟨pg, ⟨false, requeueAt expiresAt now⟩, none⟩
    else if pg.deletionTimestamp = none ∧ !containsFinalizer pg awsPlacementGroupFinalizer then
      pure ⟨addFinalizer pg awsPlacementGroupFinalizer, ⟨true, 0⟩, none⟩
    else if pg.deletionTimestamp.isSome then
      if !containsFinalizer pg awsPlacementGroupFinalizer then pure ⟨pg, default, none⟩
      else do
        let deleted ← (deletePlacementGroup pg infra).attempt
        match deleted with
        | .error err =>
          let werr := GoError.wrap "failed to delete aws placement group: " err
          pure ⟨pg.setCondition ⟨"Deleting", "True", deletionFailedConditionReason, werr.error⟩,
            default, some werr⟩
        | .ok () => pure ⟨removeFinalizer pg awsPlacementGroupFinalizer, default, none⟩
    else do
      let (pg, err) ← checkOrCreatePlacementGroup pg infra
      match err with
      | some err => pure ⟨pg, default, some err⟩
      | none => do
        let expiresAt ← Prog.ofOutcome (deref "awsPlacementGroup.Status.ExpiresAt" pg.status.expiresAt)
        pure ⟨pg, ⟨false, requeueAt expiresAt now⟩, none⟩

/-- What one `Reconcile` cycle sees of the cluster besides the object. -/
structure Cycle where
  /-- How the read of the object fails, when it does. -/
  getError : Option KubeError
  /-- The read of the Infrastructure object. -/
  infrastructure : Except KubeError Infrastructure
  /-- `AWSClientBuilder` for a credentials secret name and a region: its error, if any. -/
  awsClientBuilder : String → String → Option GoError
  /-- How the patch of the object fails, when it does. -/
  patchError : Option KubeError
  /-- How the patch of the status fails, when it does. -/
  statusPatchError : Option KubeError
  /-- The instant of the cycle. -/
  now : Int

/-- `r.Client.Get` of the object. -/
def Cycle.get (env : Cycle) (stored : Option AWSPlacementGroup) :
    Except KubeError AWSPlacementGroup :=
  match env.getError, stored with
  | some err, _ => .error err
  | none, some pg => .ok pg
  | none, none => .error (.notFound "awsplacementgroups.machine.openshift.io not found")

/-- What a cycle leaves: the stored object, and what `Reconcile` returns. -/
structure Reconciled where
  /-- The object in the store after the cycle; `none` once the API server removed it. -/
  stored : Option AWSPlacementGroup
  /-- The `ctrl.Result`. -/
  result : Result
  /-- The error, if any. -/
  err : Option GoError

/-- The two patches that end `Reconcile`: the object (its finalizers), then its status. An
object being deleted loses its last finalizer and is removed by the API server, and the status
patch then finds nothing. -/
def patchAWSPlacementGroup (env : Cycle) (original : AWSPlacementGroup) (r : ReconcileResult) :
    Reconciled :=
  match env.patchError with
  | some err => ⟨some original, default, some (.wrap "failed to patch aws placement group: " (.kube err))⟩
  | none =>
    if original.deletionTimestamp.isSome ∧ r.pg.finalizers = [] then
      ⟨none, default, some (.wrap "failed to patch aws placement group status: "
        (.kube (.notFound ("awsplacementgroups.machine.openshift.io " ++ quote original.name ++
          " not found"))))⟩
    else match env.statusPatchError with
      | some err => ⟨some { original with finalizers := r.pg.finalizers }, default,
          some (.wrap "failed to patch aws placement group status: " (.kube err))⟩
      | none => ⟨some { original with finalizers := r.pg.finalizers, status := r.pg.status },
          r.result, r.err⟩

/-- `Reconcile`: one cycle on the stored object. -/
def Reconcile (env : Cycle) (stored : Option AWSPlacementGroup) : Prog Reconciled :=
  match env.get stored with
  | .error err => pure ⟨stored, default, if err.isNotFound then none else some (.kube err)⟩
  | .ok awsPlacementGroup =>
    if (validateAWSPlacementGroup awsPlacementGroup).isSome then pure ⟨stored, default, none⟩
    else match env.infrastructure with
      | .error err =>
        pure ⟨stored, default, some (.wrap "could not fetch infrastructure object: " (.kube err))⟩
      | .ok infra => do
        let platformStatus ← Prog.ofOutcome
          (deref "infra.Status.PlatformStatus" infra.status.platformStatus)
        let aws ← Prog.ofOutcome (deref "infra.Status.PlatformStatus.AWS" platformStatus.aws)
        match env.awsClientBuilder (awsPlacementGroup.spec.credentialsSecret.getD "") aws.region with
        | some err => pure ⟨stored, default, some (.wrap "could not create aws client: " err)⟩
        | none => do
          let r ← reconcile infra env.now awsPlacementGroup
          pure (patchAWSPlacementGroup env awsPlacementGroup r)

end AwsProvider.PlacementGroup
