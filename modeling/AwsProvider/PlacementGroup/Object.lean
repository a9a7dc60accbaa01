import AwsProvider.Go.Runtime

/-!
# The AWSPlacementGroup object

The Kubernetes object the placement-group controller reconciles, the helpers of the Kubernetes
libraries the controller calls on it (`meta.SetStatusCondition`, the finalizer helpers of
`controllerutil`), and `validateAWSPlacementGroup`, which every cycle runs first.

The `machine/v1` API types are not among the source files: their shape is taken from how
`controller.go` uses them and from the spec's description of the object (a management state
`Managed` or `Unmanaged`, a group type and a partition count, an observed configuration with an
expiry, a finalizer, a readiness condition). Times are nanoseconds, as Go's `time.Duration`
counts them.

## What is proved

* `validateAWSPlacementGroup_managed_of_unmanaged`: an object whose status says `Unmanaged`
  is rejected as soon as its spec says `Managed` (the one-way transition);
* the finalizer helpers do what their names say (`containsFinalizer_addFinalizer`,
  `containsFinalizer_removeFinalizer`).
-/

namespace AwsProvider.PlacementGroup

open Go

/-! ### The API types -/

/-- Modelled from the spec: `machinev1.AWSPartitionPlacement`, the partition count of a group. -/
structure AWSPartitionPlacement where
  /-- `Count`, an `int32`. -/
  count : Int
  deriving DecidableEq, Repr, Inhabited

/-- Modelled from the spec: `machinev1.ManagedAWSPlacementGroup`, the configuration of a managed
group; the observed configuration has the same type, as the `reflect.DeepEqual` of
`setObservedConfiguration` compares the two. -/
structure ManagedAWSPlacementGroup where
  /-- `GroupType`: `Cluster`, `Partition` or `Spread`. -/
  groupType : String
  /-- `Partition`. -/
  partition : Option AWSPartitionPlacement
  deriving DecidableEq, Repr, Inhabited

/-- Modelled from the spec: `machinev1.AWSPlacementGroupManagementSpec`. -/
structure AWSPlacementGroupManagementSpec where
  /-- `ManagementState`: `Managed` or `Unmanaged`. -/
  managementState : String
  /-- `Managed`, the configuration of a managed group. -/
  managed : Option ManagedAWSPlacementGroup
  deriving DecidableEq, Repr, Inhabited

/-- Modelled from the spec: `machinev1.AWSPlacementGroupSpec`. -/
structure AWSPlacementGroupSpec where
  /-- `ManagementSpec`. -/
  managementSpec : AWSPlacementGroupManagementSpec
  /-- The name of `CredentialsSecret`, when it is set. -/
  credentialsSecret : Option String
  deriving DecidableEq, Repr, Inhabited

/-- `metav1.Condition`, without its transition time and generation. -/
structure Condition where
  /-- `Type`. -/
  type : String
  /-- `Status`: `True`, `False` or `Unknown`. -/
  status : String
  /-- `Reason`. -/
  reason : String
  /-- `Message`. -/
  message : String
  deriving DecidableEq, Repr, Inhabited

/-- Modelled from the spec: `machinev1.AWSPlacementGroupStatus`. -/
structure AWSPlacementGroupStatus where
  /-- `Conditions`. -/
  conditions : List Condition
  /-- `ExpiresAt`: until when the observed configuration is fresh. -/
  expiresAt : Option Int
  /-- `ManagementState`, as last reconciled. -/
  managementState : String
  /-- `ObservedConfiguration`. -/
  observedConfiguration : ManagedAWSPlacementGroup
  deriving DecidableEq, Repr, Inhabited

/-- Modelled from the spec: `machinev1.AWSPlacementGroup`, with the metadata the controller
reads. -/
structure AWSPlacementGroup where
  /-- `Name`, also the name of the group on AWS. -/
  name : String
  /-- `DeletionTimestamp`: set once the object is being deleted. -/
  deletionTimestamp : Option Int
  /-- `Finalizers`. -/
  finalizers : List String
  /-- `Spec`. -/
  spec : AWSPlacementGroupSpec
  /-- `Status`. -/
  status : AWSPlacementGroupStatus
  deriving DecidableEq, Repr, Inhabited

/-- `ManagedManagementState`. -/
def managedManagementState : String := "Managed"
/-- `UnmanagedManagementState`. -/
def unmanagedManagementState : String := "Unmanaged"
/-- `AWSClusterPlacementGroupType`. -/
def awsClusterPlacementGroupType : String := "Cluster"
/-- `AWSPartitionPlacementGroupType`. -/
def awsPartitionPlacementGroupType : String := "Partition"
/-- `AWSSpreadPlacementGroupType`. -/
def awsSpreadPlacementGroupType : String := "Spread"

/-! ### Constants of the controller -/

/-- `awsPlacementGroupFinalizer`. -/
def awsPlacementGroupFinalizer : String := "awsplacementgroup.machine.openshift.io"
/-- `readyConditionType`. -/
def readyConditionType : String := "Ready"
/-- `creationSucceededConditionReason`. -/
def creationSucceededConditionReason : String := "CreationSucceeded"
/-- `creationFailedConditionReason`. -/
def creationFailedConditionReason : String := "CreationFailed"
/-- `deletionFailedConditionReason`. -/
def deletionFailedConditionReason : String := "DeletionFailed"
/-- `configurationMismatchConditionReason`. -/
def configurationMismatchConditionReason : String := "ConfigurationMismatch"
/-- `configurationInSyncConditionReason`. -/
def configurationInSyncConditionReason : String := "ConfigurationInSync"

/-! ### Library helpers -/

/-- `meta.SetStatusCondition`: the first condition of the same type takes the new status, reason
and message; without one, the condition is appended. -/
def setStatusCondition : List Condition → Condition → List Condition
  | [], newCondition => [newCondition]
  | c :: cs, newCondition =>
    if c.type = newCondition.type then
      { c with status := newCondition.status, reason := newCondition.reason,
               message := newCondition.message } :: cs
    else c :: setStatusCondition cs newCondition

/-- `meta.FindStatusCondition`. -/
def findStatusCondition (conditions : List Condition) (conditionType : String) :
    Option Condition :=
  conditions.find? (·.type = conditionType)

/-- After `SetStatusCondition`, the condition of that type is the new one. -/
theorem findStatusCondition_setStatusCondition (conditions : List Condition) (c : Condition) :
    findStatusCondition (setStatusCondition conditions c) c.type = some c := by
  induction conditions with
  | nil => simp [setStatusCondition, findStatusCondition]
  | cons d ds ih =>
    unfold setStatusCondition
    split_ifs with h
    · simp [findStatusCondition, h]
    · simpa [findStatusCondition, h] using ih

/-- `controllerutil.ContainsFinalizer`. -/
def containsFinalizer (pg : AWSPlacementGroup) (finalizer : String) : Bool :=
  finalizer ∈ pg.finalizers

/-- `controllerutil.AddFinalizer`: appended when absent. -/
def addFinalizer (pg : AWSPlacementGroup) (finalizer : String) : AWSPlacementGroup :=
  if containsFinalizer pg finalizer then pg else { pg with finalizers := pg.finalizers ++ [finalizer] }

/-- `controllerutil.RemoveFinalizer`: every copy removed. -/
def removeFinalizer (pg : AWSPlacementGroup) (finalizer : String) : AWSPlacementGroup :=
  { pg with finalizers := pg.finalizers.filter (· ≠ finalizer) }

@[simp] theorem containsFinalizer_addFinalizer (pg : AWSPlacementGroup) (f : String) :
    containsFinalizer (addFinalizer pg f) f = true := by
  unfold addFinalizer; split_ifs with h <;> simp_all [containsFinalizer]

@[simp] theorem containsFinalizer_removeFinalizer (pg : AWSPlacementGroup) (f : String) :
    containsFinalizer (removeFinalizer pg f) f = false := by
  simp [containsFinalizer, removeFinalizer]

/-- `strings.Title` on the strategies AWS returns: the first letter of each word upper-cased,
a word starting after any character other than an ASCII letter, digit or underscore. -/
def title (s : String) : String :=
  ⟨go ' ' s.data⟩
where
  /-- The characters after `prev`. -/
  go (prev : Char) : List Char → List Char
    | [] => []
    | c :: cs => (if prev.isAlphanum || prev = '_' then c else c.toUpper) :: go c cs

/-- `int32(n)`: the two's-complement truncation of an integer to 32 bits. -/
def toInt32 (n : Int) : Int := (n + 2147483648) % 4294967296 - 2147483648

/-! ### Validation -/

/-- `validateAWSPlacementGroup`: the error, or `none` for a valid object. -/
def validateAWSPlacementGroup (pg : AWSPlacementGroup) : Option GoError :=
  if pg.spec.managementSpec.managementState ≠ managedManagementState ∧
      pg.spec.managementSpec.managementState ≠ unmanagedManagementState then
    some (.new ("invalid aws placement group. spec.managementSpec.managementState must either be " ++
      managedManagementState ++ " or " ++ unmanagedManagementState))
  else if pg.spec.managementSpec.managementState = managedManagementState ∧
      pg.spec.managementSpec.managed = none then
    some (.new ("invalid aws placement group. spec.managementSpec.managed must not be nil when " ++
      "spec.managementSpec.managementState is " ++ managedManagementState))
  else if pg.spec.managementSpec.managementState = managedManagementState ∧
      pg.status.managementState = unmanagedManagementState then
    some (.new ("invalid aws placement group. spec.managementSpec.managementState cannot be set to " ++
      managedManagementState ++ " once it has been set to " ++ unmanagedManagementState))
  else match pg.spec.managementSpec.managed with
    | none => none
    | some managed =>
      if managed.groupType ≠ awsClusterPlacementGroupType ∧
          managed.groupType ≠ awsPartitionPlacementGroupType ∧
          managed.groupType ≠ awsSpreadPlacementGroupType then
        some (.new ("invalid aws placement group. spec.managementSpec.managed.groupType must either be " ++
          awsClusterPlacementGroupType ++ ", " ++ awsPartitionPlacementGroupType ++ " or " ++
          awsSpreadPlacementGroupType))
      else match managed.partition with
        | some partition =>
          if partition.count < 1 ∨ partition.count > 7 then
            some (.new ("invalid aws placement group. spec.managementSpec.managed.partition.count " ++
              "must be greater or equal than 1 and less or equal than 7"))
          else none
        | none => none

/-- A valid object is `Managed` or `Unmanaged`, and a `Managed` one has a configuration and was
never `Unmanaged`. -/
theorem validateAWSPlacementGroup_eq_none {pg : AWSPlacementGroup}
    (h : validateAWSPlacementGroup pg = none) :
    (pg.spec.managementSpec.managementState = managedManagementState ∨
      pg.spec.managementSpec.managementState = unmanagedManagementState) ∧
    (pg.spec.managementSpec.managementState = managedManagementState →
      pg.spec.managementSpec.managed.isSome ∧
        pg.status.managementState ≠ unmanagedManagementState) := by
  unfold validateAWSPlacementGroup at h
  split_ifs at h with h1 h2 h3
  refine ⟨by tauto, fun hm => ⟨?_, fun hu => h3 ⟨hm, hu⟩⟩⟩
  cases hmg : pg.spec.managementSpec.managed
  · exact absurd ⟨hm, hmg⟩ h2
  · rfl

/-- **One way only.** Once the status says `Unmanaged`, a spec that says `Managed` fails
validation. -/
theorem validateAWSPlacementGroup_managed_of_unmanaged {pg : AWSPlacementGroup}
    (hstatus : pg.status.managementState = unmanagedManagementState)
    (hspec : pg.spec.managementSpec.managementState = managedManagementState) :
    validateAWSPlacementGroup pg ≠ none := fun h =>
  ((validateAWSPlacementGroup_eq_none h).2 hspec).2 hstatus

/-! ### Results -/

/-- `ctrl.Result`. -/
structure Result where
  /-- `Requeue`. -/
  requeue : Bool
  /-- `RequeueAfter`, in nanoseconds. -/
  requeueAfter : Int
  deriving DecidableEq, Repr, Inhabited

/-- `requeueAt(at)` at the instant `now`: the time until one millisecond after `atTime`, or
zero. -/
def requeueAt (atTime now : Int) : Int :=
  let duration := -(now - (atTime + 1000000))
  if duration < 0 then 0 else duration

end AwsProvider.PlacementGroup
