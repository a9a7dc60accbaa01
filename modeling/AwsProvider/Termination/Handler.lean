import AwsProvider.Go.Runtime
import Mathlib.Data.List.Forall2

/-!
# The termination handler

The termination handler runs on a spot instance's node. Once the instance metadata service says
the instance is marked for termination, `markNodeForDeletion` fetches the node, adds the
`Terminating` condition to its status with `addNodeTerminationCondition`, and updates the status.
A handler that is restarted, or whose update failed, marks the node again; the store of the node
over such attempts is modelled by `markAttempt`.

`addNodeTerminationCondition` appends a new `Terminating` condition when the node has none, and
otherwise sets every `Terminating` condition that is not `True` to the new condition.

## What is proved

* `addNodeTerminationCondition_spec`: afterwards the node has a `Terminating` condition and every
  one says `True`; the other conditions are the node's own, in order; a `Terminating` condition
  that already said `True` is kept; a condition is appended only when the node had no
  `Terminating` condition; and a second call changes nothing;
* `markAttempt_eq`: an attempt stores the node unchanged, or marked at the attempt's instant;
  what a sequence of handler runs stores is proved from it in `AwsProvider.Termination.Poll`.

## Honest scope

The polling of the metadata endpoint is modelled in `AwsProvider.Termination.Poll`. The status
update's conflict handling belongs to a library and is not modelled: an attempt is given the
outcomes of its `Get` and of its update. `metav1.Now()` is the attempt's instant `now`.
-/

namespace AwsProvider.Termination

open Go

/-! ### Nodes and their conditions -/

/-- `corev1.NodeCondition`. -/
structure NodeCondition where
  /-- `Type`. -/
  type : String
  /-- `Status`: `True`, `False` or `Unknown`. -/
  status : String
  /-- `LastHeartbeatTime`. -/
  lastHeartbeatTime : Int
  /-- `LastTransitionTime`. -/
  lastTransitionTime : Int
  /-- `Reason`. -/
  reason : String
  /-- `Message`. -/
  message : String
  deriving DecidableEq, Repr, Inhabited

/-- `corev1.Node`, with its name and the conditions of its status. -/
structure Node where
  /-- `Name`. -/
  name : String
  /-- `Status.Conditions`. -/
  conditions : List NodeCondition
  deriving DecidableEq, Repr, Inhabited

/-- `terminatingConditionType`. -/
def terminatingConditionType : String := "Terminating"

/-- `terminationRequestedReason`. -/
def terminationRequestedReason : String := "TerminationRequested"

/-- `corev1.ConditionTrue`. -/
def conditionTrue : String := "True"

/-- `nodeHasTerminationCondition`: the loop that returns at the first `Terminating` condition. -/
def nodeHasTerminationCondition (node : Node) : Bool :=
  node.conditions.any (·.type = terminatingConditionType)

/-- The condition `addNodeTerminationCondition` builds at the instant `now`. -/
def terminatingCondition (now : Int) : NodeCondition where
  type := terminatingConditionType
  status := conditionTrue
  lastHeartbeatTime := now
  lastTransitionTime := now
  reason := terminationRequestedReason
  message := "The cloud provider has marked this instance for termination"

/-- One step of the loop of `addNodeTerminationCondition`: a condition of another type and a
`Terminating` condition that is `True` are kept; a `Terminating` condition with another status is
replaced by the new one. -/
def refreshCondition (now : Int) (condition : NodeCondition) : NodeCondition :=
  if condition.type ≠ terminatingConditionType then condition
  else if condition.status = conditionTrue then condition
  else terminatingCondition now

/-- `addNodeTerminationCondition`, at the instant `now`. -/
def addNodeTerminationCondition (now : Int) (node : Node) : Node :=
  if !nodeHasTerminationCondition node then
    { node with conditions := node.conditions ++ [terminatingCondition now] }
  else { node with conditions := node.conditions.map (refreshCondition now) }

/-- `handler.markNodeForDeletion` at the instant `now`: `get` is the answer of the client's `Get`
of the node, `updateStatus` the error of the status update of the node it is given, if any. It
returns how the call ends and the node it sent to the update. -/
def markNodeForDeletion (now : Int) (get : Except KubeError Node)
    (updateStatus : Node → Option KubeError) : Outcome Unit × Option Node :=
  match get with
  | .error err => (.error (.new ("error fetching node: " ++ err.error)), none)
  | .ok node =>
    let node := addNodeTerminationCondition now node
    match updateStatus node with
    | some _ => (.error (.new "error updating node status"), some node)
    | none => (.ok (), some node)

/-! ### `addNodeTerminationCondition` -/

section Add

variable (now : Int) (node : Node)

theorem nodeHasTerminationCondition_iff :
    nodeHasTerminationCondition node = true ↔
      ∃ c ∈ node.conditions, c.type = terminatingConditionType := by
  simp [nodeHasTerminationCondition]

@[simp] theorem terminatingCondition_type :
    (terminatingCondition now).type = terminatingConditionType := rfl

@[simp] theorem terminatingCondition_status :
    (terminatingCondition now).status = conditionTrue := rfl

/-- A refreshed condition has the type it had. -/
@[simp] theorem refreshCondition_type (c : NodeCondition) :
    (refreshCondition now c).type = c.type := by
  unfold refreshCondition
  split_ifs with h₁ h₂
  exacts [rfl, rfl, (Decidable.of_not_not h₁).symm]

/-- A refreshed `Terminating` condition is `True`. -/
theorem refreshCondition_status {c : NodeCondition} (hc : c.type = terminatingConditionType) :
    (refreshCondition now c).status = conditionTrue := by
  unfold refreshCondition
  split_ifs with h₁ h₂
  exacts [absurd hc h₁, h₂, rfl]

/-- A condition of another type, or one that is `True`, is kept. -/
theorem refreshCondition_of_kept {c : NodeCondition}
    (hc : c.type ≠ terminatingConditionType ∨ c.status = conditionTrue) :
    refreshCondition now c = c := by
  unfold refreshCondition
  split_ifs with h₁ h₂
  exacts [rfl, rfl, absurd (hc.resolve_left h₁) h₂]

theorem addNodeTerminationCondition_of_none
    (h : ∀ c ∈ node.conditions, c.type ≠ terminatingConditionType) :
    addNodeTerminationCondition now node =
      { node with conditions := node.conditions ++ [terminatingCondition now] } := by
  have : nodeHasTerminationCondition node = false := by
    simpa [nodeHasTerminationCondition] using h
  simp [addNodeTerminationCondition, this]

theorem addNodeTerminationCondition_of_some
    (h : ∃ c ∈ node.conditions, c.type = terminatingConditionType) :
    addNodeTerminationCondition now node =
      { node with conditions := node.conditions.map (refreshCondition now) } := by
  simp [addNodeTerminationCondition, (nodeHasTerminationCondition_iff node).mpr h]

/-- The conditions of other types are the node's own, in order. -/
theorem filter_addNodeTerminationCondition :
    (addNodeTerminationCondition now node).conditions.filter
        (·.type ≠ terminatingConditionType) =
      node.conditions.filter (·.type ≠ terminatingConditionType) := by
  by_cases h : ∃ c ∈ node.conditions, c.type = terminatingConditionType
  · have hp : (fun c : NodeCondition => decide (c.type ≠ terminatingConditionType)) ∘
        refreshCondition now = fun c => decide (c.type ≠ terminatingConditionType) := by
      funext c
      simp
    rw [addNodeTerminationCondition_of_some now node h, List.filter_map, hp]
    refine (List.map_congr_left fun c hc => refreshCondition_of_kept now (.inl ?_)).trans
      (List.map_id _)
    simpa using (List.mem_filter.mp hc).2
  · rw [addNodeTerminationCondition_of_none now node (by simpa using h)]
    simp

/-- Afterwards every `Terminating` condition is `True`, and there is one. -/
theorem addNodeTerminationCondition_terminating :
    (∃ c ∈ (addNodeTerminationCondition now node).conditions,
        c.type = terminatingConditionType) ∧
      ∀ c ∈ (addNodeTerminationCondition now node).conditions,
        c.type = terminatingConditionType → c.status = conditionTrue := by
  by_cases h : ∃ c ∈ node.conditions, c.type = terminatingConditionType
  · rw [addNodeTerminationCondition_of_some now node h]
    obtain ⟨c, hc, hT⟩ := h
    refine ⟨⟨_, List.mem_map_of_mem _ hc, by simpa using hT⟩, ?_⟩
    simp only [List.mem_map]
    rintro _ ⟨c, _, rfl⟩ hT
    exact refreshCondition_status now (by simpa using hT)
  · rw [addNodeTerminationCondition_of_none now node (by simpa using h)]
    refine ⟨⟨_, List.mem_append_right _ (List.mem_singleton_self _), rfl⟩, fun c hc hT => ?_⟩
    rcases List.mem_append.mp hc with hc | hc
    · exact absurd ⟨c, hc, hT⟩ h
    · rw [List.mem_singleton.mp hc]
      rfl

/-- A marked node: it has a `Terminating` condition, and every one is `True`. -/
theorem addNodeTerminationCondition_marked {node : Node}
    (h : ∃ c ∈ node.conditions, c.type = terminatingConditionType)
    (hT : ∀ c ∈ node.conditions, c.type = terminatingConditionType → c.status = conditionTrue) :
    addNodeTerminationCondition now node = node := by
  suffices node.conditions.map (refreshCondition now) = node.conditions by
    rw [addNodeTerminationCondition_of_some now node h, this]
  refine (List.map_congr_left fun c hc => refreshCondition_of_kept now ?_).trans (List.map_id _)
  by_cases hc' : c.type = terminatingConditionType
  exacts [.inr (hT c hc hc'), .inl hc']

/-- **Adding the `Terminating` condition.** Afterwards the node has a `Terminating` condition
and every one is `True`; the conditions of other types are the node's own, in order; when the node
had a `Terminating` condition, no condition is appended and every condition of another type or
that was `True` is kept in place; when it had none, the new condition is appended; and a second
call, at any instant, changes nothing. -/
theorem addNodeTerminationCondition_spec :
    (∃ c ∈ (addNodeTerminationCondition now node).conditions,
      c.type = terminatingConditionType) ∧
    (∀ c ∈ (addNodeTerminationCondition now node).conditions,
      c.type = terminatingConditionType → c.status = conditionTrue) ∧
    (addNodeTerminationCondition now node).conditions.filter
        (·.type ≠ terminatingConditionType) =
      node.conditions.filter (·.type ≠ terminatingConditionType) ∧
    ((∃ c ∈ node.conditions, c.type = terminatingConditionType) →
      List.Forall₂ (fun old new =>
          (old.type ≠ terminatingConditionType ∨ old.status = conditionTrue) → new = old)
        node.conditions (addNodeTerminationCondition now node).conditions) ∧
    ((∀ c ∈ node.conditions, c.type ≠ terminatingConditionType) →
      (addNodeTerminationCondition now node).conditions =
        node.conditions ++ [terminatingCondition now]) ∧
    ∀ now', addNodeTerminationCondition now' (addNodeTerminationCondition now node) =
      addNodeTerminationCondition now node := by
  obtain ⟨hsome, hT⟩ := addNodeTerminationCondition_terminating now node
  refine ⟨hsome, hT, filter_addNodeTerminationCondition now node, fun h => ?_,
    fun h => by rw [addNodeTerminationCondition_of_none now node h],
    fun now' => addNodeTerminationCondition_marked now' hsome hT⟩
  rw [addNodeTerminationCondition_of_some now node h, List.forall₂_map_right_iff]
  exact List.forall₂_same.mpr fun c _ hc => refreshCondition_of_kept now hc

end Add

/-! ### Attempts over time -/

/-- One attempt to mark the node in the store, at the instant `now`: `getError` is the failure of
the `Get`, if any, and `updateStatus` that of the update. A successful update stores the node it
was sent; otherwise the store is unchanged. -/
def markAttempt (now : Int) (getError : Option KubeError) (updateStatus : Node → Option KubeError)
    (stored : Node) : Node :=
  let get : Except KubeError Node := match getError with
    | some err => .error err
    | none => .ok stored
  match markNodeForDeletion now get updateStatus with
  | (.ok (), some node) => node
  | _ => stored

/-- An attempt stores the node unchanged or marked at its instant. -/
theorem markAttempt_eq (now : Int) (getError : Option KubeError)
    (updateStatus : Node → Option KubeError) (stored : Node) :
    markAttempt now getError updateStatus stored = stored ∨
      markAttempt now getError updateStatus stored = addNodeTerminationCondition now stored := by
  unfold markAttempt markNodeForDeletion
  rcases getError with _ | err
  · dsimp only
    cases updateStatus (addNodeTerminationCondition now stored)
    exacts [.inr rfl, .inl rfl]
  · exact .inl rfl

end AwsProvider.Termination
