import AwsProvider.PlacementGroup.Cycle
import Mathlib.Logic.Relation

/-!
# Runs of placement-group cycles

The store of one placement-group object over time: the controller's cycles, each against the
same cloud (whose answers may depend on every call made before), interleaved with what a user
and the API server do to the object: edit its spec, ask for its deletion, and remove an object
being deleted once it has no finalizer left. A cycle that panics or fails before its patches
leaves the store as it was.

## What is proved

* `Latched.step`, `Latched.run`: once the stored object's status says `Unmanaged`, it says so in
  every later state; no later call is a create or a delete; and the finalizer is on the object
  only if it was there from the start;
* `unmanaged_latched`: the same from any state whose object says `Unmanaged`, and that a cycle
  on a later object whose spec says `Managed` again makes no call and leaves it as it was.

## Honest scope

A user edits the spec and asks for deletion; edits of the status or of the finalizers by hand,
and an object created again under the same name, are not modelled.
-/

namespace AwsProvider.PlacementGroup

open Go EC2 Api

/-! ### Steps -/

/-- The stored object after a cycle that ended in `o`: a cycle that panics patches nothing. -/
def reconciledStore (stored : Option AWSPlacementGroup) : Outcome Reconciled →
    Option AWSPlacementGroup
  | .ok r => r.stored
  | _ => stored

/-- A state of a run: the stored object, and the calls made to the cloud so far. -/
abbrev RunState := Option AWSPlacementGroup × List Call

/-- One step of a run against the cloud `cloud`. -/
inductive Step (cloud : Cloud) : RunState → RunState → Prop
  /-- A cycle of the controller, from the calls made so far. -/
  | reconcile (env : Cycle) (stored : Option AWSPlacementGroup) (h : List Call) :
      Step cloud (stored, h) (reconciledStore stored ((Reconcile env stored).run cloud h).1,
        ((Reconcile env stored).run cloud h).2)
  /-- A user's edit of the spec. -/
  | editSpec (pg : AWSPlacementGroup) (spec : AWSPlacementGroupSpec) (h : List Call) :
      Step cloud (some pg, h) (some { pg with spec := spec }, h)
  /-- A user's delete: the API server sets the deletion timestamp. -/
  | requestDeletion (pg : AWSPlacementGroup) (t : Int) (h : List Call) :
      pg.deletionTimestamp = none →
      Step cloud (some pg, h) (some { pg with deletionTimestamp := some t }, h)
  /-- The API server removes an object being deleted that has no finalizer left. -/
  | remove (pg : AWSPlacementGroup) (h : List Call) :
      pg.deletionTimestamp.isSome → pg.finalizers = [] → Step cloud (some pg, h) (none, h)

/-- A cycle on no object reads nothing, calls nothing and patches nothing. -/
theorem Reconcile_none (env : Cycle) :
    ∃ err, Reconcile env none = .pure ⟨none, default, err⟩ := by
  unfold Reconcile Cycle.get
  cases env.getError <;> exact ⟨_, rfl⟩

/-- A cycle on an object whose spec does not say `Managed` makes no create and no delete. -/
theorem CycleCallOk.not_mutating {cloud : Cloud} {obj : AWSPlacementGroup} {hist : List Call}
    {c : Call} (hm : ¬obj.Managed) (hc : CycleCallOk cloud obj hist c) :
    c.isCreatePlacementGroup = false ∧ c.isDeletePlacementGroup = false := by
  cases c
  case createPlacementGroup => exact absurd hc.1 hm
  case deletePlacementGroup => exact absurd hc.1 hm
  all_goals exact ⟨rfl, rfl⟩

/-! ### The latch -/

/-- What stays true of a run from a state whose object said `Unmanaged`, with `fin0` whether it
had the finalizer then and `h0` the calls made by then. -/
structure Latched (fin0 : Bool) (h0 : List Call) (s : RunState) : Prop where
  /-- The status says `Unmanaged`. -/
  unmanaged : ∀ pg, s.1 = some pg → pg.status.managementState = unmanagedManagementState
  /-- The finalizer was not added. -/
  finalizer : hasFinalizer s.1 = true → fin0 = true
  /-- No create and no delete since. -/
  calls : ∃ new, s.2 = h0 ++ new ∧
    ∀ c ∈ new, c.isCreatePlacementGroup = false ∧ c.isDeletePlacementGroup = false

variable {cloud : Cloud} {fin0 : Bool} {h0 : List Call}

/-- A state with the same object and more calls, none a create or a delete. -/
theorem Latched.extend {stored : Option AWSPlacementGroup} {h : List Call}
    (hl : Latched fin0 h0 (stored, h)) (new : List Call)
    (hnew : ∀ c ∈ new, c.isCreatePlacementGroup = false ∧ c.isDeletePlacementGroup = false) :
    Latched fin0 h0 (stored, h ++ new) := by
  obtain ⟨n0, hh : h = h0 ++ n0, hn0⟩ := hl.calls
  refine ⟨hl.unmanaged, hl.finalizer, n0 ++ new, by simp [hh], fun c hc => ?_⟩
  rcases List.mem_append.mp hc with hc | hc
  exacts [hn0 c hc, hnew c hc]

/-- A cycle keeps the latch: the object said `Unmanaged`, so a valid one is `Unmanaged` in its
spec too, and the cycle neither mutates the cloud nor adds the finalizer; an invalid one is left
alone. -/
theorem Latched.reconcile (env : Cycle) {stored : Option AWSPlacementGroup} {h : List Call}
    (hl : Latched fin0 h0 (stored, h)) :
    Latched fin0 h0 (reconciledStore stored ((Reconcile env stored).run cloud h).1,
      ((Reconcile env stored).run cloud h).2) := by
  rcases stored with _ | obj
  · obtain ⟨err, hnone⟩ := Reconcile_none env
    simpa [hnone] using hl
  have hU := hl.unmanaged obj rfl
  have hrs : (Reconcile env (some obj)).RunSat cloud _ _ h := Reconcile_runSat env obj h
  obtain ⟨new, hlog, hcalls⟩ := hrs.run_calls
  obtain ⟨hinvalid, hend⟩ := hrs.run_end
  by_cases hv : validateAWSPlacementGroup obj = none
  swap
  · obtain ⟨hh, res, err, ho⟩ := hinvalid hv
    rw [ho, hh]
    exact hl
  have hm : ¬obj.Managed := fun hm => validateAWSPlacementGroup_managed_of_unmanaged hU hm hv
  have hspecU := (validateAWSPlacementGroup_eq_none hv).1.resolve_left hm
  rw [hlog]
  generalize ((Reconcile env (some obj)).run cloud h).1 = o at hend
  refine ⟨?_, ?_, (hl.extend new fun c hc => ?_).calls⟩
  · cases o with
    | ok r => exact fun pg hpg => (hend.stored pg hpg).2.2.2.elim (·.trans hU) (·.trans hspecU)
    | _ => exact hl.unmanaged
  · cases o with
    | ok r =>
      intro ha
      cases hf : containsFinalizer obj awsPlacementGroupFinalizer
      · exact absurd (hend.finalizerAdded ha hf).1 hm
      · exact hl.finalizer hf
    | _ => exact hl.finalizer
  · obtain ⟨pre, post, rfl⟩ := List.append_of_mem hc
    exact (hcalls pre c post rfl).not_mutating hm

/-- **One step keeps the latch.** -/
theorem Latched.step {s s' : RunState} (hl : Latched fin0 h0 s) (step : Step cloud s s') :
    Latched fin0 h0 s' := by
  cases step with
  | reconcile env stored h => exact hl.reconcile env
  | editSpec pg spec h =>
    exact ⟨fun _ hpg => by cases hpg; exact hl.unmanaged pg rfl, hl.finalizer, hl.calls⟩
  | requestDeletion pg t h _ =>
    exact ⟨fun _ hpg => by cases hpg; exact hl.unmanaged pg rfl, hl.finalizer, hl.calls⟩
  | remove pg h _ _ =>
    exact ⟨fun _ hpg => (nomatch hpg), fun hf => (nomatch hf), hl.calls⟩

/-- **A run keeps the latch.** -/
theorem Latched.run {s s' : RunState} (hl : Latched fin0 h0 s)
    (hrun : Relation.ReflTransGen (Step cloud) s s') : Latched fin0 h0 s' := by
  induction hrun with
  | refl => exact hl
  | tail _ step ih => exact ih.step step

/-- **Unmanaged is for good.** From a state whose object says `Unmanaged`, in every later state
the object says `Unmanaged`, no call made since is a create or a delete, the finalizer is on the
object only if it was at the start, and a cycle on an object whose spec says `Managed` again
makes no call and leaves the object as it was. -/
theorem unmanaged_latched (s0 s : RunState)
    (hU : ∀ pg, s0.1 = some pg → pg.status.managementState = unmanagedManagementState)
    (hrun : Relation.ReflTransGen (Step cloud) s0 s) :
    Latched (hasFinalizer s0.1) s0.2 s ∧
      ∀ env pg, s.1 = some pg → pg.Managed →
        ∃ res err, (Reconcile env (some pg)).run cloud s.2 = (.ok ⟨some pg, res, err⟩, s.2) := by
  have hl : Latched (hasFinalizer s0.1) s0.2 s := Latched.run ⟨hU, id, [], by simp, by simp⟩ hrun
  refine ⟨hl, fun env pg hpg hm => ?_⟩
  have hv := validateAWSPlacementGroup_managed_of_unmanaged (hl.unmanaged pg hpg) hm
  have hrs : (Reconcile env (some pg)).RunSat cloud _ _ s.2 := Reconcile_runSat env pg s.2
  obtain ⟨hh, res, err, ho⟩ := hrs.run_end.1 hv
  exact ⟨res, err, Prod.ext ho hh⟩

/-- `managedSpreadGroup` once released: its spec and its status say `Unmanaged`. -/
def releasedSpreadGroup : AWSPlacementGroup :=
  { managedSpreadGroup with
    spec := ⟨⟨unmanagedManagementState, none⟩, none⟩
    status := ⟨[], none, unmanagedManagementState, default⟩ }

theorem unmanaged_latched_edit_back :
    Latched (hasFinalizer (some releasedSpreadGroup)) []
        (some { releasedSpreadGroup with spec := managedSpreadGroup.spec }, []) ∧
      ∀ env pg, some { releasedSpreadGroup with spec := managedSpreadGroup.spec } = some pg →
        pg.Managed → ∃ res err, (Reconcile env (some pg)).run unauthorizedCloud [] =
          (.ok ⟨some pg, res, err⟩, []) :=
  unmanaged_latched (some releasedSpreadGroup, []) _ (fun _ h => by cases h; rfl)
    (.single (.editSpec _ _ []))

end AwsProvider.PlacementGroup
