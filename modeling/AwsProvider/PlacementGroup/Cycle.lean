import AwsProvider.PlacementGroup.Controller

/-!
# One placement-group cycle

What one `Reconcile` cycle does on the stored object, for every answer of the cloud and every
outcome of the reads and patches of the cluster. The cycle's calls are checked with `RunSat`
against `CycleCallOk`, which sees the history before each call; its end is described by
`ReconcileEnd`.

## What is proved

* `reconcile_runSat`: a create is made only for a managed object that is not being deleted and
  carries the finalizer, right after a describe of its name that found no group (or failed with a
  4xx error); a delete only for a managed object being deleted that carries the finalizer; the
  finalizer is added only to a managed object not being deleted, and removed only from an
  unmanaged object or after `deletePlacementGroup` succeeded;
* `Reconcile_cycle`: the same of a whole cycle, with the patches (`CycleEnd`), and that an
  object failing validation is left alone, with no call;
* `Reconcile_nil_platformStatus`: a cycle on a valid object panics when the Infrastructure object
  has no platform status.
-/

namespace AwsProvider.PlacementGroup

open Go EC2 Api

/-! ### Objects a cycle may change -/

/-- The spec says `Managed`. -/
def AWSPlacementGroup.Managed (pg : AWSPlacementGroup) : Prop :=
  pg.spec.managementSpec.managementState = managedManagementState

/-- `pg'` is `pg` with at most its conditions, observed configuration and expiry changed, as
`reflectObservedConfiguration` and `checkOrCreatePlacementGroup` leave it. -/
structure AWSPlacementGroup.Refreshed (pg pg' : AWSPlacementGroup) : Prop where
  /-- The same name. -/
  name : pg'.name = pg.name
  /-- The same deletion timestamp. -/
  deletionTimestamp : pg'.deletionTimestamp = pg.deletionTimestamp
  /-- The same finalizers. -/
  finalizers : pg'.finalizers = pg.finalizers
  /-- The same spec. -/
  spec : pg'.spec = pg.spec
  /-- The same management state in the status. -/
  managementState : pg'.status.managementState = pg.status.managementState

namespace AWSPlacementGroup.Refreshed

theorem refl (pg : AWSPlacementGroup) : pg.Refreshed pg := ⟨rfl, rfl, rfl, rfl, rfl⟩

theorem trans {pg pg' pg'' : AWSPlacementGroup} (h : pg.Refreshed pg') (h' : pg'.Refreshed pg'') :
    pg.Refreshed pg'' :=
  ⟨h'.1.trans h.1, h'.2.trans h.2, h'.3.trans h.3, h'.4.trans h.4, h'.5.trans h.5⟩

theorem setCondition (pg : AWSPlacementGroup) (c : Condition) : pg.Refreshed (pg.setCondition c) :=
  ⟨rfl, rfl, rfl, rfl, rfl⟩

theorem expiringAt (pg : AWSPlacementGroup) (now : Int) : pg.Refreshed (pg.expiringAt now) :=
  ⟨rfl, rfl, rfl, rfl, rfl⟩

theorem setObservedConfiguration (pg : AWSPlacementGroup) (g : EC2.PlacementGroup) :
    pg.Refreshed (PlacementGroup.setObservedConfiguration pg g) := by
  unfold PlacementGroup.setObservedConfiguration
  dsimp only
  split <;> exact ⟨rfl, rfl, rfl, rfl, rfl⟩

end AWSPlacementGroup.Refreshed

/-! ### The describe by name -/

/-- The describe of a name found no group: it answered none, or failed with a 4xx error. -/
def NoGroupFound : Except AWSError DescribePlacementGroupsOutput → Prop
  | .ok out => out.placementGroups = []
  | .error err => isAWS4xxError err = true

variable {cloud : Cloud}

/-- `describePlacementGroupsByName` makes its one describe call, reads no group exactly when that
call found none, and reads groups only when the call answered them. -/
theorem describePlacementGroupsByName_runSat {P : List Call → Call → Prop} (name : String)
    (h : List Call) (hP : P h (.describePlacementGroups ⟨[name]⟩)) :
    (describePlacementGroupsByName name).RunSat cloud P (fun o log =>
      log = h ++ [.describePlacementGroups ⟨[name]⟩] ∧ ∃ r, o = .ok r ∧
        (r = .ok [] ↔ NoGroupFound (cloud h (.describePlacementGroups ⟨[name]⟩))) ∧
        ∀ groups, r = .ok groups → groups ≠ [] →
          cloud h (.describePlacementGroups ⟨[name]⟩) = .ok ⟨groups⟩) h := by
  refine ⟨hP, ?_⟩
  generalize cloud h (.describePlacementGroups ⟨[name]⟩) = r
  rcases r with err | ⟨groups⟩ <;> refine (Prog.runSat_pure _ _).mpr ⟨rfl, _, rfl, ?_, ?_⟩
  · by_cases h4 : isAWS4xxError err <;> simp [h4, NoGroupFound, sdkOutput, default]
  · by_cases h4 : isAWS4xxError err <;> simp [h4, sdkOutput, default]
  · simp [NoGroupFound]
  · simp

/-! ### The calls of a cycle -/

/-- The calls a cycle on the object `obj` may make, given the history before each: a create only
for a managed object that is not being deleted and carries the finalizer, right after a describe
of its name that found no group; a delete only for a managed object being deleted that carries
the finalizer. -/
def CycleCallOk (cloud : Cloud) (obj : AWSPlacementGroup) (hist : List Call) : Call → Prop
  | .createPlacementGroup _ => obj.Managed ∧ obj.deletionTimestamp = none ∧
      containsFinalizer obj awsPlacementGroupFinalizer = true ∧
      ∃ h0, hist = h0 ++ [.describePlacementGroups ⟨[obj.name]⟩] ∧
        NoGroupFound (cloud h0 (.describePlacementGroups ⟨[obj.name]⟩))
  | .deletePlacementGroup _ => obj.Managed ∧ obj.deletionTimestamp.isSome ∧
      containsFinalizer obj awsPlacementGroupFinalizer = true
  | _ => True

/-- The observed configuration is refreshed with describe calls only, and only the status
changes. -/
theorem reflectObservedConfiguration_runSat (obj pg : AWSPlacementGroup) (now : Int)
    (h : List Call) :
    (reflectObservedConfiguration pg now).RunSat cloud (CycleCallOk cloud obj)
      (fun o _ => Outcome.Spec (fun v => pg.Refreshed v.1) (fun _ => True) o) h := by
  refine Prog.RunSat.bind (describePlacementGroupsByName_runSat pg.name h trivial)
    (fun v _ _ => ?_) (fun _ _ _ => trivial) (fun _ _ _ => trivial)
  rcases v with err | _ | ⟨g, _ | ⟨g', gs⟩⟩
  · exact .refl pg
  · exact .expiringAt pg now
  · refine Prog.runSat_ofOutcome_bind (fun _ _ => ?_) (fun _ he => ?_) (fun _ _ => trivial)
    · exact (AWSPlacementGroup.Refreshed.setObservedConfiguration pg g).trans (.expiringAt _ now)
    · cases hg : g.groupId <;> simp [hg] at he
  · exact .refl pg

/-- Checking or creating asks a create only right after a describe of the name that found no
group, and only the status changes. -/
theorem checkOrCreatePlacementGroup_runSat (obj pg : AWSPlacementGroup) (infra : Infrastructure)
    (h : List Call) (hname : pg.name = obj.name) (hmanaged : obj.Managed)
    (hdel : obj.deletionTimestamp = none)
    (hfin : containsFinalizer obj awsPlacementGroupFinalizer = true) :
    (checkOrCreatePlacementGroup pg infra).RunSat cloud (CycleCallOk cloud obj)
      (fun o _ => Outcome.Spec (fun v => pg.Refreshed v.1) (fun _ => True) o) h := by
  refine Prog.RunSat.bind (describePlacementGroupsByName_runSat pg.name h trivial)
    (fun v h' ⟨hlog, r, hr, hiff, _⟩ => ?_) (fun _ _ _ => trivial) (fun _ _ _ => trivial)
  cases hr
  rcases v with err | _ | ⟨g, _ | ⟨g', gs⟩⟩ <;> dsimp only
  · exact .refl pg
  · refine Prog.runSat_ofOutcome_bind (fun tagList _ => ?_) (fun _ he => ?_) (fun _ _ => trivial)
    swap
    · rw [buildPlacementGroupTagList_some, Machine.buildTagList_eq] at he; cases he
    refine Prog.runSat_deref_bind _ (fun managed _ => ?_) trivial
    split
    · exact .refl pg
    · rename_i input _
      refine Prog.runSat_client_bind _ _
        ⟨hmanaged, hdel, hfin, h, hname ▸ hlog, hname ▸ hiff.mp rfl⟩ ?_
      rcases cloud h' (.createPlacementGroup input) with err | out
      · exact .setCondition pg _
      · refine Prog.runSat_deref_bind _ (fun g _ => ?_) trivial
        refine Prog.runSat_deref_bind _ (fun _ _ => ?_) trivial
        exact Prog.runSat_deref_bind _ (fun _ _ => .setCondition pg _) trivial
  · split
    · trivial
    · exact AWSPlacementGroup.Refreshed.setCondition pg _
    · exact AWSPlacementGroup.Refreshed.setObservedConfiguration pg g
  · exact .refl pg

theorem describePlacementGroupsByName_sat (name : String) :
    (describePlacementGroupsByName name).Sat (·.isDescribe) fun _ => True := by
  refine Prog.sat_client_bind _ (by rfl) _ fun r => ?_
  rcases r with _ | _ <;> trivial

/-- Deleting asks describe calls and deletes, and no create. -/
theorem deletePlacementGroup_sat (pg : AWSPlacementGroup) (infra : Infrastructure) :
    (deletePlacementGroup pg infra).Sat (!·.isCreatePlacementGroup) fun _ => True := by
  refine Prog.Sat.bind ((describePlacementGroupsByName_sat pg.name).mono
    (fun c h => by cases c <;> simp_all [Call.isDescribe, Call.isCreatePlacementGroup])
    fun _ _ => trivial) (fun v _ => ?_) (fun _ _ => trivial) (fun _ _ => trivial)
  rcases v with _ | _ | ⟨g, _ | _⟩ <;> dsimp only
  · trivial
  · trivial
  · split_ifs
    · trivial
    refine Prog.sat_client_bind _ (by rfl) _ fun r => ?_
    rcases r with _ | out
    · trivial
    refine Prog.Sat.bind ((Prog.sat_ofOutcome (fun _ => True) _).mpr trivial) (fun n _ => ?_)
      (fun _ _ => trivial) (fun _ _ => trivial)
    split_ifs
    · trivial
    refine Prog.sat_client_bind _ (by rfl) _ fun r => ?_
    rcases r with _ | _ <;> trivial
  · trivial

/-- `deletePlacementGroup` reads only the name of the object. -/
theorem deletePlacementGroup_congr {pg pg' : AWSPlacementGroup} (h : pg.name = pg'.name)
    (infra : Infrastructure) : deletePlacementGroup pg infra = deletePlacementGroup pg' infra := by
  simp only [deletePlacementGroup, h]

/-! ### How `reconcile` ends -/

/-- How a `reconcile` run on `obj` that ended with the history `log` leaves the object `r.pg`. -/
structure ReconcileEnd (cloud : Cloud) (infra : Infrastructure) (obj : AWSPlacementGroup)
    (log : List Call) (r : ReconcileResult) : Prop where
  /-- The same name. -/
  name : r.pg.name = obj.name
  /-- The same spec. -/
  spec : r.pg.spec = obj.spec
  /-- The same deletion timestamp. -/
  deletionTimestamp : r.pg.deletionTimestamp = obj.deletionTimestamp
  /-- The management state of the status is kept, or set to the spec's. -/
  managementState : r.pg.status.managementState = obj.status.managementState ∨
    r.pg.status.managementState = obj.spec.managementSpec.managementState
  /-- The finalizer is added only to a managed object not being deleted. -/
  finalizerAdded : containsFinalizer r.pg awsPlacementGroupFinalizer = true →
    containsFinalizer obj awsPlacementGroupFinalizer = false →
    obj.Managed ∧ obj.deletionTimestamp = none
  /-- The finalizer is removed only from an unmanaged object, or from an object being deleted
  once `deletePlacementGroup` succeeded on this run. -/
  finalizerRemoved : containsFinalizer r.pg awsPlacementGroupFinalizer = false →
    containsFinalizer obj awsPlacementGroupFinalizer = true →
    obj.spec.managementSpec.managementState = unmanagedManagementState ∨
      (obj.deletionTimestamp.isSome ∧
        ∃ h', (deletePlacementGroup obj infra).run cloud h' = (.ok (), log))

/-- An end that keeps the finalizers. -/
theorem ReconcileEnd.of_finalizers {infra : Infrastructure} {obj : AWSPlacementGroup}
    {log : List Call} {r : ReconcileResult} (h : obj.Refreshed r.pg ∨
      (obj.Refreshed { r.pg with status := { r.pg.status with
        managementState := obj.status.managementState } } ∧
        r.pg.status.managementState = obj.spec.managementSpec.managementState)) :
    ReconcileEnd cloud infra obj log r := by
  have keep : ∀ {b : Bool}, r.pg.finalizers = obj.finalizers →
      containsFinalizer r.pg awsPlacementGroupFinalizer = b →
      containsFinalizer obj awsPlacementGroupFinalizer = !b → False := fun hf ha hb => by
    simp only [containsFinalizer, hf] at ha hb; cases ha; simp at hb
  rcases h with h | ⟨h, hstate⟩
  · exact ⟨h.name, h.spec, h.deletionTimestamp, .inl h.managementState,
      fun ha hb => (keep h.finalizers ha hb).elim, fun ha hb => (keep h.finalizers ha hb).elim⟩
  · exact ⟨h.name, h.spec, h.deletionTimestamp, .inr hstate,
      fun ha hb => (keep h.finalizers ha hb).elim, fun ha hb => (keep h.finalizers ha hb).elim⟩

/-- Deleting, seen by `reconcile` through `attempt`: a success is a successful run of
`deletePlacementGroup` on the object. -/
theorem deletePlacementGroup_attempt_runSat (obj pg : AWSPlacementGroup) (infra : Infrastructure)
    (h : List Call) (hname : pg.name = obj.name) (hmanaged : obj.Managed)
    (hdel : obj.deletionTimestamp.isSome = true)
    (hfin : containsFinalizer obj awsPlacementGroupFinalizer = true) :
    (deletePlacementGroup pg infra).attempt.RunSat cloud (CycleCallOk cloud obj)
      (fun d log => d = .ok (.ok ()) → (deletePlacementGroup obj infra).run cloud h = (.ok (), log))
      h := by
  refine Prog.RunSat.attempt (((Prog.runSat_of_sat (deletePlacementGroup_sat pg infra)
    (fun _ c hc => ?_) (fun _ _ _ => trivial) h).and_run).mono (fun _ _ hc => hc)
    fun o log ⟨_, hrun⟩ hd => ?_)
  · cases c <;> trivial
  · rw [deletePlacementGroup_congr hname.symm, hrun]
    cases o <;> simp_all [Prog.attemptOutcome]

/-- **One `reconcile`.** For every answer of the cloud, its calls are those `CycleCallOk` allows,
and it ends as `ReconcileEnd` says. -/
theorem reconcile_runSat (infra : Infrastructure) (now : Int) (obj : AWSPlacementGroup)
    (h : List Call) (hvalid : validateAWSPlacementGroup obj = none) :
    (reconcile infra now obj).RunSat cloud (CycleCallOk cloud obj)
      (fun o log => Outcome.Spec (ReconcileEnd cloud infra obj log) (fun _ => True) o) h := by
  have hstate := (validateAWSPlacementGroup_eq_none hvalid).1
  unfold reconcile
  refine Prog.RunSat.bind (by
      split_ifs
      exacts [reflectObservedConfiguration_runSat obj obj now h, AWSPlacementGroup.Refreshed.refl obj])
    (fun v h1 hv => ?_) (fun _ _ _ => trivial) (fun _ _ _ => trivial)
  obtain ⟨pg, err⟩ := v
  have hpg : obj.Refreshed pg := hv
  have hspec : pg.spec.managementSpec.managementState = obj.spec.managementSpec.managementState :=
    congrArg (·.managementSpec.managementState) hpg.spec
  -- `pg'`, the object once its status took the spec's management state, and what keeps it
  have hend : ∀ q : AWSPlacementGroup, q.name = pg.name → q.deletionTimestamp = pg.deletionTimestamp →
      q.finalizers = pg.finalizers → q.spec = pg.spec →
      q.status.managementState = pg.spec.managementSpec.managementState →
      ∀ res e log, ReconcileEnd cloud infra obj log ⟨q, res, e⟩ :=
    fun q h1 h2 h3 h4 h5 _ _ _ => .of_finalizers (.inr ⟨⟨h1.trans hpg.name,
      h2.trans hpg.deletionTimestamp, h3.trans hpg.finalizers, h4.trans hpg.spec, rfl⟩,
      h5.trans hspec⟩)
  -- past the `Unmanaged` branch, a valid object is managed
  have hman : pg.spec.managementSpec.managementState ≠ unmanagedManagementState → obj.Managed :=
    fun hU => hstate.resolve_right (hspec ▸ hU)
  cases err with
  | some err => exact ReconcileEnd.of_finalizers (.inl hpg)
  | none =>
    dsimp only
    split_ifs with hU hcont hadd hdel hcont'
    -- `Unmanaged` with the finalizer: it is removed
    · exact ⟨hpg.name, hpg.spec, hpg.deletionTimestamp, .inr hspec,
        fun ha _ => by simp at ha, fun _ _ => .inl (hspec ▸ hU)⟩
    -- `Unmanaged` without it: requeued at the expiry
    · refine Prog.runSat_deref_bind _ (fun _ _ => ?_) trivial
      refine hend _ ?_ ?_ ?_ ?_ ?_ _ _ _ <;> rfl
    -- not being deleted, without the finalizer: it is added
    · rw [addFinalizer, if_neg (by simpa using hadd.2)]
      exact ⟨hpg.name, hpg.spec, hpg.deletionTimestamp, .inr hspec,
        fun _ _ => ⟨hman hU, hpg.deletionTimestamp ▸ hadd.1⟩,
        fun ha _ => by simp [containsFinalizer] at ha⟩
    -- being deleted without the finalizer: nothing to do
    · refine hend _ ?_ ?_ ?_ ?_ ?_ _ _ _ <;> rfl
    -- being deleted with it: the group is deleted, then the finalizer removed
    · have hfin : containsFinalizer obj awsPlacementGroupFinalizer = true := by
        simpa [containsFinalizer, hpg.finalizers] using hcont'
      refine Prog.RunSat.bind (deletePlacementGroup_attempt_runSat obj _ infra h1 hpg.name (hman hU)
          (hpg.deletionTimestamp ▸ hdel) hfin) (fun d h2 hd => ?_) (fun _ _ _ => trivial)
        (fun _ _ _ => trivial)
      rcases d with err | ⟨⟩
      · refine hend _ ?_ ?_ ?_ ?_ ?_ _ _ _ <;> rfl
      · exact ⟨hpg.name, hpg.spec, hpg.deletionTimestamp, .inr hspec, fun ha _ => by simp at ha,
          fun _ _ => .inr ⟨hpg.deletionTimestamp ▸ hdel, h1, hd rfl⟩⟩
    -- otherwise: the group is checked, or created
    · have hnone : obj.deletionTimestamp = none := by
        rw [← hpg.deletionTimestamp]; simpa using hdel
      have hfin : containsFinalizer obj awsPlacementGroupFinalizer = true := by
        simpa [containsFinalizer, hpg.finalizers, hpg.deletionTimestamp, hnone] using hadd
      refine Prog.RunSat.bind (checkOrCreatePlacementGroup_runSat obj _ infra h1 hpg.name (hman hU)
          hnone hfin) (fun v h2 hv => ?_) (fun _ _ _ => trivial) (fun _ _ _ => trivial)
      obtain ⟨pg2, err2⟩ := v
      have hpg2 : AWSPlacementGroup.Refreshed _ pg2 := hv
      cases err2 with
      | some err => exact hend pg2 hpg2.1 hpg2.2 hpg2.3 hpg2.4 hpg2.5 _ _ _
      | none =>
        refine Prog.runSat_deref_bind _ (fun _ _ => ?_) trivial
        exact hend pg2 hpg2.1 hpg2.2 hpg2.3 hpg2.4 hpg2.5 _ _ _

/-! ### A whole cycle -/

/-- The finalizer is on the stored object. -/
def hasFinalizer : Option AWSPlacementGroup → Bool
  | some pg => containsFinalizer pg awsPlacementGroupFinalizer
  | none => false

/-- What a cycle on the stored object `obj` that ended with the history `log` leaves in the
store: `obj` with at most its finalizers and status changed, the management state of the status
kept or set to the spec's, and the finalizer added or removed only as `ReconcileEnd` allows. -/
structure CycleEnd (cloud : Cloud) (env : Cycle) (obj : AWSPlacementGroup) (log : List Call)
    (r : Reconciled) : Prop where
  /-- The stored object is `obj` with another status and other finalizers. -/
  stored : ∀ pg, r.stored = some pg → pg.name = obj.name ∧ pg.spec = obj.spec ∧
    pg.deletionTimestamp = obj.deletionTimestamp ∧
    (pg.status.managementState = obj.status.managementState ∨
      pg.status.managementState = obj.spec.managementSpec.managementState)
  /-- The finalizer is added only to a managed object not being deleted. -/
  finalizerAdded : hasFinalizer r.stored = true →
    containsFinalizer obj awsPlacementGroupFinalizer = false →
    obj.Managed ∧ obj.deletionTimestamp = none
  /-- The finalizer is removed only from an unmanaged object, or from an object being deleted
  once `deletePlacementGroup` succeeded on this cycle. -/
  finalizerRemoved : hasFinalizer r.stored = false →
    containsFinalizer obj awsPlacementGroupFinalizer = true →
    obj.spec.managementSpec.managementState = unmanagedManagementState ∨
      (obj.deletionTimestamp.isSome ∧ ∃ infra, env.infrastructure = .ok infra ∧
        ∃ h', (deletePlacementGroup obj infra).run cloud h' = (.ok (), log))

/-- A cycle that leaves the stored object as it was. -/
theorem CycleEnd.unchanged (env : Cycle) (obj : AWSPlacementGroup) (log : List Call)
    (result : Result) (err : Option GoError) : CycleEnd cloud env obj log ⟨some obj, result, err⟩ :=
  ⟨fun _ h => by cases h; exact ⟨rfl, rfl, rfl, .inl rfl⟩,
    fun ha hb => by simp_all [hasFinalizer], fun ha hb => by simp_all [hasFinalizer]⟩

theorem Cycle.get_ok {env : Cycle} {obj pg : AWSPlacementGroup} (h : env.get (some obj) = .ok pg) :
    pg = obj := by
  unfold Cycle.get at h
  split at h <;> cases h
  exact (Option.some.inj ‹_›).symm

/-- The patches keep what `reconcile` did to the finalizers; an object they let the API server
remove had lost its finalizers. -/
theorem patchAWSPlacementGroup_cycleEnd {env : Cycle} {infra : Infrastructure}
    {obj : AWSPlacementGroup} {log : List Call} {r : ReconcileResult}
    (hinfra : env.infrastructure = .ok infra) (hr : ReconcileEnd cloud infra obj log r) :
    CycleEnd cloud env obj log (patchAWSPlacementGroup env obj r) := by
  have removed : containsFinalizer r.pg awsPlacementGroupFinalizer = false →
      containsFinalizer obj awsPlacementGroupFinalizer = true →
      obj.spec.managementSpec.managementState = unmanagedManagementState ∨
        (obj.deletionTimestamp.isSome ∧ ∃ infra, env.infrastructure = .ok infra ∧
          ∃ h', (deletePlacementGroup obj infra).run cloud h' = (.ok (), log)) :=
    fun ha hb => (hr.finalizerRemoved ha hb).imp_right fun ⟨hd, hrun⟩ => ⟨hd, infra, hinfra, hrun⟩
  unfold patchAWSPlacementGroup
  split
  · exact .unchanged env obj log _ _
  split_ifs with hgone
  · exact ⟨fun _ h => (nomatch h), fun h => (nomatch h),
      fun _ => removed (by simp [containsFinalizer, hgone.2])⟩
  split
  · exact ⟨fun _ h => by cases h; exact ⟨rfl, rfl, rfl, .inl rfl⟩, hr.finalizerAdded, removed⟩
  · exact ⟨fun _ h => by cases h; exact ⟨rfl, rfl, rfl, hr.managementState⟩, hr.finalizerAdded,
      removed⟩

/-- **One `Reconcile`.** Every call of a cycle on the stored object `obj` is one `CycleCallOk`
allows; an object failing validation is left as it was, with no call; and the cycle ends as
`CycleEnd` says. -/
theorem Reconcile_runSat (env : Cycle) (obj : AWSPlacementGroup) (h : List Call) :
    (Reconcile env (some obj)).RunSat cloud (CycleCallOk cloud obj) (fun o log =>
      (validateAWSPlacementGroup obj ≠ none → log = h ∧ ∃ res err, o = .ok ⟨some obj, res, err⟩) ∧
      Outcome.Spec (CycleEnd cloud env obj log) (fun _ => True) o) h := by
  unfold Reconcile
  split
  · exact ⟨fun _ => ⟨rfl, _, _, rfl⟩, .unchanged env obj h _ _⟩
  rename_i pg hget
  cases Cycle.get_ok hget
  split_ifs with hinvalid
  · exact ⟨fun _ => ⟨rfl, _, _, rfl⟩, .unchanged env obj h _ _⟩
  have hvalid : validateAWSPlacementGroup obj = none := Option.not_isSome_iff_eq_none.mp hinvalid
  split
  · exact ⟨fun _ => ⟨rfl, _, _, rfl⟩, .unchanged env obj h _ _⟩
  rename_i infra hinfra
  refine Prog.runSat_deref_bind _ (fun _ _ => ?_) ⟨fun hv => absurd hvalid hv, trivial⟩
  refine Prog.runSat_deref_bind _ (fun _ _ => ?_) ⟨fun hv => absurd hvalid hv, trivial⟩
  split
  · exact ⟨fun _ => ⟨rfl, _, _, rfl⟩, .unchanged env obj h _ _⟩
  exact Prog.RunSat.bind (reconcile_runSat infra env.now obj h hvalid)
    (fun _ _ hr => ⟨fun hv => absurd hvalid hv, patchAWSPlacementGroup_cycleEnd hinfra hr⟩)
    (fun _ _ _ => ⟨fun hv => absurd hvalid hv, trivial⟩)
    (fun _ _ _ => ⟨fun hv => absurd hvalid hv, trivial⟩)

/-- **A cycle, on its run.** For every answer of the cloud: every create and delete a cycle on
the stored object `obj` makes is one `CycleCallOk` allows; an object failing validation is left
as it was, with no call; and the stored object is changed only as `CycleEnd` says. -/
theorem Reconcile_cycle (env : Cycle) (obj : AWSPlacementGroup) (h : List Call) :
    ∃ new, ((Reconcile env (some obj)).run cloud h).2 = h ++ new ∧
      (∀ pre c post, new = pre ++ c :: post → CycleCallOk cloud obj (h ++ pre) c) ∧
      (validateAWSPlacementGroup obj ≠ none → new = [] ∧
        ∃ res err, ((Reconcile env (some obj)).run cloud h).1 = .ok ⟨some obj, res, err⟩) ∧
      Outcome.Spec (CycleEnd cloud env obj ((Reconcile env (some obj)).run cloud h).2)
        (fun _ => True) ((Reconcile env (some obj)).run cloud h).1 := by
  obtain ⟨new, hlog, hcalls⟩ := (Reconcile_runSat env obj h).run_calls
  obtain ⟨hinvalid, hend⟩ := (Reconcile_runSat env obj h).run_end
  refine ⟨new, hlog, hcalls, fun hv => ⟨?_, (hinvalid hv).2⟩, hend⟩
  simpa [hlog] using (hinvalid hv).1

/-! ### An Infrastructure object without a platform status -/

/-- A cycle on a valid object panics, before any call, when the Infrastructure object has no
platform status: `Reconcile` reads `infra.Status.PlatformStatus.AWS.Region` with no nil check. -/
theorem Reconcile_nil_platformStatus (env : Cycle) (obj : AWSPlacementGroup) (infra : Infrastructure)
    (h : List Call) (hget : env.getError = none) (hvalid : validateAWSPlacementGroup obj = none)
    (hinfra : env.infrastructure = .ok infra) (hps : infra.status.platformStatus = none) :
    (Reconcile env (some obj)).run cloud h =
      (.panic (.nilPointerDereference "infra.Status.PlatformStatus"), h) := by
  simp [Reconcile, Cycle.get, hget, hvalid, hinfra, hps]

/-- `stubInfraObject` of the machine controller's tests: an Infrastructure object with a name and
no status. -/
def stubInfraObject : Infrastructure := ⟨⟨"", none⟩⟩

/-- A valid object for a managed `Spread` group, with no partition. -/
def managedSpreadGroup : AWSPlacementGroup :=
  ⟨"pg-1", none, [], ⟨⟨managedManagementState, some ⟨awsSpreadPlacementGroupType, none⟩⟩, none⟩,
    default⟩

/-- A cloud that rejects every call as unauthorized, with a 403. -/
def unauthorizedCloud : Cloud := fun _ =>
  Call.failure (.requestFailure "UnauthorizedOperation"
    "You are not authorized to perform this operation." 403 "r-1")

theorem Reconcile_stubInfraObject_panics :
    (Reconcile ⟨none, .ok stubInfraObject, fun _ _ => none, none, none, 0⟩ (some managedSpreadGroup)).run
      unauthorizedCloud [] = (.panic (.nilPointerDereference "infra.Status.PlatformStatus"), []) :=
  Reconcile_nil_platformStatus _ _ _ _ rfl (by decide) rfl rfl

end AwsProvider.PlacementGroup
