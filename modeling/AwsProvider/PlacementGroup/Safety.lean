import AwsProvider.PlacementGroup.Cycle

/-!
# Where a placement-group cycle can panic

Every dereference of a cycle, listed by where it reads. `Reconcile` reads
`infra.Status.PlatformStatus.AWS` unchecked (see `Reconcile_nil_platformStatus`); `reconcile`
reads `Status.ExpiresAt`, and `checkOrCreatePlacementGroup` and
`validateExistingPlacementGroupConfig` read `Spec.ManagementSpec.Managed`, all of them unchecked
but set on every path that reaches them; the other dereferences read fields of the cloud's
answers, which the SDK sets on every answer it hands back.

## What is proved

* `Reconcile_panic_answer`: with an Infrastructure object that has an AWS platform status, every
  panic of a cycle, for every answer of the cloud, is a nil field of an answer (`AnswerPanic`);
* on the way, `reflectObservedConfiguration` leaves an expiry when it succeeds, and
  `checkOrCreatePlacementGroup` keeps the expiry, so that `reconcile`'s reads of it are safe.
-/

namespace AwsProvider.PlacementGroup

open Go EC2 Api

/-! ### Panics on the answers of the cloud -/

/-- The nil dereferences of a field of an answer of the cloud. -/
def AnswerPanic : Panic → Prop
  | .nilPointerDereference expr => expr ∈ ["placementGroups.PlacementGroups[0].GroupId",
      "out.PlacementGroup", "out.PlacementGroup.GroupName", "out.PlacementGroup.GroupId",
      "instance.State"]
  | .indexOutOfRange _ => False

/-- A postcondition: a value satisfies `R`, and a panic is a nil field of an answer. -/
def SafeEnd {α : Type} (R : α → Prop) : Outcome α → Prop
  | .ok v => R v
  | .error _ => True
  | .panic p => AnswerPanic p

theorem safeEnd_deref_answer {α : Type} {expr : String}
    (hexpr : AnswerPanic (.nilPointerDereference expr)) (o : Option α) : SafeEnd (fun _ => True) (deref expr o) := by
  cases o
  exacts [hexpr, trivial]

theorem safeEnd_deref_some {α : Type} {expr : String} {o : Option α} {v : α} (ho : o = some v) :
    SafeEnd (fun _ => True) (deref expr o) := by
  rw [ho]
  trivial

theorem setObservedConfiguration_expiresAt (pg : AWSPlacementGroup) (g : EC2.PlacementGroup) :
    (setObservedConfiguration pg g).status.expiresAt = pg.status.expiresAt := by
  unfold setObservedConfiguration
  dsimp only
  split <;> rfl

theorem activeInstanceCount_safe (instances : List EC2.Instance) :
    SafeEnd (fun _ => True) (activeInstanceCount instances) := by
  induction instances with
  | nil => trivial
  | cons inst insts ih =>
    cases hs : inst.state with
    | none => simp [activeInstanceCount, hs, SafeEnd, AnswerPanic]
    | some s =>
      simp only [activeInstanceCount, hs, deref_some, Outcome.ok_bind]
      revert ih
      cases activeInstanceCount insts <;> exact id

/-- The describe of a name never fails: its error is handed back as a value. -/
theorem describePlacementGroupsByName_ok (name : String) :
    (describePlacementGroupsByName name).Sat (fun _ => True) fun o => ∃ r, o = .ok r := by
  refine Prog.sat_client_bind _ trivial _ fun r => ?_
  rcases r with _ | _ <;> exact ⟨_, rfl⟩

/-! ### The three functions on the group -/

/-- Refreshing the observed configuration keeps the spec, and sets an expiry when it succeeds. -/
theorem reflectObservedConfiguration_safe (pg : AWSPlacementGroup) (now : Int) :
    (reflectObservedConfiguration pg now).Sat (fun _ => True) (SafeEnd fun v =>
      v.1.spec = pg.spec ∧ (v.2 = none → v.1.status.expiresAt.isSome)) := by
  refine Prog.Sat.bind (describePlacementGroupsByName_ok pg.name) (fun v _ => ?_)
    (fun _ ⟨_, h⟩ => nomatch h) (fun _ ⟨_, h⟩ => nomatch h)
  rcases v with err | _ | ⟨g, _ | ⟨g', gs⟩⟩
  · exact ⟨rfl, fun h => nomatch h⟩
  · exact ⟨rfl, fun _ => rfl⟩
  · refine Prog.Sat.bind ((Prog.sat_ofOutcome _ _).mpr
      (safeEnd_deref_answer (by simp [AnswerPanic]) g.groupId)) (fun _ _ => ?_)
      (fun _ _ => trivial) (fun _ h => h)
    exact ⟨(AWSPlacementGroup.Refreshed.setObservedConfiguration pg g).spec, fun _ => rfl⟩
  · exact ⟨rfl, fun h => nomatch h⟩

theorem validateExistingPlacementGroupConfig_ne_panic {pg : AWSPlacementGroup}
    (hm : pg.spec.managementSpec.managed.isSome) (g : EC2.PlacementGroup) (p : Panic) :
    validateExistingPlacementGroupConfig pg g ≠ .panic p := by
  obtain ⟨managed, hmanaged⟩ := Option.isSome_iff_exists.mp hm
  unfold validateExistingPlacementGroupConfig
  split_ifs
  · exact fun h => nomatch h
  simp only [hmanaged, deref_some, Outcome.ok_bind]
  split
  · exact fun h => nomatch h
  split_ifs
  · exact fun h => nomatch h
  split
  · split_ifs <;> exact fun h => nomatch h
  · exact fun h => nomatch h

/-- Checking or creating the group of an object with a configuration keeps its expiry. -/
theorem checkOrCreatePlacementGroup_safe (pg : AWSPlacementGroup) (infra : Infrastructure)
    (hm : pg.spec.managementSpec.managed.isSome) :
    (checkOrCreatePlacementGroup pg infra).Sat (fun _ => True)
      (SafeEnd fun v => v.1.status.expiresAt = pg.status.expiresAt) := by
  obtain ⟨managed, hmanaged⟩ := Option.isSome_iff_exists.mp hm
  refine Prog.Sat.bind (describePlacementGroupsByName_ok pg.name) (fun v _ => ?_)
    (fun _ ⟨_, h⟩ => nomatch h) (fun _ ⟨_, h⟩ => nomatch h)
  rcases v with err | _ | ⟨g, _ | ⟨g', gs⟩⟩
  · exact rfl
  · dsimp only
    rw [buildPlacementGroupTagList_some, Machine.buildTagList_eq]
    simp only [Prog.ofOutcome_ok, Prog.pure_bind, hmanaged, deref_some]
    split
    · exact rfl
    refine Prog.sat_client_bind _ trivial _ fun r => ?_
    rcases r with err | out
    · exact rfl
    refine Prog.Sat.bind ((Prog.sat_ofOutcome _ _).mpr
      (safeEnd_deref_answer (by simp [AnswerPanic]) out.placementGroup)) (fun g _ => ?_)
      (fun _ _ => trivial) (fun _ h => h)
    refine Prog.Sat.bind ((Prog.sat_ofOutcome _ _).mpr
      (safeEnd_deref_answer (by simp [AnswerPanic]) g.groupName)) (fun _ _ => ?_)
      (fun _ _ => trivial) (fun _ h => h)
    refine Prog.Sat.bind ((Prog.sat_ofOutcome _ _).mpr
      (safeEnd_deref_answer (by simp [AnswerPanic]) g.groupId)) (fun _ _ => rfl)
      (fun _ _ => trivial) (fun _ h => h)
  · dsimp only
    split
    · exact absurd ‹_› (validateExistingPlacementGroupConfig_ne_panic hm g _)
    · exact rfl
    · exact setObservedConfiguration_expiresAt pg g
  · exact rfl

/-- Deleting panics only on a field of an answer. -/
theorem deletePlacementGroup_safe (pg : AWSPlacementGroup) (infra : Infrastructure) :
    (deletePlacementGroup pg infra).Sat (fun _ => True) (SafeEnd fun _ => True) := by
  refine Prog.Sat.bind (describePlacementGroupsByName_ok pg.name) (fun v _ => ?_)
    (fun _ ⟨_, h⟩ => nomatch h) (fun _ ⟨_, h⟩ => nomatch h)
  rcases v with err | _ | ⟨g, _ | ⟨g', gs⟩⟩
  · trivial
  · trivial
  · dsimp only
    split_ifs
    · trivial
    refine Prog.sat_client_bind _ trivial _ fun r => ?_
    rcases r with err | out
    · trivial
    refine Prog.Sat.bind ((Prog.sat_ofOutcome _ _).mpr (activeInstanceCount_safe _))
      (fun _ _ => ?_) (fun _ _ => trivial) (fun _ h => h)
    split_ifs
    · trivial
    refine Prog.sat_client_bind _ trivial _ fun r => ?_
    rcases r with _ | _ <;> trivial
  · trivial

theorem deletePlacementGroup_attempt_safe (pg : AWSPlacementGroup) (infra : Infrastructure) :
    (deletePlacementGroup pg infra).attempt.Sat (fun _ => True) (SafeEnd fun _ => True) :=
  Prog.sat_attempt ((deletePlacementGroup_safe pg infra).mono (fun _ h => h) fun o h => by
    cases o
    exacts [trivial, trivial, h])

/-! ### A cycle -/

/-- **`reconcile` on a valid object** panics only on a field of an answer: the expiry it reads
is set on every path that reaches the read. -/
theorem reconcile_safe (infra : Infrastructure) (now : Int) (obj : AWSPlacementGroup)
    (hvalid : validateAWSPlacementGroup obj = none) :
    (reconcile infra now obj).Sat (fun _ => True) (SafeEnd fun _ => True) := by
  obtain ⟨hstate, hmanaged⟩ := validateAWSPlacementGroup_eq_none hvalid
  have hfirst : (if obj.status.expiresAt.all (· < now) then reflectObservedConfiguration obj now
      else pure (obj, none) : Prog (AWSPlacementGroup × Option GoError)).Sat (fun _ => True)
        (SafeEnd fun v => v.1.spec = obj.spec ∧ (v.2 = none → v.1.status.expiresAt.isSome)) := by
    split_ifs with hexp
    · exact reflectObservedConfiguration_safe obj now
    · refine ⟨rfl, fun _ => ?_⟩
      cases he : obj.status.expiresAt
      · simp [he] at hexp
      · rfl
  unfold reconcile
  refine Prog.Sat.bind hfirst (fun v hv => ?_) (fun _ _ => trivial) (fun _ h => h)
  obtain ⟨pg, err⟩ := v
  obtain ⟨hspec, hexp⟩ := hv
  cases err with
  | some err => trivial
  | none =>
    obtain ⟨t, ht⟩ := Option.isSome_iff_exists.mp (hexp rfl)
    dsimp only
    split_ifs with hU hcont hadd hdel hcont'
    · trivial
    · exact Prog.Sat.bind ((Prog.sat_ofOutcome _ _).mpr (safeEnd_deref_some ht))
        (fun _ _ => trivial) (fun _ _ => trivial) (fun _ h => h)
    · trivial
    · trivial
    · refine Prog.Sat.bind (deletePlacementGroup_attempt_safe _ infra) (fun d _ => ?_)
        (fun _ _ => trivial) (fun _ h => h)
      rcases d with _ | _ <;> trivial
    · have hman : obj.Managed := hstate.resolve_right (hspec ▸ hU)
      have hm : pg.spec.managementSpec.managed.isSome := hspec ▸ (hmanaged hman).1
      refine Prog.Sat.bind (checkOrCreatePlacementGroup_safe _ infra hm) (fun v hv => ?_)
        (fun _ _ => trivial) (fun _ h => h)
      obtain ⟨pg2, err2⟩ := v
      cases err2 with
      | some err => trivial
      | none =>
        exact Prog.Sat.bind ((Prog.sat_ofOutcome _ _).mpr (safeEnd_deref_some (hv.trans ht)))
          (fun _ _ => trivial) (fun _ _ => trivial) (fun _ h => h)

/-- **Where a cycle panics.** With an Infrastructure object that has an AWS platform status, for
every answer of the cloud, a cycle panics only on a nil field of an answer. -/
theorem Reconcile_panic_answer {cloud : Cloud} (env : Cycle) (stored : Option AWSPlacementGroup)
    (h : List Call)
    (hps : ∀ infra, env.infrastructure = .ok infra →
      ∃ aws, infra.status.platformStatus = some ⟨some aws⟩)
    (p : Panic) (hpanic : ((Reconcile env stored).run cloud h).1 = .panic p) : AnswerPanic p := by
  have hsafe : (Reconcile env stored).Sat (fun _ => True) (SafeEnd fun _ => True) := by
    unfold Reconcile
    split
    · trivial
    split_ifs with hinvalid
    · trivial
    split
    · trivial
    rename_i infra hinfra
    obtain ⟨aws, haws⟩ := hps infra hinfra
    simp only [haws, deref_some, Prog.ofOutcome_ok, Prog.pure_bind]
    split
    · trivial
    exact Prog.Sat.bind (reconcile_safe infra env.now _ (Option.not_isSome_iff_eq_none.mp hinvalid))
      (fun _ _ => trivial) (fun _ _ => trivial) (fun _ h => h)
  have hend := (hsafe.run cloud h).1
  rw [hpanic] at hend
  exact hend

/-- The Infrastructure object of a cluster `cluster-1` in `us-east-1`. -/
def awsClusterInfra : Infrastructure := ⟨⟨"cluster-1", some ⟨some ⟨"us-east-1", none⟩⟩⟩⟩

/-- A cloud that finds no group of any name and answers a create with no group. -/
def emptyCreateCloud : Cloud := fun _ c =>
  match c with
  | .describePlacementGroups _ => .ok ⟨[]⟩
  | .createPlacementGroup _ => .ok ⟨none⟩
  | c => Call.failure (.other "unexpected call") c

/-- `managedSpreadGroup` with its finalizer: a cycle checks the group and creates it. -/
def finalizedSpreadGroup : AWSPlacementGroup :=
  { managedSpreadGroup with finalizers := [awsPlacementGroupFinalizer] }

theorem Reconcile_panic_answer_emptyCreate :
    (∀ infra, (.ok awsClusterInfra : Except KubeError Infrastructure) = .ok infra →
      ∃ aws, infra.status.platformStatus = some ⟨some aws⟩) ∧
    ((Reconcile ⟨none, .ok awsClusterInfra, fun _ _ => none, none, none, 0⟩
        (some finalizedSpreadGroup)).run emptyCreateCloud []).1 =
      .panic (.nilPointerDereference "out.PlacementGroup") ∧
    AnswerPanic (.nilPointerDereference "out.PlacementGroup") :=
  have hps : ∀ infra, (.ok awsClusterInfra : Except KubeError Infrastructure) = .ok infra →
      ∃ aws, infra.status.platformStatus = some ⟨some aws⟩ := fun _ h => by
    cases h; exact ⟨_, rfl⟩
  ⟨hps, rfl, @Reconcile_panic_answer emptyCreateCloud
    ⟨none, .ok awsClusterInfra, fun _ _ => none, none, none, 0⟩ (some finalizedSpreadGroup) [] hps _
    rfl⟩

end AwsProvider.PlacementGroup
