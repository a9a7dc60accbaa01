import AwsProvider.PlacementGroup.Runs

/-!
# The group in the cloud

What the controller makes of the group it finds in the cloud: `checkOrCreatePlacementGroup`
validates an existing group with `validateExistingPlacementGroupConfig` and then records it with
`setObservedConfiguration`; `deletePlacementGroup` deletes a group only when it is the only one of
its name, carries the cluster's ownership tag and holds no instance that is not terminated.

## What is proved

* `setObservedConfiguration_ready`: the `Ready` condition says the group is in sync exactly when
  the spec's configuration equals the observed one, whose partition count is always set; so a
  spec without a partition is never in sync (`setObservedConfiguration_mismatch_of_no_partition`),
  although `validateExistingPlacementGroupConfig` accepts its group
  (`checkOrCreatePlacementGroup_existing`);
* `deletePlacementGroup_runSat`: a delete is asked only of the object's name, right after a
  describe that found exactly one group carrying the ownership tag and a describe of its instances
  that found none active; and `deletePlacementGroup` succeeds only when that delete succeeded or
  when the describe of the name found no group or failed with a 4xx error;
* `deletePlacementGroup_describe_4xx`: any 4xx error of that describe, an authorization failure
  included, reads as no group.
-/

namespace AwsProvider.PlacementGroup

open Go EC2 Api

variable {cloud : Cloud}

/-! ### An existing group -/

/-- An existing group that passes validation is recorded with `setObservedConfiguration`, after
the one describe. -/
theorem checkOrCreatePlacementGroup_existing (pg : AWSPlacementGroup) (infra : Infrastructure)
    (h : List Call) (g : EC2.PlacementGroup)
    (hfound : cloud h (.describePlacementGroups ⟨[pg.name]⟩) = .ok ⟨[g]⟩)
    (hvalid : validateExistingPlacementGroupConfig pg g = .ok ()) :
    (checkOrCreatePlacementGroup pg infra).run cloud h =
      (.ok (setObservedConfiguration pg g, none), h ++ [.describePlacementGroups ⟨[pg.name]⟩]) := by
  simp [checkOrCreatePlacementGroup, describePlacementGroupsByName, Client.describePlacementGroups,
    Prog.run_bind, hfound, hvalid]

/-- **The `Ready` condition.** `setObservedConfiguration` says in sync exactly when the spec's
configuration is the observed one: the strategy, title-cased, and the partition count, zero when
the group has none. -/
theorem setObservedConfiguration_ready (pg : AWSPlacementGroup) (g : EC2.PlacementGroup) :
    findStatusCondition (setObservedConfiguration pg g).status.conditions readyConditionType =
      some (if pg.spec.managementSpec.managed =
          some ⟨title (stringValue g.strategy), some ⟨toInt32 (int64Value g.partitionCount)⟩⟩ then
        ⟨readyConditionType, "True", configurationInSyncConditionReason, ""⟩
      else ⟨readyConditionType, "False", configurationMismatchConditionReason, ""⟩) := by
  unfold setObservedConfiguration
  cases hm : pg.spec.managementSpec.managed with
  | none => exact findStatusCondition_setStatusCondition _ _
  | some managed =>
    by_cases heq : (⟨title (stringValue g.strategy),
        some ⟨toInt32 (int64Value g.partitionCount)⟩⟩ : ManagedAWSPlacementGroup) = managed
    · simp only [heq, decide_True, ↓reduceIte]
      exact findStatusCondition_setStatusCondition _ _
    · simp only [heq, decide_False, Bool.false_eq_true, ↓reduceIte, Option.some.injEq,
        Ne.symm heq]
      exact findStatusCondition_setStatusCondition _ _

/-- A spec that sets no partition is never in sync with a group. -/
theorem setObservedConfiguration_mismatch_of_no_partition (pg : AWSPlacementGroup)
    (g : EC2.PlacementGroup) {managed : ManagedAWSPlacementGroup}
    (hm : pg.spec.managementSpec.managed = some managed) (hp : managed.partition = none) :
    findStatusCondition (setObservedConfiguration pg g).status.conditions readyConditionType =
      some ⟨readyConditionType, "False", configurationMismatchConditionReason, ""⟩ := by
  rw [setObservedConfiguration_ready, hm, if_neg]
  intro h
  cases (Option.some.inj h ▸ hp)

/-- A `spread` group of the name of `managedSpreadGroup`, with no partition count. -/
def spreadGroup : EC2.PlacementGroup := ⟨some "pg-1", some "pg-0123456789abcdef0", some "spread", none, []⟩

/-- A cloud that has the group `g` and answers every describe of placement groups with it. -/
def groupCloud (g : EC2.PlacementGroup) : Cloud := fun h c =>
  match c with
  | .describePlacementGroups _ => .ok ⟨[g]⟩
  | c => unauthorizedCloud h c

/-- The `Spread` group of a valid spec without a partition passes validation, and
`checkOrCreatePlacementGroup` then leaves `Ready` false with `ConfigurationMismatch`. -/
theorem checkOrCreatePlacementGroup_spread_mismatch :
    validateAWSPlacementGroup managedSpreadGroup = none ∧
      validateExistingPlacementGroupConfig managedSpreadGroup spreadGroup = .ok () ∧
      ∃ pg, (checkOrCreatePlacementGroup managedSpreadGroup stubInfraObject).run
          (groupCloud spreadGroup) [] = (.ok (pg, none), [.describePlacementGroups ⟨["pg-1"]⟩]) ∧
        findStatusCondition pg.status.conditions readyConditionType =
          some ⟨readyConditionType, "False", configurationMismatchConditionReason, ""⟩ :=
  ⟨by decide, by decide, _, checkOrCreatePlacementGroup_existing _ _ _ _ rfl (by decide),
    setObservedConfiguration_mismatch_of_no_partition _ _ rfl rfl⟩

/-! ### Deleting -/

/-- The calls `deletePlacementGroup` on `pg` may make, given the history before each: no create,
and a delete only of the name of `pg`, right after a describe of the name that found exactly one
group, carrying the ownership tag of the cluster, and a describe of its instances that found none
active. -/
def DeleteCallOk (cloud : Cloud) (pg : AWSPlacementGroup) (infra : Infrastructure)
    (hist : List Call) : Call → Prop
  | .deletePlacementGroup input => input = ⟨some pg.name⟩ ∧
      ∃ h0 g out, hist = h0 ++ [.describePlacementGroups ⟨[pg.name]⟩,
          .describeInstances ⟨[⟨"placement-group-name", [pg.name]⟩]⟩] ∧
        cloud h0 (.describePlacementGroups ⟨[pg.name]⟩) = .ok ⟨[g]⟩ ∧
        hasOwnershipTag g infra.status.infrastructureName = true ∧
        cloud (h0 ++ [.describePlacementGroups ⟨[pg.name]⟩])
          (.describeInstances ⟨[⟨"placement-group-name", [pg.name]⟩]⟩) = .ok out ∧
        activeInstanceCount (out.reservations.flatMap (·.instances)) = .ok 0
  | .createPlacementGroup _ => False
  | _ => True

/-- **Deleting.** For every answer of the cloud, `deletePlacementGroup` asks only the calls
`DeleteCallOk` allows, and succeeds only when the describe of the name found no group (or failed
with a 4xx error), or when its delete succeeded. -/
theorem deletePlacementGroup_runSat (pg : AWSPlacementGroup) (infra : Infrastructure)
    (h : List Call) :
    (deletePlacementGroup pg infra).RunSat cloud (DeleteCallOk cloud pg infra) (fun o log =>
      o = .ok () →
        (log = h ++ [.describePlacementGroups ⟨[pg.name]⟩] ∧
          NoGroupFound (cloud h (.describePlacementGroups ⟨[pg.name]⟩))) ∨
        ∃ h0, log = h0 ++ [.deletePlacementGroup ⟨some pg.name⟩] ∧
          cloud h0 (.deletePlacementGroup ⟨some pg.name⟩) = .ok ()) h := by
  refine Prog.RunSat.bind (describePlacementGroupsByName_runSat pg.name h trivial)
    (fun v h1 ⟨hlog, r, hr, hiff, hfound⟩ => ?_) (fun _ _ ⟨_, _, hr, _⟩ => nomatch hr)
    (fun _ _ ⟨_, _, hr, _⟩ => nomatch hr)
  cases hr
  rcases v with err | _ | ⟨g, _ | ⟨g', gs⟩⟩
  · exact fun ho => nomatch ho
  · exact fun _ => .inl ⟨hlog, hiff.mp rfl⟩
  · dsimp only
    split_ifs with hown
    · exact fun ho => nomatch ho
    refine Prog.runSat_client_bind _ _ trivial ?_
    rcases hi : cloud h1 (.describeInstances ⟨[⟨"placement-group-name", [pg.name]⟩]⟩) with
      err | out
    · exact fun ho => nomatch ho
    refine Prog.runSat_ofOutcome_bind (fun n hn => ?_) (fun _ _ ho => nomatch ho)
      (fun _ _ ho => nomatch ho)
    split_ifs with hpos
    · exact fun ho => nomatch ho
    refine Prog.runSat_client_bind _ _ ⟨rfl, h, g, out, by simp [hlog], hfound _ rfl (by simp),
      by simpa using hown, hlog ▸ hi, by rw [hn, show n = 0 by omega]⟩ ?_
    rcases hdel : cloud _ (.deletePlacementGroup ⟨some pg.name⟩) with err | ⟨⟩
    · exact fun ho => nomatch ho
    · exact fun _ => .inr ⟨_, rfl, hdel⟩
  · exact fun ho => nomatch ho

/-- Any 4xx error of the describe of the name reads as no group: `deletePlacementGroup` succeeds
after that one call. -/
theorem deletePlacementGroup_describe_4xx (pg : AWSPlacementGroup) (infra : Infrastructure)
    (h : List Call) {err : AWSError}
    (herr : cloud h (.describePlacementGroups ⟨[pg.name]⟩) = .error err)
    (h4 : isAWS4xxError err = true) :
    (deletePlacementGroup pg infra).run cloud h =
      (.ok (), h ++ [.describePlacementGroups ⟨[pg.name]⟩]) := by
  simp [deletePlacementGroup, describePlacementGroupsByName, Client.describePlacementGroups,
    Prog.run_bind, herr, h4, sdkOutput, default]

/-- The Infrastructure object of a cluster `cluster-1` in `us-east-1`. -/
def clusterInfra : Infrastructure := ⟨⟨"cluster-1", some ⟨some ⟨"us-east-1", none⟩⟩⟩⟩

/-- `managedSpreadGroup` being deleted, with the finalizer. -/
def deletingSpreadGroup : AWSPlacementGroup :=
  { managedSpreadGroup with deletionTimestamp := some 0, finalizers := [awsPlacementGroupFinalizer] }

/-- With the describe of the name unauthorized, `deletePlacementGroup` succeeds after it, and the
cycle drops the finalizer, so that the API server removes the object: the group, if any, is left
in the cloud. -/
theorem deletePlacementGroup_unauthorized_succeeds :
    (deletePlacementGroup deletingSpreadGroup clusterInfra).run unauthorizedCloud [] =
        (.ok (), [.describePlacementGroups ⟨["pg-1"]⟩]) ∧
      ((Reconcile ⟨none, .ok clusterInfra, fun _ _ => none, none, none, 0⟩
          (some deletingSpreadGroup)).run unauthorizedCloud []).2 =
        [.describePlacementGroups ⟨["pg-1"]⟩, .describePlacementGroups ⟨["pg-1"]⟩] ∧
      reconciledStore (some deletingSpreadGroup)
        ((Reconcile ⟨none, .ok clusterInfra, fun _ _ => none, none, none, 0⟩
          (some deletingSpreadGroup)).run unauthorizedCloud []).1 = none :=
  ⟨deletePlacementGroup_describe_4xx _ _ _ rfl rfl, rfl, rfl⟩

end AwsProvider.PlacementGroup
