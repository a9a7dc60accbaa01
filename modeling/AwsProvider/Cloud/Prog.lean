import AwsProvider.Cloud.EC2

/-!
# Programs against the AWS API

The controllers talk to AWS through `awsclient.Client`, one method per EC2 operation. A
controller function is modelled as a `Prog`: a tree whose inner nodes are calls of the client
and whose leaves are the ways a Go call ends (a value, an error, a panic). The answer to a call
is not fixed by the model: a `Cloud` answers each call given the calls made before it, so a
statement over every `Cloud` is a statement over every sequence of cloud responses.

`Prog.run` runs a program against a cloud and returns its outcome together with the log of the
calls it made. Two predicates describe every run at once:

* `Prog.Sat P Q p`: every call `p` can make satisfies `P`, and every way it can end satisfies
  `Q` (a total-correctness triple over every path of the tree);
* `Prog.Final R p`: after a call satisfying `R`, `p` makes no further call.

`Prog.Sat.run` and `Prog.Final.run` turn them into facts about the log of any run, and
`Prog.Sat.bind` and `Prog.Final.bind` let them be proved one Go statement at a time.
-/

namespace AwsProvider

open Go EC2

/-- A call of the AWS client, with its request. -/
inductive Call where
  /-- `DescribeImages`. -/
  | describeImages (input : DescribeImagesInput)
  /-- `DescribeSecurityGroups`. -/
  | describeSecurityGroups (input : DescribeSecurityGroupsInput)
  /-- `DescribeSubnets`. -/
  | describeSubnets (input : DescribeSubnetsInput)
  /-- `DescribeAvailabilityZones`. -/
  | describeAvailabilityZones (input : DescribeAvailabilityZonesInput)
  /-- `RunInstances`. -/
  | runInstances (input : RunInstancesInput)
  /-- `DescribeInstances`. -/
  | describeInstances (input : DescribeInstancesInput)
  /-- `DescribePlacementGroups`. -/
  | describePlacementGroups (input : DescribePlacementGroupsInput)
  /-- `CreatePlacementGroup`. -/
  | createPlacementGroup (input : CreatePlacementGroupInput)
  /-- `DeletePlacementGroup`. -/
  | deletePlacementGroup (input : DeletePlacementGroupInput)
  /-- `DescribeInstanceTypes`. -/
  | describeInstanceTypes (input : DescribeInstanceTypesInput)
  deriving DecidableEq, Repr

/-- What a call hands back: its output, or the SDK's error. The SDK never hands back a nil output
without an error, so an output is a value. -/
def Call.Response : Call → Type
  | .describeImages _ => Except AWSError DescribeImagesOutput
  | .describeSecurityGroups _ => Except AWSError DescribeSecurityGroupsOutput
  | .describeSubnets _ => Except AWSError DescribeSubnetsOutput
  | .describeAvailabilityZones _ => Except AWSError DescribeAvailabilityZonesOutput
  | .runInstances _ => Except AWSError Reservation
  | .describeInstances _ => Except AWSError DescribeInstancesOutput
  | .describePlacementGroups _ => Except AWSError DescribePlacementGroupsOutput
  | .createPlacementGroup _ => Except AWSError CreatePlacementGroupOutput
  | .deletePlacementGroup _ => Except AWSError Unit
  | .describeInstanceTypes _ => Except AWSError DescribeInstanceTypesOutput

/-- A call that changes nothing in the cloud. -/
def Call.isDescribe : Call → Bool
  | .runInstances _ | .createPlacementGroup _ | .deletePlacementGroup _ => false
  | _ => true

/-- A `CreatePlacementGroup` call. -/
def Call.isCreatePlacementGroup : Call → Bool
  | .createPlacementGroup _ => true
  | _ => false

/-- A `DeletePlacementGroup` call. -/
def Call.isDeletePlacementGroup : Call → Bool
  | .deletePlacementGroup _ => true
  | _ => false

/-- The cloud as the controller sees it: the answer to each call, given the calls before it. -/
def Cloud := (history : List Call) → (c : Call) → c.Response

/-- The answer to a call that failed with `err`; `fun _ => Call.failure err` is a cloud that
fails every call. -/
def Call.failure (err : AWSError) : (c : Call) → c.Response
  | .describeImages _ => .error err
  | .describeSecurityGroups _ => .error err
  | .describeSubnets _ => .error err
  | .describeAvailabilityZones _ => .error err
  | .runInstances _ => .error err
  | .describeInstances _ => .error err
  | .describePlacementGroups _ => .error err
  | .createPlacementGroup _ => .error err
  | .deletePlacementGroup _ => .error err
  | .describeInstanceTypes _ => .error err

/-- A Go function that calls the AWS client. -/
inductive Prog (α : Type) where
  /-- Return a value. -/
  | pure (v : α)
  /-- Return an error. -/
  | error (err : GoError)
  /-- Panic. -/
  | panic (p : Panic)
  /-- Call the client, then continue with its answer. -/
  | call (c : Call) (k : c.Response → Prog α)

namespace Prog

variable {α β : Type}

/-- Sequencing: continue after a returned value; an error or a panic ends the function. -/
def bind : Prog α → (α → Prog β) → Prog β
  | .pure v, f => f v
  | .error err, _ => .error err
  | .panic p, _ => .panic p
  | .call c k, f => .call c fun r => (k r).bind f

instance : Monad Prog where
  pure := .pure
  bind := bind

/-- A call that makes no AWS call. -/
def ofOutcome : Outcome α → Prog α
  | .ok v => .pure v
  | .error err => .error err
  | .panic p => .panic p

instance : MonadLift Outcome Prog := ⟨ofOutcome⟩

/-- Handling a returned error (`if err != nil { ... }` that does not return it). -/
def tryCatch : Prog α → (GoError → Prog α) → Prog α
  | .pure v, _ => .pure v
  | .error err, h => h err
  | .panic p, _ => .panic p
  | .call c k, h => .call c fun r => (k r).tryCatch h

instance : MonadExceptOf GoError Prog := ⟨.error, tryCatch⟩

/-- Replacing a returned error, as `return nil, fmt.Errorf("...: %v", err)` does. -/
def mapError (f : GoError → GoError) : Prog α → Prog α
  | .pure v => .pure v
  | .error err => .error (f err)
  | .panic p => .panic p
  | .call c k => .call c fun r => (k r).mapError f

/-- The returned error as a value, for code that inspects it. -/
def attempt : Prog α → Prog (Except GoError α)
  | .pure v => .pure (.ok v)
  | .error err => .pure (.error err)
  | .panic p => .panic p
  | .call c k => .call c fun r => (k r).attempt

@[simp] theorem pure_eq (v : α) : (Pure.pure v : Prog α) = .pure v := rfl
@[simp] theorem throw_eq (err : GoError) : (throw err : Prog α) = .error err := rfl
@[simp] theorem pure_bind (v : α) (f : α → Prog β) : (Prog.pure v >>= f) = f v := rfl
@[simp] theorem error_bind (err : GoError) (f : α → Prog β) :
    (Prog.error err >>= f) = .error err := rfl
@[simp] theorem panic_bind (p : Panic) (f : α → Prog β) : (Prog.panic p >>= f) = .panic p := rfl
@[simp] theorem call_bind (c : Call) (k : c.Response → Prog α) (f : α → Prog β) :
    (Prog.call c k >>= f) = .call c fun r => k r >>= f := rfl
@[simp] theorem liftM_eq (x : Outcome α) : (liftM x : Prog α) = ofOutcome x := rfl
@[simp] theorem ofOutcome_ok (v : α) : ofOutcome (.ok v) = .pure v := rfl
@[simp] theorem ofOutcome_error (err : GoError) : (ofOutcome (.error err) : Prog α) = .error err := rfl
@[simp] theorem ofOutcome_panic (p : Panic) : (ofOutcome (.panic p) : Prog α) = .panic p := rfl

/-! ### Runs -/

/-- Run `p` against `cloud` after the calls `h`: the outcome, and `h` followed by the calls made. -/
def run (cloud : Cloud) : Prog α → List Call → Outcome α × List Call
  | .pure v, h => (.ok v, h)
  | .error err, h => (.error err, h)
  | .panic p, h => (.panic p, h)
  | .call c k, h => (k (cloud h c)).run cloud (h ++ [c])

/-- Continue a run that ended in `r` with `f`. -/
def runAfter (cloud : Cloud) (f : α → Prog β) : Outcome α × List Call → Outcome β × List Call
  | (.ok v, h) => (f v).run cloud h
  | (.error err, h) => (.error err, h)
  | (.panic p, h) => (.panic p, h)

variable (cloud : Cloud)

@[simp] theorem run_pure (v : α) (h : List Call) : (Prog.pure v).run cloud h = (.ok v, h) := rfl
@[simp] theorem run_error (err : GoError) (h : List Call) :
    (Prog.error err : Prog α).run cloud h = (.error err, h) := rfl
@[simp] theorem run_panic (p : Panic) (h : List Call) :
    (Prog.panic p : Prog α).run cloud h = (.panic p, h) := rfl
@[simp] theorem run_call (c : Call) (k : c.Response → Prog α) (h : List Call) :
    (Prog.call c k).run cloud h = (k (cloud h c)).run cloud (h ++ [c]) := rfl

@[simp] theorem runAfter_ok (f : α → Prog β) (v : α) (h : List Call) :
    runAfter cloud f (.ok v, h) = (f v).run cloud h := rfl
@[simp] theorem runAfter_error (f : α → Prog β) (err : GoError) (h : List Call) :
    runAfter cloud f (.error err, h) = (.error err, h) := rfl
@[simp] theorem runAfter_panic (f : α → Prog β) (p : Panic) (h : List Call) :
    runAfter cloud f (.panic p, h) = (.panic p, h) := rfl

theorem run_bind (p : Prog α) (f : α → Prog β) (h : List Call) :
    (p >>= f).run cloud h = runAfter cloud f (p.run cloud h) := by
  induction p generalizing h with
  | pure v => rfl
  | error err => rfl
  | panic p => rfl
  | call c k ih => exact ih _ _

theorem run_ofOutcome (x : Outcome α) (h : List Call) : (ofOutcome x).run cloud h = (x, h) := by
  cases x <;> rfl

variable {cloud}

/-- A run of `p >>= f` that returns a value ran `p` to a value, then `f` of it from there. -/
theorem run_bind_eq_ok {p : Prog α} {f : α → Prog β} {h h' : List Call} {b : β}
    (hrun : (p >>= f).run cloud h = (.ok b, h')) :
    ∃ a h₁, p.run cloud h = (.ok a, h₁) ∧ (f a).run cloud h₁ = (.ok b, h') := by
  rw [run_bind] at hrun
  generalize p.run cloud h = r at hrun
  rcases r with ⟨a | _ | _, h₁⟩
  · exact ⟨a, h₁, rfl, hrun⟩
  all_goals cases hrun

/-- A run of `ofOutcome x >>= f` that returns a value had `x` a value, and ran `f` of it. -/
theorem run_ofOutcome_bind_eq_ok {x : Outcome α} {f : α → Prog β} {h h' : List Call} {b : β}
    (hrun : (ofOutcome x >>= f).run cloud h = (.ok b, h')) :
    ∃ a, x = .ok a ∧ (f a).run cloud h = (.ok b, h') := by
  cases x
  · exact ⟨_, rfl, hrun⟩
  all_goals cases hrun

/-- Replacing errors leaves the runs that return a value as they are. -/
theorem run_mapError_eq_ok {f : GoError → GoError} {p : Prog α} {h h' : List Call} {a : α} :
    (p.mapError f).run cloud h = (.ok a, h') ↔ p.run cloud h = (.ok a, h') := by
  induction p generalizing h with
  | pure v => rfl
  | error err => simp [mapError]
  | panic x => rfl
  | call c k ih => exact ih _

variable (cloud)

/-! ### Every path at once -/

/-- Every call `p` can make satisfies `P`, and every way it can end satisfies `Q`. -/
def Sat (P : Call → Prop) (Q : Outcome α → Prop) : Prog α → Prop
  | .pure v => Q (.ok v)
  | .error err => Q (.error err)
  | .panic p => Q (.panic p)
  | .call c k => P c ∧ ∀ r, (k r).Sat P Q

variable {P : Call → Prop}

@[simp] theorem sat_pure (Q : Outcome α → Prop) (v : α) : (Prog.pure v).Sat P Q ↔ Q (.ok v) :=
  Iff.rfl
@[simp] theorem sat_error (Q : Outcome α → Prop) (err : GoError) :
    (Prog.error err).Sat P Q ↔ Q (.error err) := Iff.rfl
@[simp] theorem sat_panic (Q : Outcome α → Prop) (p : Panic) :
    (Prog.panic p).Sat P Q ↔ Q (.panic p) := Iff.rfl
@[simp] theorem sat_call (Q : Outcome α → Prop) (c : Call) (k : c.Response → Prog α) :
    (Prog.call c k).Sat P Q ↔ P c ∧ ∀ r, (k r).Sat P Q := Iff.rfl

theorem sat_ofOutcome (Q : Outcome α → Prop) (x : Outcome α) : (ofOutcome x).Sat P Q ↔ Q x := by
  cases x <;> rfl

theorem Sat.mono {P' : Call → Prop} {Q Q' : Outcome α → Prop} {p : Prog α} (hp : p.Sat P Q)
    (hP : ∀ c, P c → P' c) (hQ : ∀ x, Q x → Q' x) : p.Sat P' Q' := by
  induction p with
  | pure v => exact hQ _ hp
  | error err => exact hQ _ hp
  | panic p => exact hQ _ hp
  | call c k ih => exact ⟨hP _ hp.1, fun r => ih r (hp.2 r)⟩

/-- Sequencing: `p` ends in `Q₁`, and after each value it can return `f` satisfies the triple. -/
theorem Sat.bind {Q₁ : Outcome α → Prop} {Q : Outcome β → Prop} {p : Prog α} {f : α → Prog β}
    (hp : p.Sat P Q₁) (hf : ∀ v, Q₁ (.ok v) → (f v).Sat P Q)
    (herr : ∀ err, Q₁ (.error err) → Q (.error err))
    (hpanic : ∀ x, Q₁ (.panic x) → Q (.panic x)) : (p >>= f).Sat P Q := by
  induction p with
  | pure v => exact hf v hp
  | error err => exact herr err hp
  | panic x => exact hpanic x hp
  | call c k ih => exact ⟨hp.1, fun r => ih r (hp.2 r)⟩

/-- A call of the client, and what follows it. -/
theorem sat_client_bind {Q : Outcome β → Prop} (c : Call) (hc : P c) (f : c.Response → Prog β)
    (hf : ∀ r, (f r).Sat P Q) : (Prog.call c Prog.pure >>= f).Sat P Q :=
  ⟨hc, hf⟩

/-- Sequencing under a postcondition `Outcome.Spec`: errors of both parts satisfy `E`. -/
theorem Sat.bind_spec {R : α → Prop} {S : β → Prop} {E : GoError → Prop} {p : Prog α}
    {f : α → Prog β} (hp : p.Sat P (Outcome.Spec R E))
    (hf : ∀ v, R v → (f v).Sat P (Outcome.Spec S E)) : (p >>= f).Sat P (Outcome.Spec S E) :=
  hp.bind hf (fun _ h => h) (fun _ _ => trivial)

theorem sat_ofOutcome_spec {E : GoError → Prop} (x : Outcome α) (hx : ∀ err, x = .error err → E err) :
    (ofOutcome x).Sat P (Outcome.Spec (x = .ok ·) E) := by
  cases x
  exacts [rfl, hx _ rfl, trivial]

/-- What a triple says of a run: its outcome satisfies `Q`, and every call it made satisfies `P`. -/
theorem Sat.run {Q : Outcome α → Prop} {p : Prog α} (hp : p.Sat P Q) (h : List Call) :
    Q (p.run cloud h).1 ∧ ∃ new, (p.run cloud h).2 = h ++ new ∧ ∀ c ∈ new, P c := by
  induction p generalizing h with
  | pure v => exact ⟨hp, [], by simp⟩
  | error err => exact ⟨hp, [], by simp⟩
  | panic x => exact ⟨hp, [], by simp⟩
  | call c k ih =>
    obtain ⟨hQ, new, hnew, hall⟩ := ih (cloud h c) (hp.2 _) (h ++ [c])
    refine ⟨hQ, c :: new, by simp [hnew], ?_⟩
    rintro x (_ | ⟨_, hx⟩)
    exacts [hp.1, hall x hx]

theorem sat_mapError {Q : Outcome α → Prop} {f : GoError → GoError} {p : Prog α}
    (hp : p.Sat P fun
      | .ok v => Q (.ok v)
      | .error err => Q (.error (f err))
      | .panic x => Q (.panic x)) : (p.mapError f).Sat P Q := by
  induction p with
  | pure v => exact hp
  | error err => exact hp
  | panic x => exact hp
  | call c k ih => exact ⟨hp.1, fun r => ih r (hp.2 r)⟩

theorem sat_attempt {Q : Outcome (Except GoError α) → Prop} {p : Prog α}
    (hp : p.Sat P fun
      | .ok v => Q (.ok (.ok v))
      | .error err => Q (.ok (.error err))
      | .panic x => Q (.panic x)) : p.attempt.Sat P Q := by
  induction p with
  | pure v => exact hp
  | error err => exact hp
  | panic x => exact hp
  | call c k ih => exact ⟨hp.1, fun r => ih r (hp.2 r)⟩

/-! ### What a program can return -/

/-- `p` returns `v` on some path. -/
inductive Returns : Prog α → α → Prop
  /-- A value returns itself. -/
  | pure (v : α) : Returns (.pure v) v
  /-- A call returns what its continuation returns on some answer. -/
  | call {c : Call} {k : c.Response → Prog α} {v : α} (r : c.Response) :
      Returns (k r) v → Returns (.call c k) v

/-- Every value a program returns is one it can return. -/
theorem sat_returns {p : Prog α} {Q : Outcome α → Prop} (hp : p.Sat P Q) :
    p.Sat P fun x => Q x ∧ ∀ v, x = .ok v → p.Returns v := by
  induction p with
  | pure v => exact ⟨hp, fun _ h => by cases h; exact .pure v⟩
  | error err => exact ⟨hp, fun _ h => by cases h⟩
  | panic x => exact ⟨hp, fun _ h => by cases h⟩
  | call c k ih =>
    exact ⟨hp.1, fun r => (ih r (hp.2 r)).mono (fun _ h => h)
      fun _ ⟨hq, hret⟩ => ⟨hq, fun v hv => .call r (hret v hv)⟩⟩

/-- Replacing every error by one in `E`; the values are those of `p`. -/
theorem Sat.mapError_spec {E : GoError → Prop} {p : Prog α} (hp : p.Sat P fun _ => True)
    (f : GoError → GoError) (hf : ∀ err, E (f err)) : (p.mapError f).Sat P (Outcome.Spec p.Returns E) :=
  sat_mapError ((sat_returns hp).mono (fun _ h => h) fun o ⟨_, h⟩ => by
    cases o
    exacts [h _ rfl, hf _, trivial])

/-! ### Runs against one cloud -/

/-- From the history `h`, every call of the run of `p` satisfies `P` at the history before it,
and the run ends in an outcome and a history satisfying `Q`. -/
def RunSat (P : List Call → Call → Prop) (Q : Outcome α → List Call → Prop) :
    Prog α → List Call → Prop
  | .pure v, h => Q (.ok v) h
  | .error err, h => Q (.error err) h
  | .panic x, h => Q (.panic x) h
  | .call c k, h => P h c ∧ (k (cloud h c)).RunSat P Q (h ++ [c])

variable {cloud} {P : List Call → Call → Prop}

theorem runSat_pure {Q : Outcome α → List Call → Prop} (v : α) (h : List Call) :
    (Prog.pure v).RunSat cloud P Q h ↔ Q (.ok v) h := Iff.rfl

/-- A call of the client, and what follows it on the run. -/
theorem runSat_client_bind {Q : Outcome β → List Call → Prop} {h : List Call} (c : Call)
    (f : c.Response → Prog β) (hc : P h c) (hf : (f (cloud h c)).RunSat cloud P Q (h ++ [c])) :
    (Prog.call c Prog.pure >>= f).RunSat cloud P Q h :=
  ⟨hc, hf⟩

/-- A step that makes no call, and what follows it. -/
theorem runSat_ofOutcome_bind {Q : Outcome β → List Call → Prop} {h : List Call} {x : Outcome α}
    {f : α → Prog β} (hok : ∀ v, x = .ok v → (f v).RunSat cloud P Q h)
    (herr : ∀ err, x = .error err → Q (.error err) h)
    (hpanic : ∀ p, x = .panic p → Q (.panic p) h) : (ofOutcome x >>= f).RunSat cloud P Q h := by
  cases x
  exacts [hok _ rfl, herr _ rfl, hpanic _ rfl]

/-- A dereference, and what follows it: a panic when the pointer is nil. -/
theorem runSat_deref_bind {Q : Outcome β → List Call → Prop} {h : List Call} (expr : String)
    {o : Option α} {f : α → Prog β} (hok : ∀ v, o = some v → (f v).RunSat cloud P Q h)
    (hpanic : Q (.panic (.nilPointerDereference expr)) h) :
    (ofOutcome (deref expr o) >>= f).RunSat cloud P Q h := by
  cases o
  exacts [hpanic, hok _ rfl]

/-- The outcome of `p.attempt` from that of `p`. -/
def attemptOutcome : Outcome α → Outcome (Except GoError α)
  | .ok v => .ok (.ok v)
  | .error err => .ok (.error err)
  | .panic x => .panic x

theorem RunSat.attempt {Q : Outcome (Except GoError α) → List Call → Prop} {p : Prog α}
    {h : List Call} (hp : p.RunSat cloud P (fun o log => Q (attemptOutcome o) log) h) :
    p.attempt.RunSat cloud P Q h := by
  induction p generalizing h with
  | pure v => exact hp
  | error err => exact hp
  | panic x => exact hp
  | call c k ih => exact ⟨hp.1, ih _ hp.2⟩

/-- A triple on a run also knows the run. -/
theorem RunSat.and_run {Q : Outcome α → List Call → Prop} {p : Prog α} {h : List Call}
    (hp : p.RunSat cloud P Q h) :
    p.RunSat cloud P (fun o log => Q o log ∧ p.run cloud h = (o, log)) h := by
  induction p generalizing h with
  | pure v => exact ⟨hp, rfl⟩
  | error err => exact ⟨hp, rfl⟩
  | panic x => exact ⟨hp, rfl⟩
  | call c k ih => exact ⟨hp.1, ih _ hp.2⟩

/-- A describe-free fact on the tree is a fact on every run. -/
theorem runSat_of_sat {P' : Call → Prop} {Q' : Outcome α → Prop} {Q : Outcome α → List Call → Prop}
    {p : Prog α} (hp : p.Sat P' Q') (hP : ∀ h c, P' c → P h c) (hQ : ∀ o h, Q' o → Q o h)
    (h : List Call) : p.RunSat cloud P Q h := by
  induction p generalizing h with
  | pure v => exact hQ _ _ hp
  | error err => exact hQ _ _ hp
  | panic x => exact hQ _ _ hp
  | call c k ih => exact ⟨hP _ _ hp.1, ih _ (hp.2 _) _⟩

/-- Sequencing on a run: `f` continues from where `p` ended. -/
theorem RunSat.bind {Q₁ : Outcome α → List Call → Prop} {Q : Outcome β → List Call → Prop}
    {p : Prog α} {f : α → Prog β} {h : List Call} (hp : p.RunSat cloud P Q₁ h)
    (hf : ∀ v h', Q₁ (.ok v) h' → (f v).RunSat cloud P Q h')
    (herr : ∀ err h', Q₁ (.error err) h' → Q (.error err) h')
    (hpanic : ∀ x h', Q₁ (.panic x) h' → Q (.panic x) h') : (p >>= f).RunSat cloud P Q h := by
  induction p generalizing h with
  | pure v => exact hf v h hp
  | error err => exact herr err h hp
  | panic x => exact hpanic x h hp
  | call c k ih => exact ⟨hp.1, ih _ hp.2⟩

theorem RunSat.mono {Q Q' : Outcome α → List Call → Prop} {P' : List Call → Call → Prop}
    {p : Prog α} {h : List Call} (hp : p.RunSat cloud P Q h) (hP : ∀ h c, P h c → P' h c)
    (hQ : ∀ o h, Q o h → Q' o h) : p.RunSat cloud P' Q' h := by
  induction p generalizing h with
  | pure v => exact hQ _ _ hp
  | error err => exact hQ _ _ hp
  | panic x => exact hQ _ _ hp
  | call c k ih => exact ⟨hP _ _ hp.1, ih _ hp.2⟩

/-- The run, seen from inside: its end satisfies `Q`. -/
theorem RunSat.run_end {Q : Outcome α → List Call → Prop} {p : Prog α} {h : List Call}
    (hp : p.RunSat cloud P Q h) : Q (p.run cloud h).1 (p.run cloud h).2 := by
  induction p generalizing h with
  | pure v => exact hp
  | error err => exact hp
  | panic x => exact hp
  | call c k ih => exact ih _ hp.2

/-- Every call of the run satisfies `P` at the history before it. -/
theorem RunSat.run_calls {Q : Outcome α → List Call → Prop} {p : Prog α} {h : List Call}
    (hp : p.RunSat cloud P Q h) :
    ∃ new, (p.run cloud h).2 = h ++ new ∧ ∀ pre c post, new = pre ++ c :: post → P (h ++ pre) c := by
  induction p generalizing h with
  | pure v => exact ⟨[], by simp, by simp⟩
  | error err => exact ⟨[], by simp, by simp⟩
  | panic x => exact ⟨[], by simp, by simp⟩
  | call c k ih =>
    obtain ⟨new, hnew, hcalls⟩ := ih _ hp.2
    refine ⟨c :: new, by simp [hnew], fun pre d post hpre => ?_⟩
    cases pre with
    | nil => cases hpre; simpa using hp.1
    | cons e pre =>
      cases hpre
      simpa using hcalls pre d post rfl

end Prog

/-! ### The client -/

namespace Client

open Prog

/-- `client.DescribeImages(input)`. -/
def describeImages (input : DescribeImagesInput) : Prog (Except AWSError DescribeImagesOutput) :=
  .call (.describeImages input) .pure

/-- `client.DescribeSecurityGroups(input)`. -/
def describeSecurityGroups (input : DescribeSecurityGroupsInput) :
    Prog (Except AWSError DescribeSecurityGroupsOutput) :=
  .call (.describeSecurityGroups input) .pure

/-- `client.DescribeSubnets(input)`. -/
def describeSubnets (input : DescribeSubnetsInput) : Prog (Except AWSError DescribeSubnetsOutput) :=
  .call (.describeSubnets input) .pure

/-- `client.DescribeAvailabilityZones(input)`. -/
def describeAvailabilityZones (input : DescribeAvailabilityZonesInput) :
    Prog (Except AWSError DescribeAvailabilityZonesOutput) :=
  .call (.describeAvailabilityZones input) .pure

/-- `client.RunInstances(input)`. -/
def runInstances (input : RunInstancesInput) : Prog (Except AWSError Reservation) :=
  .call (.runInstances input) .pure

/-- `client.DescribeInstances(input)`. -/
def describeInstances (input : DescribeInstancesInput) :
    Prog (Except AWSError DescribeInstancesOutput) :=
  .call (.describeInstances input) .pure

/-- `client.DescribePlacementGroups(input)`. -/
def describePlacementGroups (input : DescribePlacementGroupsInput) :
    Prog (Except AWSError DescribePlacementGroupsOutput) :=
  .call (.describePlacementGroups input) .pure

/-- `client.CreatePlacementGroup(input)`. -/
def createPlacementGroup (input : CreatePlacementGroupInput) :
    Prog (Except AWSError CreatePlacementGroupOutput) :=
  .call (.createPlacementGroup input) .pure

/-- `client.DeletePlacementGroup(input)`. -/
def deletePlacementGroup (input : DeletePlacementGroupInput) : Prog (Except AWSError Unit) :=
  .call (.deletePlacementGroup input) .pure

/-- `client.DescribeInstanceTypes(input)`. -/
def describeInstanceTypes (input : DescribeInstanceTypesInput) :
    Prog (Except AWSError DescribeInstanceTypesOutput) :=
  .call (.describeInstanceTypes input) .pure

end Client

/-- The output the SDK hands back with a response: the output itself, or Go's zero value of it
alongside an error. -/
def sdkOutput {α : Type} [Inhabited α] : Except AWSError α → α
  | .ok out => out
  | .error _ => default

end AwsProvider
