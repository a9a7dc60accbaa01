import AwsProvider.Termination.Handler

/-!
# Polling for the termination notice

`handler.run` polls the instance metadata endpoint `awsTerminationEndpointURL` with
`wait.PollImmediateUntil`, once at once and then every `pollInterval`, until the endpoint answers
(the instance is marked for termination), a request fails with a status other than `404`, or the
handler is stopped. Only after the notice does it call `markNodeForDeletion`. The handler runs in
a pod on the node; a pod that stops or fails is restarted and polls again.

## What is proved

* `pollImmediateUntil_cases`: a poll ends at the first answer on which the condition is done or
  fails, and times out when every answer says not yet;
* `run_cases`: for every sequence of answers, `run` marks the node and returns what marking
  returns when a successful answer comes after `404`s only; returns the first other failure,
  wrapped, when one comes first; and returns the timeout when every answer is a `404`;
* `runStore_markedOnce`: over any sequence of runs of the handler, each with its own answers,
  instant and failures, the node is the original one, or the original one marked once at the
  instant of one of the runs, a run that saw the notice after `404`s only (`MarkedOnce`).

## Honest scope

The answers of the polls made before the stop channel closes are given as a list, the first being
the immediate poll; when a poll and the closing of the channel race, the list says which came
first. `Run`'s `select` between the stop channel and the run's error is not modelled. On a failed
send the SDK sets a response with status `0`, so `req.HTTPResponse` is never nil.
-/

namespace AwsProvider.Termination

open Go

/-! ### The poll -/

/-- `http.StatusNotFound`. -/
def statusNotFound : Int := 404

/-- `wait.ErrWaitTimeout`. -/
def errWaitTimeout : GoError := .new "timed out waiting for the condition"

/-- The answer of one request to the termination endpoint. -/
inductive MetadataAnswer where
  /-- A successful request: the instance is marked for termination. -/
  | ok
  /-- A failed request, with the status code of its response and the error. -/
  | failed (statusCode : Int) (err : GoError)
  deriving DecidableEq, Repr

/-- `wait.PollImmediateUntil(interval, condition, stopCh)` over the answers of the polls made
before `stopCh` closes: no error once the condition is done, its error once it fails, and
`wait.ErrWaitTimeout` when the channel closes first. -/
def pollImmediateUntil {α : Type} (condition : α → Except GoError Bool) : List α → Option GoError
  | [] => some errWaitTimeout
  | answer :: answers =>
    match condition answer with
    | .error err => some err
    | .ok true => none
    | .ok false => pollImmediateUntil condition answers

/-- The condition `run` polls: done on a successful request, not yet on a `404`, and failing
with the error (`fmt.Errorf("%w", err)`) otherwise. -/
def terminationNoticeCondition : MetadataAnswer → Except GoError Bool
  | .ok => .ok true
  | .failed statusCode err => if statusCode = statusNotFound then .ok false else .error (.wrap "" err)

/-- `handler.run`: `answers` are the answers of the polls made before the handler is stopped, and
`get` and `updateStatus` what `markNodeForDeletion` reads. -/
def run (answers : List MetadataAnswer) (now : Int) (get : Except KubeError Node)
    (updateStatus : Node → Option KubeError) : Outcome Unit :=
  match pollImmediateUntil terminationNoticeCondition answers with
  | some err => .error (.new ("error polling termination endpoint: " ++ err.error))
  | none =>
    match (markNodeForDeletion now get updateStatus).1 with
    | .ok () => .ok ()
    | .error err => .error (.new ("error marking node: " ++ err.error))
    | .panic p => .panic p

/-- The stored node after a run of the handler: `markNodeForDeletion` is reached only once the
polls saw the notice, and then makes one attempt. -/
def runStore (answers : List MetadataAnswer) (now : Int) (getError : Option KubeError)
    (updateStatus : Node → Option KubeError) (stored : Node) : Node :=
  match pollImmediateUntil terminationNoticeCondition answers with
  | some _ => stored
  | none => markAttempt now getError updateStatus stored

/-! ### How a poll ends -/

section Poll

variable {α : Type} (condition : α → Except GoError Bool)

/-- **How a poll ends.** At the first answer on which the condition is done, with no error; at
the first on which it fails, with its error; and, when it says not yet on every answer, with
`wait.ErrWaitTimeout`. -/
theorem pollImmediateUntil_cases (answers : List α) :
    (∃ pre a post, answers = pre ++ a :: post ∧ (∀ x ∈ pre, condition x = .ok false) ∧
      condition a = .ok true ∧ pollImmediateUntil condition answers = none) ∨
    (∃ pre a post err, answers = pre ++ a :: post ∧ (∀ x ∈ pre, condition x = .ok false) ∧
      condition a = .error err ∧ pollImmediateUntil condition answers = some err) ∨
    ((∀ x ∈ answers, condition x = .ok false) ∧
      pollImmediateUntil condition answers = some errWaitTimeout) := by
  induction answers with
  | nil => exact .inr (.inr ⟨by simp, rfl⟩)
  | cons a as ih =>
    cases ha : condition a with
    | error err => exact .inr (.inl ⟨[], a, as, err, rfl, by simp, ha, by simp [pollImmediateUntil, ha]⟩)
    | ok done =>
      cases done
      · have hstep : pollImmediateUntil condition (a :: as) = pollImmediateUntil condition as := by
          simp [pollImmediateUntil, ha]
        rw [hstep]
        rcases ih with ⟨pre, b, post, rfl, hpre, hb, hp⟩ | ⟨pre, b, post, err, rfl, hpre, hb, hp⟩ |
          ⟨hall, hp⟩
        · exact .inl ⟨a :: pre, b, post, rfl, List.forall_mem_cons.mpr ⟨ha, hpre⟩, hb, hp⟩
        · exact .inr (.inl ⟨a :: pre, b, post, err, rfl, List.forall_mem_cons.mpr ⟨ha, hpre⟩, hb, hp⟩)
        · exact .inr (.inr ⟨List.forall_mem_cons.mpr ⟨ha, hall⟩, hp⟩)
      · exact .inl ⟨[], a, as, rfl, by simp, ha, by simp [pollImmediateUntil, ha]⟩

end Poll

/-- A `404`: the instance is not marked for termination yet. -/
def MetadataAnswer.NotYet (answer : MetadataAnswer) : Prop :=
  ∃ err, answer = .failed statusNotFound err

theorem terminationNoticeCondition_false {answer : MetadataAnswer} :
    terminationNoticeCondition answer = .ok false ↔ answer.NotYet := by
  cases answer with
  | ok => simp [terminationNoticeCondition, MetadataAnswer.NotYet]
  | failed statusCode err =>
    by_cases h : statusCode = statusNotFound <;>
      simp [terminationNoticeCondition, MetadataAnswer.NotYet, h]

theorem terminationNoticeCondition_true {answer : MetadataAnswer} :
    terminationNoticeCondition answer = .ok true ↔ answer = .ok := by
  cases answer with
  | ok => simp [terminationNoticeCondition]
  | failed statusCode err =>
    by_cases h : statusCode = statusNotFound <;> simp [terminationNoticeCondition, h]

theorem terminationNoticeCondition_error {answer : MetadataAnswer} {e : GoError}
    (h : terminationNoticeCondition answer = .error e) :
    ∃ statusCode err, answer = .failed statusCode err ∧ statusCode ≠ statusNotFound ∧
      e = .wrap "" err := by
  cases answer with
  | ok => cases h
  | failed statusCode err =>
    by_cases hs : statusCode = statusNotFound <;> simp [terminationNoticeCondition, hs] at h
    exact ⟨statusCode, err, rfl, hs, h.symm⟩

/-! ### A run of the handler -/

/-- **How a run ends.** For every sequence of answers: when a successful answer comes after
`404`s only, `run` marks the node and returns what marking returned; when another failure comes
first, it returns that failure, wrapped; and when every answer is a `404`, it returns the
timeout. -/
theorem run_cases (answers : List MetadataAnswer) (now : Int) (get : Except KubeError Node)
    (updateStatus : Node → Option KubeError) :
    (∃ pre post, answers = pre ++ .ok :: post ∧ (∀ a ∈ pre, a.NotYet) ∧
      ((markNodeForDeletion now get updateStatus).1 = .ok () →
        run answers now get updateStatus = .ok ()) ∧
      ∀ err, (markNodeForDeletion now get updateStatus).1 = .error err →
        run answers now get updateStatus = .error (.new ("error marking node: " ++ err.error))) ∨
    (∃ pre statusCode err post, answers = pre ++ .failed statusCode err :: post ∧
      (∀ a ∈ pre, a.NotYet) ∧ statusCode ≠ statusNotFound ∧
      run answers now get updateStatus =
        .error (.new ("error polling termination endpoint: " ++ err.error))) ∨
    ((∀ a ∈ answers, a.NotYet) ∧
      run answers now get updateStatus =
        .error (.new "error polling termination endpoint: timed out waiting for the condition")) := by
  have hpre : ∀ pre : List MetadataAnswer,
      (∀ x ∈ pre, terminationNoticeCondition x = .ok false) → ∀ a ∈ pre, a.NotYet :=
    fun _ h a ha => terminationNoticeCondition_false.mp (h a ha)
  rcases pollImmediateUntil_cases terminationNoticeCondition answers with
    ⟨pre, a, post, rfl, hnot, hdone, hp⟩ | ⟨pre, a, post, e, rfl, hnot, hfail, hp⟩ | ⟨hall, hp⟩
  · -- the notice: the node is marked
    rw [terminationNoticeCondition_true.mp hdone] at hp ⊢
    refine .inl ⟨pre, post, rfl, hpre pre hnot, fun hm => ?_, fun err hm => ?_⟩ <;>
      simp [run, hp, hm]
  · -- a failure other than a `404`
    obtain ⟨statusCode, err, rfl, hcode, rfl⟩ := terminationNoticeCondition_error hfail
    exact .inr (.inl ⟨pre, statusCode, err, post, rfl, hpre pre hnot, hcode,
      by simp [run, hp, GoError.error]⟩)
  · -- stopped before the notice
    exact .inr (.inr ⟨hpre answers hall, by simp [run, hp, errWaitTimeout, GoError.error]⟩)

/-- The answers saw the notice: a successful answer after `404`s only. -/
def SawNotice (answers : List MetadataAnswer) : Prop :=
  ∃ pre post, answers = pre ++ .ok :: post ∧ ∀ a ∈ pre, a.NotYet

/-- A run that changed the stored node saw the notice. -/
theorem runStore_changed {answers : List MetadataAnswer} {now : Int} {getError : Option KubeError}
    {updateStatus : Node → Option KubeError} {stored : Node}
    (h : runStore answers now getError updateStatus stored ≠ stored) : SawNotice answers := by
  rcases pollImmediateUntil_cases terminationNoticeCondition answers with
    ⟨pre, a, post, rfl, hnot, hdone, -⟩ | ⟨_, _, _, _, _, _, _, hp⟩ | ⟨_, hp⟩
  · rw [terminationNoticeCondition_true.mp hdone]
    exact ⟨pre, post, rfl, fun a ha => terminationNoticeCondition_false.mp (hnot a ha)⟩
  · exact absurd (by simp [runStore, hp]) h
  · exact absurd (by simp [runStore, hp]) h

/-- A run leaves the stored node as it is, or marks it at the run's instant after seeing the
notice. -/
theorem runStore_cases (answers : List MetadataAnswer) (now : Int) (getError : Option KubeError)
    (updateStatus : Node → Option KubeError) (stored : Node) :
    runStore answers now getError updateStatus stored = stored ∨
      (runStore answers now getError updateStatus stored = addNodeTerminationCondition now stored ∧
        SawNotice answers) := by
  by_cases h : runStore answers now getError updateStatus stored = stored
  · exact .inl h
  refine .inr ⟨?_, runStore_changed h⟩
  cases hp : pollImmediateUntil terminationNoticeCondition answers <;>
    simp only [runStore, hp] at h ⊢
  · exact (markAttempt_eq now getError updateStatus stored).resolve_left h
  · exact absurd trivial h

/-- One run of the handler: its poll answers, its instant, and the failures of its `Get` and of
its status update. -/
abbrev HandlerRun := List MetadataAnswer × Int × Option KubeError × (Node → Option KubeError)

/-- The store after the runs `runs` holds the node `node` as it was, or marked once, at the
instant of one of those runs that saw the notice. -/
def MarkedOnce (runs : List HandlerRun) (node stored : Node) : Prop :=
  stored = node ∨ ∃ r ∈ runs, stored = addNodeTerminationCondition r.2.1 node ∧ SawNotice r.1

/-- One more run keeps the store marked at most once: marking a marked node changes nothing. -/
theorem MarkedOnce.afterRun {runs : List HandlerRun} {node stored : Node}
    (hs : MarkedOnce runs node stored) (r : HandlerRun) :
    MarkedOnce (runs ++ [r]) node (runStore r.1 r.2.1 r.2.2.1 r.2.2.2 stored) := by
  rcases runStore_cases r.1 r.2.1 r.2.2.1 r.2.2.2 stored with h | ⟨h, hnotice⟩ <;> rw [h]
  · exact hs.imp id fun ⟨r', hr', hmarked⟩ => ⟨r', List.mem_append_left _ hr', hmarked⟩
  · rcases hs with rfl | ⟨r', hr', rfl, hnotice'⟩
    · exact .inr ⟨r, List.mem_append_right _ (List.mem_singleton_self r), rfl, hnotice⟩
    · obtain ⟨hsome, hT⟩ := addNodeTerminationCondition_terminating r'.2.1 node
      exact .inr ⟨r', List.mem_append_left _ hr',
        addNodeTerminationCondition_marked r.2.1 hsome hT, hnotice'⟩

/-- **The node is marked once, and only after the notice.** Over any sequence of runs of the
handler, each with its own answers, instant, and failures of the `Get` and of the update, the
stored node is the original one, or the original one marked at the instant of one run, a run
that saw a successful answer after `404`s only. -/
theorem runStore_markedOnce (runs : List HandlerRun) (node : Node) :
    MarkedOnce runs node
      (runs.foldl (fun stored r => runStore r.1 r.2.1 r.2.2.1 r.2.2.2 stored) node) := by
  induction runs using List.reverseRecOn with
  | nil => exact .inl rfl
  | append_singleton rs r ih =>
    rw [List.foldl_append, List.foldl_cons, List.foldl_nil]
    exact ih.afterRun r

end AwsProvider.Termination
