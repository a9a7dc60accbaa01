import Mathlib.Data.List.Basic

/-!
# The Go runtime the controllers run on

The controllers are Go code: a call returns a value and an `error`, and reading through a nil
pointer panics. This module fixes how both are modelled, once for the whole development.

A Go call ends in an `Outcome`: it returns a value (`ok`), returns a non-nil `error`
(`error`), or panics (`panic`). The only panic the modelled code can raise is a nil pointer
dereference; `deref` is the one place that reads through an optional pointer, and names the
expression it reads, so that a theorem about a panic says where it happens.

Errors are kept as the values the code builds and inspects: the AWS SDK's `awserr.Error` and
`awserr.RequestFailure` (`AWSError`), the Kubernetes client's errors (`KubeError`), the machine
API's `*MachineError` with its reason, and the `fmt.Errorf`/`errors.New` errors, with `%w`
wrapping kept apart from `%v` formatting because the code inspects the outermost error's type.

## Honest scope

Logging (`klog`, `logr`), metrics and events have no effect on any modelled state and are left
out. Go's `%q` is rendered as plain double quotes, which is exact for strings without quotes,
backslashes or control characters.
-/

namespace AwsProvider.Go

/-- A run-time panic. -/
inductive Panic where
  /-- Reading through a nil pointer; the expression read is named. -/
  | nilPointerDereference (expr : String)
  /-- Indexing a slice out of its range; the expression is named. -/
  | indexOutOfRange (expr : String)
  deriving DecidableEq, Repr

/-- An error of the AWS SDK for Go, as the code can tell them apart. -/
inductive AWSError where
  /-- An `awserr.RequestFailure`: a service error with its code, message, HTTP status code and
  the id of the request that failed. -/
  | requestFailure (code message : String) (statusCode : Int) (requestID : String)
  /-- An `awserr.Error` that is no request failure, such as a `RequestError` of the transport. -/
  | awsError (code message : String)
  /-- An error that is no `awserr.Error` at all. -/
  | other (message : String)
  deriving DecidableEq, Repr

/-- The text of an `AWSError`, as `awserr.SprintError` prints it: a request failure adds
"status code: %d, request id: %s" on a second line. The text of a wrapped original error
(`caused by:`) is left out: the service errors the code receives carry none. -/
def AWSError.error : AWSError → String
  | .requestFailure code message statusCode requestID =>
      code ++ ": " ++ message ++ "\n\tstatus code: " ++ toString statusCode ++
        ", request id: " ++ requestID
  | .awsError code message => code ++ ": " ++ message
  | .other message => message

/-- An error of the Kubernetes client. -/
inductive KubeError where
  /-- The object does not exist (`apierrors.IsNotFound`). -/
  | notFound (message : String)
  /-- Any other failure, such as a timeout or a conflict. -/
  | other (message : String)
  deriving DecidableEq, Repr

/-- The text of a `KubeError`. -/
def KubeError.error : KubeError → String
  | .notFound message => message
  | .other message => message

/-- `apierrors.IsNotFound`. -/
def KubeError.isNotFound : KubeError → Bool
  | .notFound _ => true
  | .other _ => false

/-- The reason of a machine API `*MachineError`. -/
inductive MachineErrorReason where
  /-- `InvalidConfiguration`: the user must change the spec; retrying does not help. -/
  | invalidConfiguration
  /-- `CreateError`: creating the instance failed; the controller retries. -/
  | createError
  deriving DecidableEq, Repr

/-- An `error` value of the modelled code. -/
inductive GoError where
  /-- `errors.New(msg)`, or `fmt.Errorf` without `%w`: only the text survives. -/
  | new (msg : String)
  /-- `fmt.Errorf(prefix + "%w", err)`: the text, wrapping `err`. -/
  | wrap (pre : String) (err : GoError)
  /-- A `*MachineError` (`mapierrors.InvalidMachineConfiguration`, `mapierrors.CreateMachine`). -/
  | machine (reason : MachineErrorReason) (msg : String)
  /-- An error the AWS SDK returned, unchanged. -/
  | aws (err : AWSError)
  /-- An error the Kubernetes client returned, unchanged. -/
  | kube (err : KubeError)
  deriving DecidableEq, Repr

/-- `err.Error()`. -/
def GoError.error : GoError → String
  | .new msg => msg
  | .wrap pre err => pre ++ err.error
  | .machine _ msg => msg
  | .aws err => err.error
  | .kube err => err.error

/-- `mapierrors.InvalidMachineConfiguration(msg)`. -/
def invalidMachineConfiguration (msg : String) : GoError := .machine .invalidConfiguration msg

/-- `mapierrors.CreateMachine(msg)`. -/
def createMachine (msg : String) : GoError := .machine .createError msg

/-- The error is, at its outermost layer, a `*MachineError` with reason `InvalidConfiguration`. -/
def GoError.isInvalidConfiguration : GoError → Bool
  | .machine .invalidConfiguration _ => true
  | _ => false

/-- How a Go call ends. -/
inductive Outcome (α : Type) where
  /-- It returns `v, nil`. -/
  | ok (v : α)
  /-- It returns a non-nil `error`. -/
  | error (err : GoError)
  /-- It panics. -/
  | panic (p : Panic)
  deriving DecidableEq, Repr

namespace Outcome

variable {α β : Type}

/-- Go's `if err != nil { return err }`: continue only after a value. -/
def bind : Outcome α → (α → Outcome β) → Outcome β
  | .ok v, f => f v
  | .error err, _ => .error err
  | .panic p, _ => .panic p

instance : Monad Outcome where
  pure := .ok
  bind := bind

@[simp] theorem pure_eq (v : α) : (pure v : Outcome α) = .ok v := rfl
@[simp] theorem ok_bind (v : α) (f : α → Outcome β) : (Outcome.ok v >>= f) = f v := rfl
@[simp] theorem error_bind (err : GoError) (f : α → Outcome β) :
    (Outcome.error err >>= f) = .error err := rfl
@[simp] theorem panic_bind (p : Panic) (f : α → Outcome β) :
    (Outcome.panic p >>= f) = .panic p := rfl

theorem bind_eq_ok {x : Outcome α} {f : α → Outcome β} {w : β} :
    (x >>= f) = .ok w ↔ ∃ v, x = .ok v ∧ f v = .ok w := by
  cases x <;> simp

theorem bind_eq_error {x : Outcome α} {f : α → Outcome β} {err : GoError} :
    (x >>= f) = .error err ↔ x = .error err ∨ ∃ v, x = .ok v ∧ f v = .error err := by
  cases x <;> simp

/-- A postcondition: a returned value satisfies `R`, a returned error satisfies `E`, and a panic
is not constrained. -/
def Spec (R : α → Prop) (E : GoError → Prop) : Outcome α → Prop
  | .ok v => R v
  | .error err => E err
  | .panic _ => True

@[simp] theorem spec_ok (R : α → Prop) (E : GoError → Prop) (v : α) : Spec R E (.ok v) ↔ R v :=
  Iff.rfl
@[simp] theorem spec_error (R : α → Prop) (E : GoError → Prop) (err : GoError) :
    Spec R E (.error err) ↔ E err := Iff.rfl

end Outcome

/-- `*p` (or `p.f`) for an optional pointer `p` written `expr` in the source. -/
def deref {α : Type} (expr : String) : Option α → Outcome α
  | some v => .ok v
  | none => .panic (.nilPointerDereference expr)

@[simp] theorem deref_some {α : Type} (expr : String) (v : α) : deref expr (some v) = .ok v := rfl
@[simp] theorem deref_none {α : Type} (expr : String) :
    deref expr (none : Option α) = .panic (.nilPointerDereference expr) := rfl

/-- `s[i]`, written `expr` in the source: the element, or a panic. -/
def index {α : Type} (expr : String) (s : List α) (i : Nat) : Outcome α :=
  match s[i]? with
  | some v => .ok v
  | none => .panic (.indexOutOfRange expr)

/-- `aws.StringValue(p)`: the string, or `""` for nil. -/
def stringValue (p : Option String) : String := p.getD ""

/-- `aws.Int64Value(p)`: the integer, or `0` for nil. -/
def int64Value (p : Option Int) : Int := p.getD 0

/-- `strings.HasPrefix(s, pre)`. Go compares bytes; UTF-8 is a prefix code, so comparing
characters gives the same answer. -/
def hasPrefix (s pre : String) : Bool := pre.data.isPrefixOf s.data

theorem hasPrefix_append (pre s : String) : hasPrefix (pre ++ s) pre = true := by
  simp only [hasPrefix, List.isPrefixOf_iff_prefix]
  exact List.prefix_append _ _

/-- The alphabet of `base64.StdEncoding`. -/
def base64Alphabet : List Char :=
  "ABCDEFGHIJKLMNOPQRSTUVWXYZabcdefghijklmnopqrstuvwxyz0123456789+/".data

/-- The character for a 6-bit group. -/
def base64Char (n : Nat) : Char := base64Alphabet.getD (n % 64) '='

/-- `base64.StdEncoding.EncodeToString`: three bytes to four characters, padded with `=`. -/
def base64Encode : List UInt8 → String
  | a :: b :: c :: rest =>
    let n := a.toNat * 65536 + b.toNat * 256 + c.toNat
    ⟨[base64Char (n / 262144), base64Char (n / 4096), base64Char (n / 64), base64Char n]⟩ ++
      base64Encode rest
  | [a, b] =>
    let n := a.toNat * 65536 + b.toNat * 256
    ⟨[base64Char (n / 262144), base64Char (n / 4096), base64Char (n / 64), '=']⟩
  | [a] =>
    let n := a.toNat * 65536
    ⟨[base64Char (n / 262144), base64Char (n / 4096), '=', '=']⟩
  | [] => ""

/-- Go's `%q` of a string. -/
def quote (s : String) : String := "\"" ++ s ++ "\""

end AwsProvider.Go
