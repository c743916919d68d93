import QueryFlow.Schema

namespace QueryFlow

/-- What a buffer does beyond keeping rows. Only `keep` is a result buffer, and the only consumer
that comes with the engine. The other two stand for consumers that a caller may bring along: one
that refuses rows while it holds `capacity` of them, and one that requests cancellation whenever it
holds `threshold` of them. -/
inductive Policy
  | keep
  | limit (capacity : Nat)
  | trip (threshold : Nat)
  deriving DecidableEq

structure Buffer where
  schema : Schema
  policy : Policy
  rows : Array Row
  finished : Bool

inductive SinkId
  | buffer (index : Nat)
  | lazySink (index : Nat)
  deriving DecidableEq, Repr

structure LazySink where
  schema : Schema
  /-- Written at most once. -/
  target : Option SinkId

namespace Buffer

def empty (schema : Schema) (policy : Policy) : Buffer := ⟨schema, policy, #[], false⟩

def refusal? (b : Buffer) : Option Error :=
  match b.policy with
  | .limit capacity =>
    if capacity ≤ b.rows.size then some (.eval (.reported "sink full")) else none
  | .keep | .trip _ => none

def keep (r : Row) (b : Buffer) : Buffer := { b with rows := b.rows.push r }

def cancels (b : Buffer) : Bool :=
  match b.policy with
  | .trip threshold => threshold ≤ b.rows.size
  | .keep | .limit _ => false

def finish (b : Buffer) : Buffer :=
  match b.policy with
  | .keep => { b with finished := true }
  | .limit _ | .trip _ => b

def debug (b : Buffer) : String :=
  "ResultBuffer \x7b schema: " ++ b.schema.debug ++ ", rows: " ++ b.rows.size.repr ++ " \x7d"

end Buffer

namespace LazySink

def unbound (schema : Schema) : LazySink := ⟨schema, none⟩

def isBound (l : LazySink) : Bool := l.target.isSome

def checkBound (l : LazySink) : Except Error Unit :=
  if l.isBound then .ok () else .error (.unbound "lazy sink")

/-- Attaches a target of the given schema. The first target stays. -/
def bind (l : LazySink) (target : SinkId) (schema : Schema) : Except Error LazySink := do
  if l.isBound then throw (.alreadyBound "lazy sink")
  Schema.checkAccepts "late bind" schema l.schema
  return { l with target := some target }

def debug (l : LazySink) : String :=
  "LazySink \x7b schema: " ++ l.schema.debug ++ ", bound: " ++
    (if l.isBound then "true" else "false") ++ " \x7d"

end LazySink

end QueryFlow
