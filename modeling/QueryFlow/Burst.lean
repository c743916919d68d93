import QueryFlow.Schema

/-!
# Bursts

What happens downstream during one step of a pipeline: rows are offered to the sinks between its
operators and to its consumer, up to the end of the step or its first failure.
-/

namespace QueryFlow

inductive Failure
  | error (e : Error)
  /-- The call follows a chain of sinks that leads back to itself. -/
  | endless
  deriving DecidableEq

/-- What a sink between two operators does with a row: a filter or a projection computes with it, a
join keeps a row of its right input and pairs one of its left input with those. -/
inductive Role
  | filter
  | project
  | build
  | probe
  deriving DecidableEq, Repr

structure Inlet where
  role : Role
  schema : Schema
  deriving DecidableEq

def Inlet.tests (i : Inlet) : Nat := if i.role = .filter then 1 else 0

inductive Burst
  | quiet
  | failed (e : Error)
  | passed (inlet : Inlet) (r : Row) (rest : Burst)
  | row (r : Row) (rest : Burst)

namespace Burst

def append : Burst → Burst → Burst
  | quiet, b => b
  | failed e, _ => failed e
  | passed inlet r rest, b => passed inlet r (rest.append b)
  | row r rest, b => row r (rest.append b)

def bind (f : Row → Burst) : Burst → Burst
  | quiet => quiet
  | failed e => failed e
  | passed inlet r rest => passed inlet r (rest.bind f)
  | row r rest => (f r).append (rest.bind f)

def rows : Burst → List Row
  | quiet | failed _ => []
  | passed _ _ rest => rest.rows
  | row r rest => r :: rest.rows

def tests : Burst → Nat
  | quiet | failed _ => 0
  | passed inlet _ rest => rest.tests + inlet.tests
  | row _ rest => rest.tests

structure Delivery (σ : Type) where
  result : Except Failure Unit
  tests : Nat
  state : σ

/-- Hands the rows of a burst to a consumer. The first refusal ends the burst. -/
def deliver {σ : Type} (push : Row → σ → Except Failure Unit × σ) : Burst → σ → Delivery σ
  | quiet, s => ⟨.ok (), 0, s⟩
  | failed e, s => ⟨.error (.error e), 0, s⟩
  | passed inlet _ rest, s =>
    let d := rest.deliver push s
    ⟨d.result, d.tests + inlet.tests, d.state⟩
  | row r rest, s =>
    match push r s with
    | (.ok (), s) => rest.deliver push s
    | (.error e, s) => ⟨.error e, 0, s⟩

end Burst

end QueryFlow
