import QueryFlow.Engine
import QueryFlow.Source

/-!
# Execution

Plans are compiled and driven on an engine, in one go or prepared first and bound to a consumer
later.
-/

namespace QueryFlow

inductive Token
  /-- A flag of its own, which nothing changes during a run. -/
  | fixed (cancelled : Bool)
  /-- The flag of the engine. -/
  | shared

structure RunOptions where
  /-- Milliseconds after which a run is abandoned. Runs take no time that is measured here, so a
  limit matters only if it is zero. -/
  timeout : Option Nat
  token : Option Token

def RunOptions.unlimited : RunOptions := ⟨none, none⟩

/-- Why a run has to stop before its next step. Cancellation comes before the deadline. -/
def RunOptions.stop (o : RunOptions) (g : Engine) : Option Error :=
  let cancelled :=
    match o.token with
    | none => false
    | some (.fixed c) => c
    | some .shared => g.cancelled
  if cancelled then some .cancelled
  else if o.timeout = some 0 then some (.timeout 0)
  else none

structure Entry where
  plan : Plan
  sink : Nat

structure Prepared where
  plan : Plan
  source : Source SinkId
  sink : Nat

structure QueryResult where
  schema : Schema
  rows : List Row
  steps : Nat

inductive Progress
  | continues
  | done
  deriving DecidableEq

namespace Engine

/-- Compiles a plan against a sink. Only compilations of a physical root are counted. -/
def compilePlan (plan : Plan) (next : SinkId) (g : Engine) :
    Except Error (Source SinkId) × Engine :=
  match plan.convention.checkPhysical plan.operator with
  | .error e => (.error e, g)
  | .ok () => ((plan.compile (g.schema next)).map fun p => .pipe p next, g.countCompile)

def step (source : Source SinkId) (g : Engine) :
    Except Failure Progress × Source SinkId × Engine :=
  match source.step? with
  | none => (.ok .done, source, g)
  | some (burst, next, rest) =>
    let d := burst.deliver (push next) g
    (d.result.map fun _ => .continues, rest, d.state.countFilters d.tests)

/-- Drives a source to its end and tells its terminal sink. The result is the number of steps. -/
def drive (options : RunOptions) (source : Source SinkId) (terminal : SinkId) (g : Engine) :
    Except Failure Nat × Engine :=
  let d := source.drive options.stop push g
  let g := (d.state.countFilters d.tests).countDrive d.steps
  match d.result with
  | .error e => (.error e, g)
  | .ok () =>
    let (result, g) := finish terminal g
    (result.map fun _ => d.steps, g)

def makeEntry (plan : Plan) (sink : Nat) (g : Engine) : Except Error Entry := do
  (g.lazySink sink).checkBound
  return ⟨plan, sink⟩

def run (options : RunOptions) (entry : Entry) (g : Engine) : Except Failure Nat × Engine :=
  match (g.lazySink entry.sink).checkBound with
  | .error e => (.error (.error e), g)
  | .ok () =>
    match g.compilePlan entry.plan (.lazySink entry.sink) with
    | (.error e, g) => (.error (.error e), g)
    | (.ok source, g) => g.drive options source (.lazySink entry.sink)

def prepare (plan : Plan) (g : Engine) : Except Error Prepared × Engine :=
  let (sink, g) := g.newLazySink plan.schema
  let (source, g) := g.compilePlan plan (.lazySink sink)
  (source.map fun s => ⟨plan, s, sink⟩, g)

def split (p : Prepared) (g : Engine) : Except Error (Source SinkId × Nat) := do
  (g.lazySink p.sink).checkBound
  return (p.source, p.sink)

def drivePrepared (options : RunOptions) (p : Prepared) (g : Engine) :
    Except Failure Nat × Engine :=
  match g.split p with
  | .error e => (.error (.error e), g)
  | .ok (source, sink) => g.drive options source (.lazySink sink)

def execute (options : RunOptions) (plan : Plan) (g : Engine) :
    Except Failure QueryResult × Engine :=
  let (buffer, g) := g.newBuffer plan.schema .keep
  let (sink, g) := g.newLazySink plan.schema
  match g.bind sink (.buffer buffer) with
  | (.error e, g) => (.error (.error e), g)
  | (.ok (), g) =>
    match g.makeEntry plan sink with
    | .error e => (.error (.error e), g)
    | .ok entry =>
      match g.run options entry with
      | (.error e, g) => (.error e, g)
      | (.ok steps, g) =>
        let (rows, g) := g.takeRows buffer
        (.ok ⟨plan.schema, rows, steps⟩, g)

end Engine

def Entry.debug (e : Entry) (g : Engine) : String :=
  "PlanEntry \x7b root: " ++ Text.quoted e.plan.operator ++ ", then: " ++
    (g.lazySink e.sink).debug ++ " \x7d"

def Prepared.debug (p : Prepared) (g : Engine) : String :=
  "PreparedPlan \x7b root: " ++ Text.quoted p.plan.operator ++ ", source: " ++
    Text.quoted p.source.driver ++ ", then: " ++ (g.lazySink p.sink).debug ++ " \x7d"

end QueryFlow
