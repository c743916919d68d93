import QueryFlow.Burst
import QueryFlow.Sink

namespace QueryFlow

structure Profile where
  /-- Compilations of a physical root, whether they succeeded or not. -/
  compiles : Nat
  drives : Nat
  steps : Nat
  filters : Nat
  deriving DecidableEq, Repr

structure Engine where
  buffers : Array Buffer
  lazySinks : Array LazySink
  cancelled : Bool
  profile : Profile

inductive Route
  | buffer (index : Nat)
  | unbound
  /-- The chain of lazy sinks leads back to itself. -/
  | endless
  deriving DecidableEq, Repr

namespace Engine

def initial : Engine := ⟨#[], #[], false, ⟨0, 0, 0, 0⟩⟩

def newBuffer (g : Engine) (schema : Schema) (policy : Policy) : Nat × Engine :=
  (g.buffers.size, { g with buffers := g.buffers.push (.empty schema policy) })

def newLazySink (g : Engine) (schema : Schema) : Nat × Engine :=
  (g.lazySinks.size, { g with lazySinks := g.lazySinks.push (.unbound schema) })

def buffer (g : Engine) (index : Nat) : Buffer :=
  g.buffers.getD index (.empty ⟨[]⟩ .keep)

def lazySink (g : Engine) (index : Nat) : LazySink :=
  g.lazySinks.getD index (.unbound ⟨[]⟩)

def changeBuffer (g : Engine) (index : Nat) (f : Buffer → Buffer) : Engine :=
  { g with buffers := g.buffers.modify index f }

def setLazySink (g : Engine) (index : Nat) (l : LazySink) : Engine :=
  { g with lazySinks := g.lazySinks.setIfInBounds index l }

def schema (g : Engine) : SinkId → Schema
  | .buffer i => (g.buffer i).schema
  | .lazySink i => (g.lazySink i).schema

def routeWithin (g : Engine) : Nat → SinkId → Route
  | _, .buffer i => .buffer i
  | 0, .lazySink _ => .endless
  | hops + 1, .lazySink i =>
    match (g.lazySink i).target with
    | none => .unbound
    | some target => g.routeWithin hops target

/-- A chain longer than the number of lazy sinks meets one of them twice. -/
def route (g : Engine) (sink : SinkId) : Route := g.routeWithin (g.lazySinks.size + 1) sink

def push (sink : SinkId) (r : Row) (g : Engine) : Except Failure Unit × Engine :=
  match g.route sink with
  | .endless => (.error .endless, g)
  | .unbound => (.error (.error (.unbound "lazy sink")), g)
  | .buffer i =>
    match (g.buffer i).refusal? with
    | some e => (.error (.error e), g)
    | none =>
      let g := g.changeBuffer i (Buffer.keep r)
      (.ok (), if (g.buffer i).cancels then { g with cancelled := true } else g)

def finish (sink : SinkId) (g : Engine) : Except Failure Unit × Engine :=
  match g.route sink with
  | .endless => (.error .endless, g)
  | .unbound => (.error (.error (.unbound "lazy sink")), g)
  | .buffer i => (.ok (), g.changeBuffer i Buffer.finish)

/-- Attaches a sink to a lazy sink. A lazy sink may be attached to itself. -/
def bind (lazySink : Nat) (target : SinkId) (g : Engine) : Except Error Unit × Engine :=
  match (g.lazySink lazySink).bind target (g.schema target) with
  | .error e => (.error e, g)
  | .ok l => (.ok (), g.setLazySink lazySink l)

def takeRows (buffer : Nat) (g : Engine) : List Row × Engine :=
  ((g.buffer buffer).rows.toList, g.changeBuffer buffer fun b => { b with rows := #[] })

def countFilters (g : Engine) (n : Nat) : Engine :=
  { g with profile := { g.profile with filters := g.profile.filters + n } }

def countCompile (g : Engine) : Engine :=
  { g with profile := { g.profile with compiles := g.profile.compiles + 1 } }

def countDrive (g : Engine) (steps : Nat) : Engine :=
  { g with profile := { g.profile with
      drives := g.profile.drives + 1, steps := g.profile.steps + steps } }

end Engine

end QueryFlow
