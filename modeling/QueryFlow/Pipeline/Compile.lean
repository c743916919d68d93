import QueryFlow.Pipeline
import QueryFlow.Plan.Build

/-!
# Compiling plans

A plan is compiled from the root down against the schema of its consumer. Every node checks itself
and its consumer before its inputs are compiled; tables are opened on the way.
-/

namespace QueryFlow.Plan

def checkConsumer (p : Plan) (consumer : Schema) : Except Error Unit := do
  p.convention.checkPhysical p.operator
  Schema.checkAccepts p.operator consumer p.schema

mutual

/-- A filter or a projection consumes rows of its input's schema, a join collects rows of the schema
of its right input first, and the branches of a union share the union's consumer. -/
def compile (consumer : Schema) : Plan → Except Error Pipeline
  | p@(values _ tuples _) => do
    p.checkConsumer consumer
    return .values tuples
  | p@(scan table) => do
    p.checkConsumer consumer
    let items ← table.contents
    return .scan items
  | p@(filter predicate input) => do
    p.checkConsumer consumer
    let source ← compile input.schema input
    return .filter input.schema predicate source
  | p@(project _ fields input) => do
    p.checkConsumer consumer
    let source ← compile input.schema input
    return .project input.schema fields source
  | p@(union _ _ inputs) => do
    p.checkConsumer consumer
    let branches ← compileAll consumer inputs
    return .union branches
  | p@(join condition left right) => do
    p.checkConsumer consumer
    let r ← compile right.schema right
    let l ← compile left.schema left
    return .build right.schema left.schema condition #[] r l

def compileAll (consumer : Schema) : List Plan → Except Error (List Pipeline)
  | [] => .ok []
  | p :: ps => do
    let q ← compile consumer p
    let qs ← compileAll consumer ps
    return q :: qs

end

def compileBranches (consumer : Schema) (schema : Schema) (all : Bool) (inputs : List Plan) :
    Except Error (List Pipeline) := do
  (union schema all inputs).checkConsumer consumer
  compileAll consumer inputs

end QueryFlow.Plan
