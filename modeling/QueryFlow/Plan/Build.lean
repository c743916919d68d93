import QueryFlow.Plan

/-!
# Building plans

One function for each operator. Those with inputs refuse inputs that are not physical, in order, and
then whatever does not fit the inputs' schemas.
-/

namespace QueryFlow

def Convention.checkPhysical (operator : String) : Convention → Except Error Unit
  | .physical => .ok ()
  | found => .error (.conventionMismatch operator .physical found)

namespace Plan

def checkInputs (operator : String) : List Plan → Except Error Unit
  | [] => .ok ()
  | p :: ps => do
    p.convention.checkPhysical operator
    checkInputs operator ps

def checkBranches (schema : Schema) : List Plan → Except Error Unit
  | [] => .ok ()
  | p :: ps => do
    Schema.checkAccepts "Union input" schema p.schema
    checkBranches schema ps

def makeFilter (input : Plan) (predicate : Expr) : Except Error Plan := do
  checkInputs "Filter" [input]
  predicate.checkPredicate input.schema
  return .filter predicate input

def makeProject (input : Plan) (fields : List Field) : Except Error Plan := do
  checkInputs "Project" [input]
  let columns ← fields.mapM fun f => f.column input.schema
  return .project ⟨columns⟩ fields input

/-- A union never drops duplicates: `all` is only shown. Without inputs it has no rows. -/
def makeUnion (schema : Schema) (inputs : List Plan) (all : Bool) : Except Error Plan := do
  checkInputs "Union" inputs
  checkBranches schema inputs
  return .union schema all inputs

def makeJoin (left right : Plan) (condition : Option Expr) : Except Error Plan := do
  checkInputs "NestedLoopJoin" [left, right]
  match condition with
  | some c => c.checkPredicate (left.schema.concat right.schema)
  | none => pure ()
  return .join condition left right

def remakeUnion (schema : Schema) (convention : Convention) (inputs : List Plan) (all : Bool) :
    Except Error Plan := do
  convention.checkPhysical "Union"
  makeUnion schema inputs all

end Plan

end QueryFlow
