import QueryFlow.Expr.Typing
import QueryFlow.Table

/-!
# Plans

A finished query plan is a tree of six operators. The functions in `Plan.Build` make the trees whose
schemas and conventions fit together.
-/

namespace QueryFlow

inductive Plan
  | values (schema : Schema) (tuples : List Row) (convention : Convention)
  | scan (table : Table)
  | filter (predicate : Expr) (input : Plan)
  | project (schema : Schema) (fields : List Field) (input : Plan)
  | union (schema : Schema) (all : Bool) (inputs : List Plan)
  | join (condition : Option Expr) (left right : Plan)

namespace Plan

def operator : Plan → String
  | values .. => "Values"
  | scan .. => "Scan"
  | filter .. => "Filter"
  | project .. => "Project"
  | union .. => "Union"
  | join .. => "NestedLoopJoin"

def convention : Plan → Convention
  | values _ _ c => c
  | _ => .physical

def schema : Plan → Schema
  | values s _ _ => s
  | scan t => t.schema
  | filter _ input => input.schema
  | project s _ _ => s
  | union s _ _ => s
  | join _ left right => left.schema.concat right.schema

def inputs : Plan → List Plan
  | values .. | scan _ => []
  | filter _ input => [input]
  | project _ _ input => [input]
  | union _ _ inputs => inputs
  | join _ left right => [left, right]

def display : Plan → String
  | values _ tuples _ => "Values(rows=" ++ tuples.length.repr ++ ")"
  | scan t => "Scan(" ++ t.name ++ ")"
  | filter predicate _ => "Filter(" ++ predicate.display ++ ")"
  | project _ fields _ => "Project(" ++ ", ".intercalate (fields.map Field.display) ++ ")"
  | union _ all _ => if all then "Union(all)" else "Union(distinct)"
  | join (some condition) _ _ => "NestedLoopJoin(" ++ condition.display ++ ")"
  | join none _ _ => "NestedLoopJoin(cross)"

def indentation (depth : Nat) : String := String.ofList (List.replicate (2 * depth) ' ')

mutual

/-- The tree, one line a node, inputs below their node and two spaces to the right of it. -/
def explain (depth : Nat) : Plan → String
  | p@(values ..) | p@(scan _) => indentation depth ++ p.display ++ "\n"
  | p@(filter _ input) => indentation depth ++ p.display ++ "\n" ++ explain (depth + 1) input
  | p@(project _ _ input) => indentation depth ++ p.display ++ "\n" ++ explain (depth + 1) input
  | p@(union _ _ inputs) => indentation depth ++ p.display ++ "\n" ++ explainAll (depth + 1) inputs
  | p@(join _ left right) =>
    indentation depth ++ p.display ++ "\n" ++ explain (depth + 1) left ++ explain (depth + 1) right

def explainAll (depth : Nat) : List Plan → String
  | [] => ""
  | p :: ps => explain depth p ++ explainAll depth ps

end

end Plan

end QueryFlow
