import QueryFlow.Plan.Build

/-!
# Plan documents

The file form of a plan: the tables that it scans and a tree of nodes. Building a document checks
the tables first, then the nodes from the leaves up.
-/

namespace QueryFlow

structure TableSpec where
  columns : List Column
  rows : List Row

inductive Node
  | values (columns : List Column) (rows : List Row) (convention : Convention)
  | union (columns : List Column) (all : Bool) (inputs : List Node)
  | scan (table : String)
  | file (path : String) (columns : List Column)
  | filter (predicate : Expr) (input : Node)
  | project (fields : List Field) (input : Node)
  | join (condition : Option Expr) (left right : Node)

inductive Node.Kind
  | values
  | union
  | scan
  | file
  | filter
  | project
  | join
  deriving DecidableEq

namespace Node

def Kind.name : Kind → String
  | values => "values"
  | union => "union"
  | scan => "scan"
  | file => "file"
  | filter => "filter"
  | project => "project"
  | join => "join"

/-- The kinds in the order of their numbers. -/
def Kind.all : List Kind := [values, union, scan, file, filter, project, join]

end Node

structure Document where
  /-- At most one table of a name, in the order of the names. -/
  tables : List (String × TableSpec)
  plan : Node

namespace Node

mutual

def build (tables : Registry) : Node → Except Error Plan
  | values columns rows convention => do
    let schema : Schema := ⟨columns⟩
    schema.checkRows "Values tuples" rows
    return .values schema rows convention
  | union columns all inputs => do
    let plans ← buildAll tables inputs
    Plan.makeUnion ⟨columns⟩ plans all
  | scan name => do
    let table ← tables.resolve name
    return .scan table
  | file path columns => .ok (.scan (.ofFile path ⟨columns⟩))
  | filter predicate input => do
    let plan ← build tables input
    Plan.makeFilter plan predicate
  | project fields input => do
    let plan ← build tables input
    Plan.makeProject plan fields
  | join condition left right => do
    let l ← build tables left
    let r ← build tables right
    Plan.makeJoin l r condition

def buildAll (tables : Registry) : List Node → Except Error (List Plan)
  | [] => .ok []
  | n :: ns => do
    let p ← build tables n
    let ps ← buildAll tables ns
    return p :: ps

end

end Node

namespace Document

def putTable (name : String) (t : TableSpec) :
    List (String × TableSpec) → List (String × TableSpec)
  | [] => [(name, t)]
  | (other, u) :: rest =>
    if name < other then (name, t) :: (other, u) :: rest
    else if name = other then (name, t) :: rest
    else (other, u) :: putTable name t rest

def registry (d : Document) : Except Error Registry :=
  d.tables.foldlM (fun r (name, t) => return r.register (← Table.ofRows name ⟨t.columns⟩ t.rows))
    Registry.empty

def build (d : Document) : Except Error Plan := do
  let tables ← d.registry
  d.plan.build tables

end Document

end QueryFlow
