import QueryFlow.Document
import QueryFlow.Engine.Execution
import QueryFlow.Json.Printer

namespace QueryFlow

/-- The constant by itself. A double that is no number or not finite has no written form of its own
and becomes `null`. -/
def Value.constantToJson? : Value → Option Json
  | .null => none
  | .bool b => some (.bool b)
  | .int n => some (.ofInt n.toInt)
  | .float d => some (if d.isFinite then .number (some (.float d)) else .null)
  | .string s => some (.ofString s)
  | .bytes bs => some (.array (bs.map fun b => .ofInt b.toNat))

def Value.toJson (v : Value) : Json :=
  .ofMembers (("t", .ofString v.typeName) :: (v.constantToJson?.map (("v", ·))).toList)

def Row.toJson (row : Row) : Json := .array (row.map Value.toJson)

def Column.toJson (c : Column) : Json :=
  .ofMembers [("name", .ofString c.name), ("data_type", .ofString c.dataType.name),
    ("nullable", .bool c.nullable)]

def Column.listToJson (columns : List Column) : Json := .array (columns.map Column.toJson)

def Row.listToJson (rows : List Row) : Json := .array (rows.map Row.toJson)

namespace Expr

mutual

def toJson : Expr → Json
  | column index => .ofMembers [("column", .ofInt index)]
  | literal v => .ofMembers [("literal", v.toJson)]
  | compare op left right =>
    .ofMembers [("cmp", .ofMembers
      [("op", .ofString op.name), ("left", toJson left), ("right", toJson right)])]
  | and operands => .ofMembers [("and", .array (listToJson operands))]
  | or operands => .ofMembers [("or", .array (listToJson operands))]
  | not operand => .ofMembers [("not", toJson operand)]
  | isNull operand => .ofMembers [("is_null", toJson operand)]

def listToJson : List Expr → List Json
  | [] => []
  | e :: es => toJson e :: listToJson es

end

end Expr

def Field.toJson (f : Field) : Json :=
  .ofMembers [("expr", f.expr.toJson), ("alias", .ofString f.name)]

namespace Node

mutual

def toJson : Node → Json
  | values columns rows convention =>
    .ofMembers [("op", .ofString Kind.values.name), ("columns", Column.listToJson columns),
      ("rows", Row.listToJson rows), ("convention", .ofString convention.name)]
  | union columns all inputs =>
    .ofMembers [("op", .ofString Kind.union.name), ("columns", Column.listToJson columns),
      ("all", .bool all), ("inputs", .array (listToJson inputs))]
  | scan table => .ofMembers [("op", .ofString Kind.scan.name), ("table", .ofString table)]
  | file path columns =>
    .ofMembers [("op", .ofString Kind.file.name), ("path", .ofString path),
      ("columns", Column.listToJson columns)]
  | filter predicate input =>
    .ofMembers [("op", .ofString Kind.filter.name), ("predicate", predicate.toJson),
      ("input", toJson input)]
  | project fields input =>
    .ofMembers [("op", .ofString Kind.project.name), ("fields", .array (fields.map Field.toJson)),
      ("input", toJson input)]
  | join condition left right =>
    .ofMembers [("op", .ofString Kind.join.name),
      ("condition", (condition.map Expr.toJson).getD .null), ("left", toJson left),
      ("right", toJson right)]

def listToJson : List Node → List Json
  | [] => []
  | n :: ns => toJson n :: listToJson ns

end

end Node

def TableSpec.toJson (t : TableSpec) : Json :=
  .ofMembers [("columns", Column.listToJson t.columns), ("rows", Row.listToJson t.rows)]

def Document.toJson (d : Document) : Json :=
  .ofMembers [("tables", .ofMembers (d.tables.map fun (name, t) => (name, t.toJson))),
    ("plan", d.plan.toJson)]

def Document.render (d : Document) : String := d.toJson.compact

def QueryResult.toJson (r : QueryResult) : Json :=
  .ofMembers [("schema", Column.listToJson r.schema.columns), ("rows", Row.listToJson r.rows)]

end QueryFlow
