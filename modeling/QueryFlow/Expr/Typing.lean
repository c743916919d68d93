import QueryFlow.Expr

namespace QueryFlow

structure ExprType where
  /-- Absent only for a `NULL` literal, which has no type of its own. -/
  dataType : Option DataType
  nullable : Bool
  deriving DecidableEq

namespace ExprType

def boolean (nullable : Bool) : ExprType := ⟨some .bool, nullable⟩

def asBoolean (context : String) (t : ExprType) : Except Error ExprType :=
  match t.dataType with
  | none | some .bool => .ok t
  | some other => .error (.typeMismatch context (.notBoolean other))

def comparison (op : Comparison) (left right : ExprType) : Except Error ExprType :=
  match left.dataType, right.dataType with
  | some a, some b =>
    if a.comparable b then .ok (boolean (left.nullable || right.nullable))
    else .error (.typeMismatch "comparison" (.incomparable a op b))
  | _, _ => .ok (boolean (left.nullable || right.nullable))

end ExprType

namespace Expr

mutual

def resolve (input : Schema) : Expr → Except Error ExprType
  | column index =>
    match input.column? index with
    | some c => .ok ⟨some c.dataType, c.nullable⟩
    | none => .error (.columnOutOfRange index input.arity)
  | literal v => .ok ⟨v.dataType?, v.isNull⟩
  | compare op left right => do
    let l ← resolve input left
    let r ← resolve input right
    ExprType.comparison op l r
  | and operands => ExprType.boolean <$> resolveOperands input operands
  | or operands => ExprType.boolean <$> resolveOperands input operands
  | not operand => do
    let t ← resolve input operand
    let t ← t.asBoolean "NOT operand"
    return .boolean t.nullable
  | isNull operand => do
    let _ ← resolve input operand
    return .boolean false

def resolveOperands (input : Schema) : List Expr → Except Error Bool
  | [] => .ok false
  | e :: es => do
    let t ← resolve input e
    let t ← t.asBoolean "logical operand"
    let rest ← resolveOperands input es
    return t.nullable || rest

end

def checkPredicate (predicate : Expr) (input : Schema) : Except Error Unit := do
  let t ← predicate.resolve input
  let _ ← t.asBoolean "filter predicate"

end Expr

def Field.column (f : Field) (input : Schema) : Except Error Column := do
  let t ← f.expr.resolve input
  match t.dataType with
  | some dataType => return ⟨f.name, dataType, t.nullable⟩
  | none => throw (.typeMismatch "projection" (.untypedNull f.name))

end QueryFlow
