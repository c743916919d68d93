import QueryFlow.Schema

/-!
# Scalar expressions

Expressions over the columns of one row, with SQL's three truth values.
-/

namespace QueryFlow

inductive Expr
  | column (index : Nat)
  | literal (v : Value)
  | compare (op : Comparison) (left right : Expr)
  | and (operands : List Expr)
  | or (operands : List Expr)
  | not (operand : Expr)
  | isNull (operand : Expr)

def Value.truth : Value → Except EvalError (Option Bool)
  | .bool b => .ok (some b)
  | .null => .ok none
  | v => .error (.notBoolean v)

def Comparison.apply (op : Comparison) (left right : Value) : Except EvalError Value :=
  if left.isNull || right.isNull then .ok .null
  else
    match left.compare? right with
    | none => .error (.incomparable left op right)
    | some o => .ok (.bool (op.holds o))

namespace Expr

mutual

def eval (row : Row) : Expr → Except EvalError Value
  | column index =>
    match row[index]? with
    | some v => .ok v
    | none => .error (.missingColumn index row.length)
  | literal v => .ok v
  | compare op left right => do
    let l ← eval row left
    let r ← eval row right
    op.apply l r
  | and operands => evalUntil row false false operands
  | or operands => evalUntil row true false operands
  | not operand => do
    let v ← eval row operand
    match ← v.truth with
    | some b => return .bool !b
    | none => return .null
  | isNull operand => do
    let v ← eval row operand
    return .bool v.isNull

/-- Evaluates operands from left to right and stops at the first that equals `decisive`. If none
does, the result is `NULL` if one was, and the other truth value if not. -/
def evalUntil (row : Row) (decisive sawNull : Bool) : List Expr → Except EvalError Value
  | [] => .ok (if sawNull then .null else .bool !decisive)
  | e :: es => do
    let v ← eval row e
    match ← v.truth with
    | some b => if b == decisive then return .bool decisive else evalUntil row decisive sawNull es
    | none => evalUntil row decisive true es

end

/-- Whether a predicate lets a row pass. Only `TRUE` does. -/
def selects (predicate : Expr) (row : Row) : Except EvalError Bool := do
  let v ← predicate.eval row
  return (← v.truth) == some true

theorem selects_eq_ok_true {predicate : Expr} {row : Row} :
    predicate.selects row = .ok true ↔ predicate.eval row = .ok (.bool true) := by
  unfold selects
  cases predicate.eval row with
  | error e => exact ⟨nofun, nofun⟩
  | ok v =>
    match v with
    | .bool true => exact ⟨fun _ => rfl, fun _ => rfl⟩
    | .bool false | .null | .int _ | .float _ | .string _ | .bytes _ => exact ⟨nofun, nofun⟩

mutual

def display : Expr → String
  | column index => "$" ++ index.repr
  | literal (.string s) => "'" ++ s ++ "'"
  | literal v => v.display
  | compare op left right => display left ++ " " ++ op.symbol ++ " " ++ display right
  | and operands => "(" ++ " AND ".intercalate (displayAll operands) ++ ")"
  | or operands => "(" ++ " OR ".intercalate (displayAll operands) ++ ")"
  | not operand => "NOT (" ++ display operand ++ ")"
  | isNull operand => display operand ++ " IS NULL"

def displayAll : List Expr → List String
  | [] => []
  | e :: es => display e :: displayAll es

end

end Expr

structure Field where
  expr : Expr
  name : String

def Field.display (f : Field) : String := f.expr.display ++ " AS " ++ f.name

def Field.evalAll (fields : List Field) (row : Row) : Except EvalError Row :=
  fields.mapM fun f => f.expr.eval row

end QueryFlow
