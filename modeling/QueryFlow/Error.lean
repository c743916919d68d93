import QueryFlow.Comparison
import QueryFlow.Convention
import QueryFlow.Value

/-!
# Errors

What can go wrong when a plan is built, compiled or driven. An error is its cause; `Error.message`
alone words it.
-/

namespace QueryFlow

inductive TypeError
  | incomparable (left : DataType) (op : Comparison) (right : DataType)
  | notBoolean (found : DataType)
  | untypedNull (name : String)
  | reported (detail : String)
  deriving DecidableEq

inductive EvalError
  | missingColumn (index arity : Nat)
  | incomparable (left : Value) (op : Comparison) (right : Value)
  | notBoolean (found : Value)
  | reported (detail : String)
  deriving DecidableEq

inductive Error
  | conventionMismatch (operator : String) (expected found : Convention)
  | schemaMismatch (context expected found : String)
  | alreadyBound (sink : String)
  | unbound (sink : String)
  | columnOutOfRange (index arity : Nat)
  | typeMismatch (context : String) (cause : TypeError)
  | unsupported (feature : String)
  | unknownTable (name : String)
  | invalid (detail : String)
  | eval (cause : EvalError)
  | cancelled
  | timeout (milliseconds : Nat)
  | io (detail : String)
  | planDocument (detail : String)
  deriving DecidableEq

def TypeError.message : TypeError → String
  | incomparable left op right =>
    "cannot compare " ++ left.sqlName ++ " " ++ op.symbol ++ " " ++ right.sqlName
  | notBoolean found => "expected BOOLEAN, found " ++ found.sqlName
  | untypedNull name => "'" ++ name ++ "' is an untyped NULL"
  | reported detail => detail

def EvalError.message : EvalError → String
  | missingColumn index arity =>
    "column #" ++ index.repr ++ " missing from row of arity " ++ arity.repr
  | incomparable left op right =>
    "cannot compare " ++ left.display ++ " " ++ op.symbol ++ " " ++ right.display
  | notBoolean found => "expected boolean, found " ++ found.display
  | reported detail => detail

namespace Error

def message : Error → String
  | conventionMismatch operator expected found =>
    operator ++ " requires " ++ expected.display ++ " convention (got " ++ found.display ++ ")"
  | schemaMismatch context expected found =>
    context ++ ": consumer expects " ++ expected ++ " but producer declares " ++ found
  | alreadyBound sink => "continuation for " ++ sink ++ " is already bound"
  | unbound sink => "continuation for " ++ sink ++ " has not been bound"
  | columnOutOfRange index arity =>
    "column #" ++ index.repr ++ " out of range for row of arity " ++ arity.repr
  | typeMismatch context cause => "type mismatch in " ++ context ++ ": " ++ cause.message
  | unsupported feature => feature ++ " is not supported"
  | unknownTable name => "unknown table '" ++ name ++ "'"
  | invalid detail => "invalid argument: " ++ detail
  | eval cause => "evaluation failed: " ++ cause.message
  | cancelled => "query cancelled"
  | timeout milliseconds => "query exceeded timeout of " ++ milliseconds.repr ++ "ms"
  | io detail => "IO: " ++ detail
  | planDocument detail => "plan document: " ++ detail

def code : Error → String
  | conventionMismatch .. => "ConventionMismatch"
  | schemaMismatch .. => "SchemaMismatch"
  | alreadyBound .. => "AlreadyBound"
  | unbound .. => "Unbound"
  | columnOutOfRange .. => "ColumnOutOfRange"
  | typeMismatch .. => "TypeMismatch"
  | unsupported .. => "Unsupported"
  | unknownTable .. => "UnknownTable"
  | invalid .. => "Invalid"
  | eval .. => "Eval"
  | cancelled => "Cancelled"
  | timeout .. => "Timeout"
  | io .. => "Io"
  | planDocument .. => "PlanDocument"

/-- Structural errors belong to the plan, the others to a run of it. -/
def isStructural : Error → Bool
  | eval .. | cancelled | timeout .. => false
  | _ => true

def messageWithCode (e : Error) : String := "[" ++ e.code ++ "] " ++ e.message

end Error

end QueryFlow
