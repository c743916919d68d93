import QueryFlow.Numeric.Layout
import QueryFlow.Text.Quoted

namespace QueryFlow

inductive DataType
  | bool
  | int
  | float
  | string
  | bytes
  deriving DecidableEq, Repr

namespace DataType

def isNumeric : DataType → Bool
  | int | float => true
  | _ => false

def comparable (a b : DataType) : Bool := a == b || a.isNumeric && b.isNumeric

def sqlName : DataType → String
  | bool => "BOOLEAN"
  | int => "BIGINT"
  | float => "DOUBLE"
  | string => "VARCHAR"
  | bytes => "VARBINARY"

def name : DataType → String
  | bool => "Bool"
  | int => "Int"
  | float => "Float"
  | string => "String"
  | bytes => "Bytes"

def all : List DataType := [bool, int, float, string, bytes]

end DataType

inductive Value
  | null
  | bool (b : Bool)
  | int (n : Int64)
  | float (d : Double)
  | string (s : String)
  | bytes (bs : List UInt8)
  deriving DecidableEq

abbrev Row := List Value

namespace Value

def dataType? : Value → Option DataType
  | null => none
  | bool _ => some .bool
  | int _ => some .int
  | float _ => some .float
  | string _ => some .string
  | bytes _ => some .bytes

def nullName : String := "Null"

def typeName (v : Value) : String := v.dataType?.elim nullName DataType.name

def isNull : Value → Bool
  | null => true
  | _ => false

/-- SQL comparison. `NULL` compares with nothing, nor do values of different types, except that an
integer compares with a double as the double nearest to it. Strings go by code points. -/
def compare? : Value → Value → Option Ordering
  | bool a, bool b => some (compare a b)
  | int a, int b => some (compare a.toInt b.toInt)
  | float a, float b => a.compare? b
  | int a, float b => (Double.ofInt a.toInt).compare? b
  | float a, int b => a.compare? (Double.ofInt b.toInt)
  | string a, string b => some (compare a b)
  | bytes a, bytes b => some (compare a b)
  | _, _ => none

/-- Equality as constants: doubles by number, so that both zeros are one and `NaN` is not itself,
and never across types. -/
def same : Value → Value → Bool
  | float a, float b => a.numEq b
  | a, b => a == b

/-! ## Text -/

def hexByte (b : UInt8) : List Char :=
  let ds := Text.hexDigits b.toNat
  List.replicate (2 - ds.length) '0' ++ ds

def display : Value → String
  | null => "NULL"
  | bool b => if b then "true" else "false"
  | int n => n.toInt.repr
  | float d => Layout.plain.render d
  | string s => s
  | bytes bs => String.ofList ('0' :: 'x' :: bs.flatMap hexByte)

def bracketed (items : List String) : String := "[" ++ ", ".intercalate items ++ "]"

def debug : Value → String
  | null => "Null"
  | bool b => "Bool(" ++ (if b then "true" else "false") ++ ")"
  | int n => "Int(" ++ n.toInt.repr ++ ")"
  | float d => "Float(" ++ Layout.diagnostic.render d ++ ")"
  | string s => "String(" ++ Text.quoted s ++ ")"
  | bytes bs => "Bytes(" ++ bracketed (bs.map fun b => b.toNat.repr) ++ ")"

end Value

def Row.debug (row : Row) : String := Value.bracketed (row.map Value.debug)

end QueryFlow
