import QueryFlow.Error

namespace QueryFlow

structure Column where
  /-- Shown, never compared. -/
  name : String
  dataType : DataType
  nullable : Bool
  deriving DecidableEq

structure Schema where
  columns : List Column
  deriving DecidableEq

namespace Column

def accepts (consumer produced : Column) : Bool :=
  consumer.dataType == produced.dataType && (consumer.nullable || !produced.nullable)

def admits (c : Column) (v : Value) : Bool :=
  match v.dataType? with
  | none => c.nullable
  | some t => t == c.dataType

def display (c : Column) : String :=
  c.name ++ " " ++ c.dataType.sqlName ++ if c.nullable then "" else " NOT NULL"

def debug (c : Column) : String :=
  "Column \x7b name: " ++ Text.quoted c.name ++ ", data_type: " ++ c.dataType.name ++
    ", nullable: " ++ (if c.nullable then "true" else "false") ++ " \x7d"

end Column

namespace Schema

def arity (s : Schema) : Nat := s.columns.length

def column? (s : Schema) (index : Nat) : Option Column := s.columns[index]?

def names (s : Schema) : List String := s.columns.map Column.name

def concat (s t : Schema) : Schema := ⟨s.columns ++ t.columns⟩

def accepts (consumer producer : Schema) : Bool :=
  consumer.arity == producer.arity &&
    (consumer.columns.zip producer.columns).all fun (c, p) => c.accepts p

def admits (s : Schema) (row : Row) : Bool :=
  row.length == s.arity && (s.columns.zip row).all fun (c, v) => c.admits v

def display (s : Schema) : String := "(" ++ ", ".intercalate (s.columns.map Column.display) ++ ")"

def debug (s : Schema) : String :=
  "RowSchema \x7b columns: " ++ Value.bracketed (s.columns.map Column.debug) ++ " \x7d"

def checkRowsFrom (s : Schema) (context : String) (index : Nat) : List Row → Except Error Unit
  | [] => .ok ()
  | row :: rows =>
    if s.admits row then s.checkRowsFrom context (index + 1) rows
    else .error (.schemaMismatch context s.display ("row " ++ index.repr ++ " " ++ Row.debug row))

def checkRows (s : Schema) (context : String) (rows : List Row) : Except Error Unit :=
  s.checkRowsFrom context 0 rows

def checkAccepts (context : String) (consumer producer : Schema) : Except Error Unit :=
  if consumer.accepts producer then .ok ()
  else .error (.schemaMismatch context consumer.display producer.display)

end Schema

end QueryFlow
