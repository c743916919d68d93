import QueryFlow.Schema

namespace QueryFlow

abbrev Item := Except Error Row

structure Table where
  name : String
  schema : Schema
  /-- What a pass over the table gives. Every pass gives the same items, or fails to start in the
  same way. -/
  contents : Except Error (List Item)

namespace Table

def ofRows (name : String) (schema : Schema) (rows : List Row) : Except Error Table := do
  schema.checkRows "MemoryTable rows" rows
  return ⟨name, schema, .ok (rows.map .ok)⟩

/-- A columnar file. There is no reader for it, so it never opens. -/
def ofFile (path : String) (schema : Schema) : Table :=
  ⟨"file:" ++ path, schema, .error (.unsupported "parquet file scan")⟩

end Table

structure Registry where
  tables : List Table

namespace Registry

def empty : Registry := ⟨[]⟩

def register (r : Registry) (t : Table) : Registry :=
  ⟨t :: r.tables.filter fun u => u.name != t.name⟩

def resolve (r : Registry) (name : String) : Except Error Table :=
  match r.tables.find? fun t => t.name == name with
  | some t => .ok t
  | none => .error (.unknownTable name)

def size (r : Registry) : Nat := r.tables.length

end Registry

end QueryFlow
