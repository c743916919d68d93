import QueryFlow.Document
import QueryFlow.Json.Parser

/-!
# Reading plan documents

A structure is an object of named members, or the list of its members in declared order. Unknown
members are ignored, and a known one may not be repeated.

Tables are read as they come, so an ignored member of one need only be well formed. The plan is
collected before it is read: all of it has to have a value and to stay within the nesting limit.
-/

namespace QueryFlow

namespace Json

/-- The value of the only member of a name, if there is one. Two are an error. -/
def member? (name : String) (members : List (Option String × Json)) : Option (Option Json) :=
  match members.filter fun m => m.1 == some name with
  | [] => some none
  | [m] => some (some m.2)
  | _ => none

def fields? (names : List String) : Json → Option (List (Option Json))
  | object members =>
    if members.all fun m => m.1.isSome then names.mapM fun name => member? name members else none
  | array items =>
    if items.length ≤ names.length then
      some (items.map some ++ List.replicate (names.length - items.length) none)
    else none
  | _ => none

def bool? : Json → Option Bool
  | bool b => some b
  | _ => none

def text? : Json → Option String
  | text s => s
  | _ => none

def int? : Json → Option Int
  | number (some (.int n)) => some n
  | _ => none

def double? : Json → Option Double
  | number (some (.float d)) => some d
  | number (some (.int n)) => some (Double.ofInt n)
  | _ => none

def list? {α : Type} (f : Json → Option α) : Json → Option (List α)
  | array items => items.mapM f
  | _ => none

end Json

/-- Whether a part of a document is read as it comes or was collected first. -/
inductive Reading
  | direct
  | collected
  deriving DecidableEq

/-- A name on its own, or as the key of an object whose only member is `null`. In collected parts an
empty object does as well as `null`. -/
def Reading.name? (r : Reading) : Json → Option String
  | .text s => s
  | .object [(key, .null)] => key
  | .object [(key, .object [])] => if r = .collected then key else none
  | _ => none

def DataType.ofJson? (r : Reading) (j : Json) : Option DataType := do
  let name ← r.name? j
  DataType.all.find? fun t => t.name == name

def Convention.ofJson? (r : Reading) (j : Json) : Option Convention := do
  let name ← r.name? j
  Convention.all.find? fun c => c.name == name

def Comparison.ofJson? (r : Reading) (j : Json) : Option Comparison := do
  let name ← r.name? j
  Comparison.all.find? fun op => op.name == name

namespace Value

def byte? (j : Json) : Option UInt8 := do
  let n ← j.int?
  if 0 ≤ n ∧ n < 256 then return UInt8.ofNat n.toNat else none

def int64? (j : Json) : Option Int64 := do
  let n ← j.int?
  if Int64.minValue.toInt ≤ n ∧ n ≤ Int64.maxValue.toInt then return Int64.ofInt n else none

def typeOfName? (name : String) : Option (Option DataType) :=
  if name = nullName then some none
  else (DataType.all.find? fun t => t.name == name).map some

/-- The type that the head of a list names. In collected parts its number does as well as its name,
`NULL` having the number 0. -/
def typeOfHead? (r : Reading) : Json → Option (Option DataType)
  | .text (some name) => typeOfName? name
  | .number (some (.int n)) =>
    if r = .collected ∧ 0 ≤ n then (none :: DataType.all.map some)[n.toNat]? else none
  | _ => none

/-- The constant of a type. Only `NULL` may do without. -/
def ofParts? (type : Option DataType) (constant : Option Json) : Option Value :=
  match type, constant with
  | none, none | none, some .null => some .null
  | some .bool, some j => bool <$> j.bool?
  | some .int, some j => int <$> int64? j
  | some .float, some j => float <$> j.double?
  | some .string, some j => string <$> j.text?
  | some .bytes, some j => bytes <$> j.list? byte?
  | _, _ => none

def ofJson? (r : Reading) (j : Json) : Option Value :=
  match j with
  | .array [type, constant] => do ofParts? (← typeOfHead? r type) (some constant)
  | .object _ => do
    match ← j.fields? ["t", "v"] with
    | [some type, constant] => ofParts? (← r.name? type >>= typeOfName?) constant
    | _ => none
  | _ => none

end Value

def Column.ofJson? (r : Reading) (j : Json) : Option Column := do
  match ← j.fields? ["name", "data_type", "nullable"] with
  | [some name, some dataType, nullable] =>
    return ⟨← name.text?, ← DataType.ofJson? r dataType, ← nullable.elim (some true) Json.bool?⟩
  | _ => none

def Column.listOfJson? (r : Reading) : Json → Option (List Column) := Json.list? (ofJson? r)

def Row.listOfJson? (r : Reading) : Json → Option (List Row) :=
  Json.list? (Json.list? (Value.ofJson? r))

def TableSpec.ofJson? (j : Json) : Option TableSpec := do
  match ← j.fields? ["columns", "rows"] with
  | [some columns, rows] =>
    return ⟨← Column.listOfJson? .direct columns,
      ← rows.elim (some []) (Row.listOfJson? .direct)⟩
  | _ => none

def nestingLimit : Nat := 127

def Expr.ofJson? : Nat → Json → Option Expr
  | levels + 1, .object [(some key, body)] =>
    match key with
    | "column" => do
      let n ← body.int?
      if 0 ≤ n ∧ n.toNat < UInt64.size then return .column n.toNat else none
    | "literal" => literal <$> Value.ofJson? .collected body
    | "cmp" => do
      match ← body.fields? ["op", "left", "right"] with
      | [some op, some left, some right] =>
        return .compare (← Comparison.ofJson? .collected op) (← ofJson? levels left)
          (← ofJson? levels right)
      | _ => none
    | "and" => and <$> body.list? (ofJson? levels)
    | "or" => or <$> body.list? (ofJson? levels)
    | "not" => not <$> ofJson? levels body
    | "is_null" => isNull <$> ofJson? levels body
    | _ => none
  | _, _ => none

def Field.ofJson? (j : Json) : Option Field := do
  match ← j.fields? ["expr", "alias"] with
  | [some expr, some name] => return ⟨← Expr.ofJson? nestingLimit expr, ← name.text?⟩
  | _ => none

namespace Node

/-- The kind that a node names. In collected parts its number does as well as its name. -/
def Kind.ofJson? (r : Reading) : Json → Option Kind
  | .text (some s) => Kind.all.find? fun k => k.name == s
  | .number (some (.int n)) => if r = .collected ∧ 0 ≤ n then Kind.all[n.toNat]? else none
  | _ => none

def tagged? : Json → Option (Json × Json)
  | .object members => do
    match ← Json.member? "op" members with
    | some op => return (op, .object (members.filter fun m => m.1 != some "op"))
    | none => none
  | .array (op :: items) => some (op, .array items)
  | _ => none

def condition? : Option Json → Option (Option Expr)
  | none | some .null => some none
  | some j => some <$> Expr.ofJson? nestingLimit j

/-- A node of at most `levels` levels. `r` says how the member that names its kind is read; the rest
has been collected. -/
def ofJson? (r : Reading) : Nat → Json → Option Node
  | 0, _ => none
  | levels + 1, j => do
    let (op, body) ← tagged? j
    match ← Kind.ofJson? r op with
    | .values =>
      match ← body.fields? ["columns", "rows", "convention"] with
      | [some columns, rows, convention] =>
        return .values (← Column.listOfJson? .collected columns)
          (← rows.elim (some []) (Row.listOfJson? .collected))
          (← convention.elim (some .physical) (Convention.ofJson? .collected))
      | _ => none
    | .union =>
      match ← body.fields? ["columns", "all", "inputs"] with
      | [some columns, all, some inputs] =>
        return .union (← Column.listOfJson? .collected columns)
          (← all.elim (some true) Json.bool?) (← inputs.list? (ofJson? .collected levels))
      | _ => none
    | .scan =>
      match ← body.fields? ["table"] with
      | [some table] => return .scan (← table.text?)
      | _ => none
    | .file =>
      match ← body.fields? ["path", "columns"] with
      | [some path, some columns] =>
        return .file (← path.text?) (← Column.listOfJson? .collected columns)
      | _ => none
    | .filter =>
      match ← body.fields? ["predicate", "input"] with
      | [some predicate, some input] =>
        return .filter (← Expr.ofJson? nestingLimit predicate)
          (← ofJson? .collected levels input)
      | _ => none
    | .project =>
      match ← body.fields? ["fields", "input"] with
      | [some fields, some input] =>
        return .project (← fields.list? Field.ofJson?) (← ofJson? .collected levels input)
      | _ => none
    | .join =>
      match ← body.fields? ["condition", "left", "right"] with
      | [condition, some left, some right] =>
        return .join (← condition? condition) (← ofJson? .collected levels left)
          (← ofJson? .collected levels right)
      | _ => none

end Node

namespace Document

/-- The tables of a document. The last of one name counts. -/
def tablesOfJson? : Json → Option (List (String × TableSpec))
  | .object members =>
    members.foldlM (fun tables (key, j) => do
      return putTable (← key) (← TableSpec.ofJson? j) tables) []
  | _ => none

/-- The plan, which stands one level below the document. -/
def planOfJson? (j : Json) : Option Node :=
  if j.sound ∧ j.depth < nestingLimit then Node.ofJson? .direct nestingLimit j else none

def ofJson? (j : Json) : Option Document := do
  match ← j.fields? ["tables", "plan"] with
  | [tables, some plan] => return ⟨← tables.elim (some []) tablesOfJson?, ← planOfJson? plan⟩
  | _ => none

def parse (text : String) : Except Error Document :=
  match Json.parse? text >>= ofJson? with
  | some d => .ok d
  | none => .error (.planDocument "not a plan document")

end Document

end QueryFlow
