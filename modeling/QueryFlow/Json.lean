import QueryFlow.Numeric.Literal

/-!
# JSON trees

A document as it is written: members keep their order and may repeat a key. A literal can be well
formed and yet have no value, which matters only to a reader that looks at it.
-/

namespace QueryFlow

inductive Json
  | null
  | bool (b : Bool)
  /-- No number is too large for a double. -/
  | number (n : Option Number)
  /-- No text has half a surrogate pair. -/
  | text (s : Option String)
  | array (items : List Json)
  | object (members : List (Option String × Json))

namespace Json

mutual

/-- Whether every literal has a value, keys included. -/
def sound : Json → Bool
  | null | bool _ => true
  | number n => n.isSome
  | text s => s.isSome
  | array items => soundItems items
  | object members => soundMembers members

def soundItems : List Json → Bool
  | [] => true
  | j :: js => j.sound && soundItems js

def soundMembers : List (Option String × Json) → Bool
  | [] => true
  | (key, j) :: ms => key.isSome && j.sound && soundMembers ms

end

mutual

def depth : Json → Nat
  | null | bool _ | number _ | text _ => 0
  | array items => depthItems items + 1
  | object members => depthMembers members + 1

def depthItems : List Json → Nat
  | [] => 0
  | j :: js => max j.depth (depthItems js)

def depthMembers : List (Option String × Json) → Nat
  | [] => 0
  | (_, j) :: ms => max j.depth (depthMembers ms)

end

def ofInt (n : Int) : Json := number (some (.int n))

def ofString (s : String) : Json := text (some s)

def ofMembers (members : List (String × Json)) : Json :=
  object (members.map fun (key, j) => (some key, j))

end Json

end QueryFlow
