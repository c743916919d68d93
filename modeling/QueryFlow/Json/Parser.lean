import QueryFlow.Json.Token

/-!
# JSON parser

Trees from tokens, in one pass that holds the containers which are still open. Nesting has no limit.
-/

namespace QueryFlow.Json

/-- A container part way through, with what it holds so far in reverse. -/
inductive Frame
  | array (items : List Json)
  | object (members : List (Option String × Json))
  /-- An object whose next value belongs to `key`. -/
  | member (members : List (Option String × Json)) (key : Option String)

inductive Expect
  | value
  | firstItem
  | firstKey
  | key
  | colon (key : Option String)
  | more
  | nothing (whole : Json)

structure Parser where
  frames : List Frame
  expect : Expect

namespace Parser

def deliver (j : Json) : List Frame → Option Parser
  | [] => some ⟨[], .nothing j⟩
  | .array items :: up => some ⟨.array (j :: items) :: up, .more⟩
  | .member members key :: up => some ⟨.object ((key, j) :: members) :: up, .more⟩
  | .object _ :: _ => none

def value (frames : List Frame) : Token → Option Parser
  | .openArray => some ⟨.array [] :: frames, .firstItem⟩
  | .openObject => some ⟨.object [] :: frames, .firstKey⟩
  | .null => deliver .null frames
  | .bool b => deliver (.bool b) frames
  | .number n => deliver (.number n) frames
  | .text s => deliver (.text s) frames
  | _ => none

def step (p : Parser) (t : Token) : Option Parser :=
  match p.expect, t, p.frames with
  | .firstItem, .closeArray, .array items :: up => deliver (.array items.reverse) up
  | .firstItem, t, frames => value frames t
  | .value, t, frames => value frames t
  | .firstKey, .closeObject, .object members :: up => deliver (.object members.reverse) up
  | .firstKey, .text key, frames => some ⟨frames, .colon key⟩
  | .key, .text key, frames => some ⟨frames, .colon key⟩
  | .colon key, .colon, .object members :: up => some ⟨.member members key :: up, .value⟩
  | .more, .comma, .array items :: up => some ⟨.array items :: up, .value⟩
  | .more, .comma, .object members :: up => some ⟨.object members :: up, .key⟩
  | .more, .closeArray, .array items :: up => deliver (.array items.reverse) up
  | .more, .closeObject, .object members :: up => deliver (.object members.reverse) up
  | _, _, _ => none

end Parser

def ofTokens? (tokens : List Token) : Option Json := do
  let p ← tokens.foldlM Parser.step ⟨[], .value⟩
  match p.expect with
  | .nothing j => return j
  | _ => none

def parse? (text : String) : Option Json := Token.scan text.toList >>= ofTokens?

end QueryFlow.Json
