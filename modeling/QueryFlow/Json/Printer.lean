import QueryFlow.Json
import QueryFlow.Numeric.Layout
import QueryFlow.Text.Quoted

namespace QueryFlow.Json

def quoteChar (c : Char) : List Char :=
  match c with
  | '"' => ['\\', '"']
  | '\\' => ['\\', '\\']
  | '\x08' => ['\\', 'b']
  | '\x0c' => ['\\', 'f']
  | '\n' => ['\\', 'n']
  | '\r' => ['\\', 'r']
  | '\t' => ['\\', 't']
  | _ =>
    if c.toNat < 0x20 then
      let ds := Text.hexDigits c.toNat
      '\\' :: 'u' :: List.replicate (4 - ds.length) '0' ++ ds
    else [c]

def quote (s : String) : List Char := '"' :: s.toList.flatMap quoteChar ++ ['"']

def numberChars : Number → List Char
  | .int n => n.repr.toList
  | .float d => (Layout.document.render d).toList

/-- A scalar on its own. A literal without a value is written as `null`, a container as nothing. -/
def scalarChars : Json → List Char
  | bool b => (if b then "true" else "false").toList
  | number (some n) => numberChars n
  | text (some s) => quote s
  | null | number none | text none => "null".toList
  | array _ | object _ => []

def keyChars (key : Option String) : List Char := quote (key.getD "")

mutual

def chars : Json → List Char
  | array items => '[' :: itemChars items ++ [']']
  | object members => '\x7b' :: memberChars members ++ ['\x7d']
  | j => scalarChars j

def itemChars : List Json → List Char
  | [] => []
  | [j] => chars j
  | j :: js => chars j ++ ',' :: itemChars js

def memberChars : List (Option String × Json) → List Char
  | [] => []
  | [(key, j)] => keyChars key ++ ':' :: chars j
  | (key, j) :: ms => keyChars key ++ ':' :: chars j ++ ',' :: memberChars ms

end

def newline (depth : Nat) : List Char := '\n' :: List.replicate (2 * depth) ' '

mutual

def prettyChars (depth : Nat) : Json → List Char
  | array [] => ['[', ']']
  | object [] => ['\x7b', '\x7d']
  | array items => '[' :: prettyItems (depth + 1) items ++ newline depth ++ [']']
  | object members => '\x7b' :: prettyMembers (depth + 1) members ++ newline depth ++ ['\x7d']
  | j => scalarChars j

def prettyItems (depth : Nat) : List Json → List Char
  | [] => []
  | [j] => newline depth ++ prettyChars depth j
  | j :: js => newline depth ++ prettyChars depth j ++ ',' :: prettyItems depth js

def prettyMembers (depth : Nat) : List (Option String × Json) → List Char
  | [] => []
  | [(key, j)] => newline depth ++ keyChars key ++ ':' :: ' ' :: prettyChars depth j
  | (key, j) :: ms =>
    newline depth ++ keyChars key ++ ':' :: ' ' :: prettyChars depth j ++
      ',' :: prettyMembers depth ms

end

def compact (j : Json) : String := String.ofList j.chars

def pretty (j : Json) : String := String.ofList (j.prettyChars 0)

end QueryFlow.Json
