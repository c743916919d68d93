import QueryFlow.Json
import QueryFlow.Text.Digits

/-!
# JSON tokens

The tokens of a text, found in one pass over its characters. White space is a space, a tab or a line
end, and control characters may not stand in texts.
-/

namespace QueryFlow.Json

inductive Token
  | openArray
  | closeArray
  | openObject
  | closeObject
  | comma
  | colon
  | null
  | bool (b : Bool)
  | number (n : Option Number)
  | text (s : Option String)

/-- One character of a text: itself, or a UTF-16 unit given by its number. -/
inductive Piece
  | char (c : Char)
  | unit (n : Nat)

def highSurrogate (n : Nat) : Bool := 0xd800 ≤ n && n < 0xdc00

def lowSurrogate (n : Nat) : Bool := 0xdc00 ≤ n && n < 0xe000

def Piece.chars? : List Piece → Option (List Char)
  | [] => some []
  | char c :: ps => (chars? ps).map (c :: ·)
  | unit h :: unit l :: ps =>
    if highSurrogate h then
      if lowSurrogate l then
        (chars? ps).map (Char.ofNat (0x10000 + (h - 0xd800) * 0x400 + (l - 0xdc00)) :: ·)
      else none
    else if lowSurrogate h then none
    else (chars? (unit l :: ps)).map (Char.ofNat h :: ·)
  | unit n :: ps =>
    if highSurrogate n || lowSurrogate n then none else (chars? ps).map (Char.ofNat n :: ·)

/-! ## Numbers -/

def digits? (cs : List Char) : Option (List Char × List Char) :=
  match cs.span Char.isDigit with
  | ([], _) => none
  | r => some r

def whole? (cs : List Char) : Option (List Char × List Char) :=
  match digits? cs with
  | some ('0' :: _ :: _, _) => none
  | r => r

def fraction? : List Char → Option (Option (List Char) × List Char)
  | '.' :: cs => (digits? cs).map fun (ds, rest) => (some ds, rest)
  | cs => some (none, cs)

def exponent? : List Char → Option (Option (Bool × List Char))
  | [] => some none
  | c :: cs =>
    if c = 'e' ∨ c = 'E' then
      let (negative, cs) :=
        match cs with
        | '-' :: cs => (true, cs)
        | '+' :: cs => (false, cs)
        | _ => (false, cs)
      match digits? cs with
      | some (ds, []) => some (some (negative, ds))
      | _ => none
    else none

def literal? (cs : List Char) : Option Literal := do
  let (negative, cs) :=
    match cs with
    | '-' :: cs => (true, cs)
    | _ => (false, cs)
  let (whole, cs) ← whole? cs
  let (fraction, cs) ← fraction? cs
  let exponent ← exponent? cs
  return ⟨negative, whole, fraction, exponent⟩

/-! ## The scanner -/

inductive Scanner.Mode
  | gap
  | word (read : List Char)
  | number (read : List Char)
  | text (read : List Piece)
  | escape (read : List Piece)
  | unit (read : List Piece) (left value : Nat)

/-- The state of the scanner: its mode, and the tokens before that in reverse. -/
structure Scanner where
  mode : Scanner.Mode
  tokens : List Token

namespace Scanner

def isSpace (c : Char) : Bool := c = ' ' || c = '\t' || c = '\n' || c = '\r'

def isNumberChar (c : Char) : Bool :=
  c.isDigit || c = '-' || c = '+' || c = '.' || c = 'e' || c = 'E'

def word? : List Char → Option Token
  | ['n', 'u', 'l', 'l'] => some .null
  | ['t', 'r', 'u', 'e'] => some (.bool true)
  | ['f', 'a', 'l', 's', 'e'] => some (.bool false)
  | _ => none

def start (tokens : List Token) (c : Char) : Option Scanner :=
  if isSpace c then some ⟨.gap, tokens⟩
  else if c = '[' then some ⟨.gap, .openArray :: tokens⟩
  else if c = ']' then some ⟨.gap, .closeArray :: tokens⟩
  else if c = '\x7b' then some ⟨.gap, .openObject :: tokens⟩
  else if c = '\x7d' then some ⟨.gap, .closeObject :: tokens⟩
  else if c = ',' then some ⟨.gap, .comma :: tokens⟩
  else if c = ':' then some ⟨.gap, .colon :: tokens⟩
  else if c = '"' then some ⟨.text [], tokens⟩
  else if c = '-' || c.isDigit then some ⟨.number [c], tokens⟩
  else if c.isLower then some ⟨.word [c], tokens⟩
  else none

def escaped? : Char → Option Char
  | '"' => some '"'
  | '\\' => some '\\'
  | '/' => some '/'
  | 'b' => some '\x08'
  | 'f' => some '\x0c'
  | 'n' => some '\n'
  | 'r' => some '\r'
  | 't' => some '\t'
  | _ => none

/-- The token that a word or a number comes to when it ends, added to those before it. -/
def close? (s : Scanner) : Option (List Token) :=
  match s.mode with
  | .gap => some s.tokens
  | .word read => (word? read.reverse).map (· :: s.tokens)
  | .number read => (literal? read.reverse).map (.number ·.number? :: s.tokens)
  | .text _ | .escape _ | .unit .. => none

def step (s : Scanner) (c : Char) : Option Scanner :=
  match s.mode with
  | .gap => start s.tokens c
  | .word read =>
    if c.isLower then some ⟨.word (c :: read), s.tokens⟩ else s.close? >>= (start · c)
  | .number read =>
    if isNumberChar c then some ⟨.number (c :: read), s.tokens⟩ else s.close? >>= (start · c)
  | .text read =>
    if c = '"' then
      some ⟨.gap, .text ((Piece.chars? read.reverse).map String.ofList) :: s.tokens⟩
    else if c = '\\' then some ⟨.escape read, s.tokens⟩
    else if c.toNat < 0x20 then none
    else some ⟨.text (.char c :: read), s.tokens⟩
  | .escape read =>
    if c = 'u' then some ⟨.unit read 4 0, s.tokens⟩
    else (escaped? c).map fun d => ⟨.text (.char d :: read), s.tokens⟩
  | .unit read left value =>
    (Text.hexValue? c).map fun d =>
      let value := value * 16 + d
      if left ≤ 1 then ⟨.text (.unit value :: read), s.tokens⟩
      else ⟨.unit read (left - 1) value, s.tokens⟩

end Scanner

def Token.scan (cs : List Char) : Option (List Token) := do
  let s ← cs.foldlM Scanner.step ⟨.gap, []⟩
  let tokens ← s.close?
  return tokens.reverse

end QueryFlow.Json
