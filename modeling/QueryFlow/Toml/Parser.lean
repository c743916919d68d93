import QueryFlow.Toml.Quoted
import QueryFlow.Toml.Scalar

/-!
# TOML parser

Lines from characters, and from them the tree. A loop over items or lines has a bound that the
length of the text always suffices for; how deep containers nest and how many parts a key has is
limited.
-/

namespace QueryFlow.Toml

/-- The number of containers that may stand inside each other, and of parts of a key. -/
def nestingLimit : Nat := 79

def skipBlanks (cs : List Char) : List Char := cs.dropWhile isBlank

def skipGap (inComment : Bool) : List Char → Option (List Char)
  | [] => if inComment then none else some []
  | c :: cs =>
    if c = '\n' then skipGap false cs
    else if inComment then if isPlain c then skipGap true cs else none
    else if isBlank c then skipGap false cs
    else if c = '#' then skipGap true cs
    else some (c :: cs)

def endLine? (cs : List Char) : Option (List Char) :=
  let rest :=
    match skipBlanks cs with
    | '#' :: cs => cs.dropWhile isPlain
    | cs => cs
  match rest with
  | [] => some []
  | '\n' :: rest => some rest
  | _ => none

/-! ## Keys -/

def isBareKeyChar (c : Char) : Bool := c.isAlphanum || c = '-' || c = '_'

def name? (cs : List Char) : Option (String × List Char) :=
  match cs with
  | '"' :: cs => (oneLine? .double cs).map fun (name, rest) => (String.ofList name, rest)
  | '\'' :: cs => (oneLine? .single cs).map fun (name, rest) => (String.ofList name, rest)
  | _ =>
    match cs.span isBareKeyChar with
    | ([], _) => none
    | (name, rest) => some (String.ofList name, rest)

def key? : (parts : Nat) → List Char → Option (Key × List Char)
  | 0, _ => none
  | parts + 1, cs => do
    let (name, rest) ← name? (skipBlanks cs)
    match skipBlanks rest with
    | '.' :: rest =>
      let (key, rest) ← key? parts rest
      return (⟨name :: key.parents, key.name⟩, rest)
    | rest => return (⟨[], name⟩, rest)

/-! ## Values -/

def simple? (cs : List Char) : Option (Toml × List Char) :=
  match cs with
  | '"' :: _ | '\'' :: _ => (quoted? cs).map fun (s, rest) => (text (String.ofList s), rest)
  | _ =>
    let (word, rest) := splitWord cs
    (ofWord? word).map (·, rest)

def items? (value : List Char → Option (Toml × List Char)) :
    (room : Nat) → List Char → Option (List Toml × List Char)
  | 0, _ => none
  | room + 1, cs => do
    match ← skipGap false cs with
    | ']' :: rest => return ([], rest)
    | cs =>
      let (t, rest) ← value cs
      match ← skipGap false rest with
      | ']' :: rest => return ([t], rest)
      | ',' :: rest =>
        let (ts, rest) ← items? value room rest
        return (t :: ts, rest)
      | _ => none

def entry? (value : List Char → Option (Toml × List Char)) (cs : List Char) :
    Option ((Key × Toml) × List Char) := do
  match ← key? nestingLimit cs with
  | (key, '=' :: rest) =>
    let (t, rest) ← value (skipBlanks rest)
    return ((key, t), rest)
  | _ => none

def entries? (value : List Char → Option (Toml × List Char)) :
    (room : Nat) → List Char → Option (List (Key × Toml) × List Char)
  | 0, _ => none
  | room + 1, cs => do
    let (e, rest) ← entry? value cs
    match skipBlanks rest with
    | '\x7d' :: rest => return ([e], rest)
    | ',' :: rest =>
      let (es, rest) ← entries? value room rest
      return (e :: es, rest)
    | _ => none

def value? : (levels : Nat) → List Char → Option (Toml × List Char)
  | levels + 1, '[' :: cs =>
    (items? (value? levels) (cs.length + 1) cs).map fun (ts, rest) => (array ts, rest)
  | levels + 1, '\x7b' :: cs =>
    match skipBlanks cs with
    | '\x7d' :: rest => some (table .inline [], rest)
    | cs => do
      let (entries, rest) ← entries? (value? levels) (cs.length + 1) cs
      return (← ofEntries? entries, rest)
  | _, cs => simple? cs

/-! ## Lines -/

def line? (cs : List Char) : Option (Line × List Char) :=
  match cs with
  | '[' :: '[' :: cs => do
    match ← key? nestingLimit cs with
    | (key, ']' :: ']' :: rest) => return (.repeatedHeader key, rest)
    | _ => none
  | '[' :: cs => do
    match ← key? nestingLimit cs with
    | (key, ']' :: rest) => return (.header key, rest)
    | _ => none
  | cs => do
    let ((key, t), rest) ← entry? (value? nestingLimit) cs
    return (.entry key t, rest)

def lines? : (room : Nat) → List Char → Option (List Line)
  | _, [] => some []
  | 0, _ => none
  | room + 1, cs =>
    match endLine? cs with
    | some rest => lines? room rest
    | none => do
      let (line, rest) ← line? (skipBlanks cs)
      return line :: (← lines? room (← endLine? rest))

def lineFeeds : List Char → List Char
  | '\r' :: '\n' :: cs => '\n' :: lineFeeds cs
  | c :: cs => c :: lineFeeds cs
  | [] => []

def parse? (text : String) : Option Toml :=
  let cs :=
    match text.toList with
    | '\ufeff' :: cs => lineFeeds cs
    | cs => lineFeeds cs
  lines? cs.length cs >>= ofLines?

end QueryFlow.Toml
