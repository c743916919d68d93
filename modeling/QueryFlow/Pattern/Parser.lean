import QueryFlow.Pattern
import QueryFlow.Text.Blank
import QueryFlow.Text.Digits
import QueryFlow.Text.Numeral

/-!
# Pattern parser

Patterns from characters, in one pass that holds the groups which are still open. The braces around
a pattern end at the first closing one, so none stands in it, and neither counted repetitions nor
anything else that needs one can be written.
-/

namespace QueryFlow.Pattern

def skipComments : (inComment : Bool) → List Char → List Char
  | _, [] => []
  | true, c :: cs => skipComments (c != '\n') cs
  | false, c :: cs =>
    if Text.isBlank c then skipComments false cs
    else if c = '#' then skipComments true cs
    else c :: cs

def skip (verbose : Bool) (cs : List Char) : List Char :=
  if verbose then skipComments false cs else cs

/-! ## Escapes -/

def hexNumber? (verbose : Bool) : (count value : Nat) → List Char → Option (Nat × List Char)
  | 0, value, cs => some (value, cs)
  | count + 1, value, cs =>
    match skip verbose cs with
    | [] => none
    | c :: cs => do
      let d ← Text.hexValue? c
      hexNumber? verbose count (value * 16 + d) cs

def numbered? (verbose : Bool) (count : Nat) (isByte : Bool) (cs : List Char) :
    Option (Pattern × List Char) := do
  let (n, rest) ← hexNumber? verbose count 0 cs
  if n.isValidChar then return (.symbol ⟨Char.ofNat n, isByte⟩, rest) else none

def plain (c : Char) : Pattern := .symbol ⟨c, false⟩

/-- What a character after a backslash means. Any mark of ASCII stands for itself; letters and
digits without a meaning are refused. -/
def escape? (verbose : Bool) : List Char → Option (Pattern × List Char)
  | [] => none
  | c :: cs =>
    match c with
    | 'x' => numbered? verbose 2 true cs
    | 'u' => numbered? verbose 4 false cs
    | 'U' => numbered? verbose 8 false cs
    | 'd' | 's' | 'w' => some (.short false, cs)
    | 'D' | 'S' | 'W' => some (.short true, cs)
    | 'a' => some (plain '\x07', cs)
    | 'f' => some (plain '\x0c', cs)
    | 't' => some (plain '\t', cs)
    | 'n' => some (plain '\n', cs)
    | 'r' => some (plain '\r', cs)
    | 'v' => some (plain '\x0b', cs)
    | 'A' | 'z' => some (.anchor, cs)
    | 'b' | 'B' | '<' | '>' => some (.wordEdge, cs)
    | _ => if c.toNat < 0x80 && !c.isAlphanum then some (plain c, cs) else none

/-! ## Classes -/

def classNames : List String :=
  ["alnum", "alpha", "ascii", "blank", "cntrl", "digit", "graph", "lower", "print", "punct",
   "space", "upper", "word", "xdigit"]

def named? : List Char → Option (Bool × List Char)
  | ':' :: cs =>
    let (negated, cs) :=
      match cs with
      | '^' :: cs => (true, cs)
      | cs => (false, cs)
    let (name, rest) := cs.span (· != ':')
    match rest with
    | ':' :: ']' :: rest =>
      if classNames.contains (String.ofList name) then some (negated, rest) else none
    | _ => none
  | _ => none

def classAtom? (verbose : Bool) : List Char → Option (ClassSet × List Char)
  | [] => none
  | '\\' :: cs =>
    match escape? verbose cs with
    | some (.symbol s, rest) => some (.symbol s, rest)
    | some (.short negated, rest) => some (.short negated, rest)
    | _ => none
  | c :: cs => some (.symbol ⟨c, false⟩, cs)

/-- The character after a dash that decides whether the dash makes a range. A comment is passed over
only up to its first word. -/
def afterDash? (verbose : Bool) (cs : List Char) : Option Char :=
  if verbose then
    match cs.dropWhile Text.isBlank with
    | '#' :: cs => (cs.dropWhile Text.isBlank).head?
    | cs => cs.head?
  else cs.head?

def classItem? (verbose : Bool) (cs : List Char) : Option (ClassSet × List Char) := do
  let (first, rest) ← classAtom? verbose cs
  match skip verbose rest with
  | '-' :: tail =>
    let next := afterDash? verbose tail
    if next = some ']' ∨ next = some '-' then return (first, '-' :: tail)
    match first, ← classAtom? verbose (skip verbose tail) with
    | .symbol a, (.symbol b, rest) =>
      if a.char.toNat ≤ b.char.toNat then return (.range a b, rest) else none
    | _, _ => none
  | rest => return (first, rest)

structure Bracket where
  negated : Bool
  left : Option ClassSet
  items : List ClassSet
  /-- Whether nothing but dashes has been read, which stand for themselves then. -/
  isFresh : Bool

namespace Bracket

def empty (negated : Bool) : Bracket := ⟨negated, none, [], true⟩

def push (b : Bracket) (set : ClassSet) : Bracket :=
  { b with items := set :: b.items, isFresh := false }

def pushDash (b : Bracket) : Bracket := { b with items := .symbol ⟨'-', false⟩ :: b.items }

def toSet (b : Bracket) : ClassSet :=
  let right := ClassSet.ofItems b.items.reverse
  match b.left with
  | none => right
  | some left => .combine left right

def combine (b : Bracket) : Bracket := ⟨b.negated, some b.toSet, [], false⟩

end Bracket

def openClass (verbose : Bool) (cs : List Char) : Bracket × List Char :=
  match skip verbose cs with
  | '^' :: cs => (.empty true, cs)
  | cs => (.empty false, cs)

/-- The rest of a class, which may have as many parts as there is `room`, inside the classes
`outer`. A bracket that would close a class at once stands for itself. -/
def classRest? (verbose : Bool) :
    (room : Nat) → Bracket → (outer : List Bracket) → List Char → Option (Pattern × List Char)
  | 0, _, _, _ => none
  | room + 1, b, outer, cs =>
    match skip verbose cs with
    | ']' :: rest =>
      if b.isFresh && b.items.isEmpty then
        classRest? verbose room (b.push (.symbol ⟨']', false⟩)) outer rest
      else
        match outer with
        | [] => some (.bracketed b.negated b.toSet, rest)
        | up :: outer =>
          classRest? verbose room (up.push (.nested b.negated b.toSet)) outer rest
    | '[' :: rest =>
      match named? rest with
      | some (negated, rest) => classRest? verbose room (b.push (.named negated)) outer rest
      | none =>
        let (inner, rest) := openClass verbose rest
        classRest? verbose room inner (b :: outer) rest
    | '&' :: '&' :: rest | '~' :: '~' :: rest => classRest? verbose room b.combine outer rest
    | '-' :: rest =>
      if b.isFresh then classRest? verbose room b.pushDash outer rest
      else
        match rest with
        | '-' :: rest => classRest? verbose room b.combine outer rest
        | _ =>
          match classItem? verbose ('-' :: rest) with
          | some (set, rest) => classRest? verbose room (b.push set) outer rest
          | none => none
    | rest =>
      match classItem? verbose rest with
      | some (set, rest) => classRest? verbose room (b.push set) outer rest
      | none => none

def class? (verbose : Bool) (cs : List Char) : Option (Pattern × List Char) :=
  let (b, rest) := openClass verbose cs
  classRest? verbose (cs.length + 1) b [] rest

/-! ## Groups -/

/-- Flags up to the colon that begins a group, or to the end of the parentheses: whether it was the
colon, and what follows it. One minus switches off all flags after it, of which there is one. -/
def flags? (read : Flags) (on dangling : Bool) : List Char → Option (Flags × Bool × List Char)
  | [] => none
  | c :: cs =>
    if c = ':' ∨ c = ')' then if dangling then none else some (read, c = ':', cs)
    else if c = '-' then if on then flags? read false true cs else none
    else
      match Flag.ofChar? c with
      | some f =>
        if read.any (·.1 = f) then none else flags? ((f, on) :: read) on false cs
      | none => none

def isGroupName : List Char → Bool
  | [] => false
  | c :: cs =>
    (c = '_' || Text.isLetter c) &&
      cs.all fun c => c = '_' || c = '.' || c = '[' || c = ']' || Text.isAlphanumeric c

def groupName? (cs : List Char) : Option (List Char × List Char) :=
  let (name, rest) := cs.span (· != '>')
  match rest with
  | _ :: rest => if isGroupName name then some (name, rest) else none
  | [] => none

/-- The branches of a group in reverse, of which the last one is a list of items in reverse. -/
structure Branches where
  finished : List Pattern
  items : List Pattern

def Branches.toPattern (b : Branches) : Pattern :=
  let last := ofItems b.items.reverse
  if b.finished.isEmpty then last else .choice (b.finished.reverse ++ [last])

structure Enclosing where
  before : Branches
  flags : Flags
  /-- Whether blanks mean nothing outside of the group. -/
  verbose : Bool

structure Parser where
  current : Branches
  outer : List Enclosing
  verbose : Bool
  names : List (List Char)

namespace Parser

def initial : Parser := ⟨⟨[], []⟩, [], false, []⟩

def push (p : Parser) (x : Pattern) : Parser :=
  { p with current := { p.current with items := x :: p.current.items } }

def branch (p : Parser) : Parser :=
  { p with current := ⟨ofItems p.current.items.reverse :: p.current.finished, []⟩ }

def repeatLast? (p : Parser) : Option Parser :=
  match p.current.items with
  | [] | .flags _ :: _ => none
  | x :: xs => some { p with current := { p.current with items := .repeated x :: xs } }

def setFlags (p : Parser) (fs : Flags) : Parser :=
  { p.push (.flags fs) with verbose := (fs.lookup .verbose).getD p.verbose }

def enter (p : Parser) (fs : Flags) : Parser :=
  { p with
    current := ⟨[], []⟩
    outer := ⟨p.current, fs, p.verbose⟩ :: p.outer
    verbose := (fs.lookup .verbose).getD p.verbose }

def leave? (p : Parser) : Option Parser :=
  match p.outer with
  | [] => none
  | g :: outer =>
    some { p with
      current := { g.before with items := .group g.flags p.current.toPattern :: g.before.items }
      outer := outer
      verbose := g.verbose }

def open? (p : Parser) (cs : List Char) : Option (Parser × List Char) :=
  match skip p.verbose cs with
  | '?' :: 'P' :: '<' :: cs | '?' :: '<' :: cs => do
    let (name, rest) ← groupName? cs
    if p.names.contains name then none
    else return ({ p.enter [] with names := name :: p.names }, rest)
  | '?' :: cs => do
    let (fs, isGroup, rest) ← flags? [] true false cs
    if isGroup then return (p.enter fs, rest)
    else if fs.isEmpty then none
    else return (p.setFlags fs, rest)
  | cs => some (p.enter [], cs)

def dropLazy : List Char → List Char
  | '?' :: cs => cs
  | cs => cs

def step (p : Parser) (c : Char) (cs : List Char) : Option (Parser × List Char) :=
  let item (r : Option (Pattern × List Char)) : Option (Parser × List Char) :=
    r.map fun (x, rest) => (p.push x, rest)
  match c with
  | '(' => p.open? cs
  | ')' => p.leave?.map (·, cs)
  | '|' => some (p.branch, cs)
  | '[' => item (class? p.verbose cs)
  | '\\' => item (escape? p.verbose cs)
  | '*' | '+' | '?' => p.repeatLast?.map (·, dropLazy cs)
  | '\x7b' => none
  | '.' => item (some (.dot, cs))
  | '^' | '$' => item (some (.anchor, cs))
  | _ => item (some (plain c, cs))

def run : (room : Nat) → Parser → List Char → Option Pattern
  | 0, _, _ => none
  | room + 1, p, cs =>
    match skip p.verbose cs with
    | [] => if p.outer.isEmpty then some p.current.toPattern else none
    | c :: rest =>
      match p.step c rest with
      | some (p, rest) => run room p rest
      | none => none

end Parser

def parse? (cs : List Char) : Option Pattern := Parser.run (cs.length + 1) .initial cs

end QueryFlow.Pattern
