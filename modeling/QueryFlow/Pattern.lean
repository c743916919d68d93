/-!
# Patterns

Regular expressions, as far as it takes to tell which of them can be compiled.

Nothing is compiled that needs a table of Unicode, so in Unicode mode, which is the usual one,
letter case counts and there are neither short classes nor word edges. Outside of it nothing may
match less than a whole character, so there everything stays within ASCII.
-/

namespace QueryFlow

namespace Pattern

inductive Flag
  | ignoreCase
  | multiLine
  | dotMatchesLineEnd
  | swapGreed
  | unicode
  | carriageReturn
  /-- Blanks and comments in the pattern mean nothing. -/
  | verbose
  deriving DecidableEq

def Flag.ofChar? : Char → Option Flag
  | 'i' => some ignoreCase
  | 'm' => some multiLine
  | 's' => some dotMatchesLineEnd
  | 'U' => some swapGreed
  | 'u' => some unicode
  | 'R' => some carriageReturn
  | 'x' => some verbose
  | _ => none

abbrev Flags := List (Flag × Bool)

structure Symbol where
  char : Char
  /-- Whether two digits of base sixteen name it, which stand for a byte outside Unicode mode. -/
  isByte : Bool

inductive ClassSet
  | symbol (s : Symbol)
  | range (first last : Symbol)
  | named (negated : Bool)
  /-- Digits, blanks or word characters, as in `\d`. -/
  | short (negated : Bool)
  | nested (negated : Bool) (set : ClassSet)
  /-- No member, or at least two. -/
  | union (sets : List ClassSet)
  | combine (left right : ClassSet)

def ClassSet.ofItems : List ClassSet → ClassSet
  | [set] => set
  | sets => .union sets

end Pattern

inductive Pattern
  | symbol (s : Pattern.Symbol)
  | dot
  | anchor
  | wordEdge
  /-- Digits, blanks or word characters, as in `\d`. -/
  | short (negated : Bool)
  | bracketed (negated : Bool) (set : Pattern.ClassSet)
  /-- Flags for the rest of the group. -/
  | flags (fs : Pattern.Flags)
  | repeated (p : Pattern)
  | group (fs : Pattern.Flags) (p : Pattern)
  /-- No part, or at least two. -/
  | sequence (ps : List Pattern)
  | choice (ps : List Pattern)

namespace Pattern

def ofItems : List Pattern → Pattern
  | [p] => p
  | ps => .sequence ps

/-! ## Nesting -/

mutual

def ClassSet.depth : ClassSet → Nat
  | symbol _ | range .. | named _ | short _ => 0
  | nested _ set => set.depth + 1
  | union [] => 0
  | union (set :: sets) => max set.depth (ClassSet.depthAll sets) + 1
  | combine left right => max left.depth right.depth + 1

def ClassSet.depthAll : List ClassSet → Nat
  | [] => 0
  | set :: sets => max set.depth (ClassSet.depthAll sets)

end

mutual

def depth : Pattern → Nat
  | symbol _ | dot | anchor | wordEdge | short _ | flags _ => 0
  | bracketed _ set => set.depth + 1
  | repeated p => p.depth + 1
  | group _ p => p.depth + 1
  | sequence [] => 0
  | sequence (p :: ps) => max p.depth (depthAll ps) + 1
  | choice ps => depthAll ps + 1

def depthAll : List Pattern → Nat
  | [] => 0
  | p :: ps => max p.depth (depthAll ps)

end

def nestingLimit : Nat := 250

/-! ## What can be compiled -/

structure Mode where
  unicode : Bool
  ignoreCase : Bool

def Mode.initial : Mode := ⟨true, false⟩

def Mode.set (m : Mode) (fs : Flags) : Mode :=
  ⟨(fs.lookup .unicode).getD m.unicode, (fs.lookup .ignoreCase).getD m.ignoreCase⟩

def Symbol.isASCII (s : Symbol) : Bool := s.char.toNat < 0x80

def Symbol.compiles (m : Mode) (s : Symbol) : Bool :=
  if m.unicode then !m.ignoreCase else !s.isByte || s.isASCII

mutual

/-- Letter case cannot be ignored by a set that has a member, and what is negated has one. -/
def ClassSet.compiles (m : Mode) : ClassSet → Bool
  | symbol s => if m.unicode then !m.ignoreCase else s.isASCII
  | range first last => if m.unicode then !m.ignoreCase else first.isASCII && last.isASCII
  | named negated => if m.unicode then !m.ignoreCase else !negated
  | short negated => !m.unicode && !negated
  | nested negated set => (!negated || m.unicode && !m.ignoreCase) && set.compiles m
  | union sets => ClassSet.compilesAll m sets
  | combine left right => left.compiles m && right.compiles m

def ClassSet.compilesAll (m : Mode) : List ClassSet → Bool
  | [] => true
  | set :: sets => set.compiles m && ClassSet.compilesAll m sets

end

mutual

/-- The mode in which a pattern leaves the rest of its group, if the pattern can be compiled. -/
def modeAfter? (m : Mode) : Pattern → Option Mode
  | symbol s => if s.compiles m then some m else none
  | dot => if m.unicode then some m else none
  | anchor => some m
  | wordEdge => if m.unicode then none else some m
  | short negated => if m.unicode || negated then none else some m
  | bracketed negated set => if (m.unicode || !negated) && set.compiles m then some m else none
  | flags fs => some (m.set fs)
  | repeated p => p.modeAfter? m
  | group fs p => (p.modeAfter? (m.set fs)).map fun _ => m
  | sequence ps => modeAfterAll? m ps
  | choice ps => modeAfterAll? m ps

def modeAfterAll? (m : Mode) : List Pattern → Option Mode
  | [] => some m
  | p :: ps => do
    let m ← p.modeAfter? m
    modeAfterAll? m ps

end

def compiles (p : Pattern) : Bool :=
  p.depth ≤ nestingLimit && (p.modeAfter? .initial).isSome

end Pattern

end QueryFlow
