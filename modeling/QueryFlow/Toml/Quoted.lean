import QueryFlow.Text.Digits

/-!
# Quoted text in TOML

Text on one line or over several, in double quotes with escapes or in single quotes without. Line
ends are line feeds here, and of the control characters only a tab may stand in a text.
-/

namespace QueryFlow.Toml

def isPlain (c : Char) : Bool := c = '\t' || 0x20 ≤ c.toNat && c.toNat != 0x7f

def isBlank (c : Char) : Bool := c = ' ' || c = '\t'

inductive Quote
  | double
  | single
  deriving DecidableEq

def Quote.char : Quote → Char
  | double => '"'
  | single => '\''

def scalar? (count : Nat) (cs : List Char) : Option Char := do
  let ds ← (cs.take count).mapM Text.hexValue?
  let n := Text.ofDigits 16 ds
  if ds.length = count ∧ n.isValidChar then return Char.ofNat n else none

def escape? : List Char → Option (Char × Nat)
  | 'b' :: _ => some ('\x08', 1)
  | 't' :: _ => some ('\t', 1)
  | 'n' :: _ => some ('\n', 1)
  | 'f' :: _ => some ('\x0c', 1)
  | 'r' :: _ => some ('\r', 1)
  | '"' :: _ => some ('"', 1)
  | '\\' :: _ => some ('\\', 1)
  | 'u' :: cs => (scalar? 4 cs).map (·, 5)
  | 'U' :: cs => (scalar? 8 cs).map (·, 9)
  | _ => none

def prepend (c : Char) (r : List Char × List Char) : List Char × List Char := (c :: r.1, r.2)

def oneLine? (q : Quote) (cs : List Char) : Option (List Char × List Char) :=
  match cs with
  | [] => none
  | c :: cs =>
    if c = q.char then some ([], cs)
    else if c = '\\' ∧ q = .double then
      match escape? cs with
      | some (d, n) => (oneLine? q (cs.drop n)).map (prepend d)
      | none => none
    else if isPlain c then (oneLine? q cs).map (prepend c)
    else none
  termination_by cs.length
  decreasing_by all_goals simp only [List.length_drop, List.length_cons]; omega

def continued? (cs : List Char) : Option (List Char) :=
  match cs.dropWhile isBlank with
  | '\n' :: rest => some (rest.dropWhile fun c => isBlank c || c = '\n')
  | _ => none

theorem length_continued? {cs rest : List Char} (h : continued? cs = some rest) :
    rest.length ≤ cs.length := by
  unfold continued? at h
  split at h
  case h_1 tail eq =>
    cases h
    have outer := (List.dropWhile_sublist isBlank (l := cs)).length_le
    have inner := (List.dropWhile_sublist (fun c => isBlank c || c = '\n') (l := tail)).length_le
    rw [eq, List.length_cons] at outer
    omega
  case h_2 => cases h

/-- A text over several lines, after its three opening quotes, and what follows the closing ones, in
front of which up to two quotes belong to the text. -/
def manyLines? (q : Quote) (cs : List Char) : Option (List Char × List Char) :=
  match cs with
  | [] => none
  | c :: cs =>
    if c = q.char then
      if cs.take 2 = [q.char, q.char] then
        let own := ((cs.drop 2).take 2).takeWhile (· = q.char)
        some (own, cs.drop (2 + own.length))
      else (manyLines? q cs).map (prepend c)
    else if c = '\\' ∧ q = .double then
      match _h : continued? cs with
      | some rest => manyLines? q rest
      | none =>
        match escape? cs with
        | some (d, n) => (manyLines? q (cs.drop n)).map (prepend d)
        | none => none
    else if isPlain c || c = '\n' then (manyLines? q cs).map (prepend c)
    else none
  termination_by cs.length
  decreasing_by
    all_goals simp only [List.length_drop, List.length_cons]
    · omega
    · have := length_continued? _h
      omega
    · omega
    · omega

/-- A text with its quotes. A line end right after three opening quotes is no part of it. -/
def quoted? (cs : List Char) : Option (List Char × List Char) :=
  match cs with
  | '"' :: '"' :: '"' :: '\n' :: cs | '"' :: '"' :: '"' :: cs => manyLines? .double cs
  | '\'' :: '\'' :: '\'' :: '\n' :: cs | '\'' :: '\'' :: '\'' :: cs => manyLines? .single cs
  | '"' :: cs => oneLine? .double cs
  | '\'' :: cs => oneLine? .single cs
  | _ => none

end QueryFlow.Toml
