import QueryFlow.Numeric.Nearest
import QueryFlow.Text.Digits
import QueryFlow.Toml

namespace QueryFlow.Toml

/-! ## Numbers -/

def digits? (base : Nat) : List Char → Option (List Nat)
  | [] => none
  | [c] => (Text.digitValue? base c).map ([·])
  | c :: '_' :: cs => do return (← Text.digitValue? base c) :: (← digits? base cs)
  | c :: cs => do return (← Text.digitValue? base c) :: (← digits? base cs)

def whole? (cs : List Char) : Option (List Nat) :=
  match digits? 10 cs with
  | some (0 :: _ :: _) => none
  | ds => ds

def splitSign : List Char → Bool × List Char
  | '-' :: cs => (true, cs)
  | '+' :: cs => (false, cs)
  | cs => (false, cs)

def signed (negative : Bool) (n : Nat) : Int := if negative then -n else n

/-- An integer of 64 bits. Other bases than ten have no sign. -/
def integer? (cs : List Char) : Option Int := do
  let n : Int ←
    match cs with
    | '0' :: 'x' :: cs => (digits? 16 cs).map fun ds => (Text.ofDigits 16 ds : Int)
    | '0' :: 'o' :: cs => (digits? 8 cs).map fun ds => (Text.ofDigits 8 ds : Int)
    | '0' :: 'b' :: cs => (digits? 2 cs).map fun ds => (Text.ofDigits 2 ds : Int)
    | cs =>
      let (negative, cs) := splitSign cs
      (whole? cs).map fun ds => signed negative (Text.ofDigits 10 ds)
  if Int64.minValue.toInt ≤ n ∧ n ≤ Int64.maxValue.toInt then return n else none

def fraction? : List Char → Option (List Nat)
  | '.' :: cs => digits? 10 cs
  | [] => some []
  | _ => none

def exponent? : List Char → Option Int
  | [] => some 0
  | _ :: cs =>
    let (negative, cs) := splitSign cs
    (digits? 10 cs).map fun ds => signed negative (Text.ofDigits 10 ds)

/-- A number with a fraction, an exponent or both. A positive one is not too large for a double. -/
def decimal? (cs : List Char) : Option Double := do
  let (negative, cs) := splitSign cs
  let (mantissa, exponent) := cs.span fun c => c != 'e' && c != 'E'
  let (whole, fraction) := mantissa.span (· != '.')
  if fraction = [] ∧ exponent = [] then none
  let w ← whole? whole
  let f ← fraction? fraction
  let e ← exponent? exponent
  let d := Decimal.nearest negative ⟨Text.ofDigits 10 (w ++ f), e - f.length⟩
  if d.isInfinite && !negative then none else return d

def float? (cs : List Char) : Option Double :=
  let (negative, unsigned) := splitSign cs
  match unsigned with
  | ['i', 'n', 'f'] => some (Double.infinity negative)
  | ['n', 'a', 'n'] => some (Double.notANumber negative)
  | _ => decimal? cs

/-! ## Dates and times -/

def isField (low high : Nat) (tens ones : Char) : Bool :=
  match Text.digitValue? 10 tens, Text.digitValue? 10 ones with
  | some t, some o => low ≤ 10 * t + o && 10 * t + o ≤ high
  | _, _ => false

def daysIn (year month : Nat) : Nat :=
  if month = 2 then
    if year % 4 = 0 ∧ (year % 100 ≠ 0 ∨ year % 400 = 0) then 29 else 28
  else if month = 4 ∨ month = 6 ∨ month = 9 ∨ month = 11 then 30
  else 31

def isDate : List Char → Bool
  | [a, b, c, d, '-', m, n, '-', x, y] =>
    match [a, b, c, d].mapM (Text.digitValue? 10), [m, n].mapM (Text.digitValue? 10) with
    | some year, some month =>
      isField 1 12 m n && isField 1 (daysIn (Text.ofDigits 10 year) (Text.ofDigits 10 month)) x y
    | _, _ => false
  | _ => false

def isTime : List Char → Bool
  | h :: i :: ':' :: m :: n :: ':' :: s :: t :: rest =>
    isField 0 23 h i && isField 0 59 m n && isField 0 60 s t &&
      match rest with
      | [] => true
      | '.' :: ds => !ds.isEmpty && ds.all Char.isDigit
      | _ => false
  | _ => false

def isOffset : List Char → Bool
  | ['Z'] | ['z'] => true
  | [sign, h, i, ':', m, n] => (sign = '+' || sign = '-') && isField 0 23 h i && isField 0 59 m n
  | _ => false

def isMoment (cs : List Char) : Bool :=
  isTime cs || isDate (cs.take 10) &&
    match cs.drop 10 with
    | [] => true
    | c :: cs =>
      let (time, offset) := cs.span fun c => c.isDigit || c = ':' || c = '.'
      (c = 'T' || c = 't' || c = ' ') && isTime time && (offset.isEmpty || isOffset offset)

/-! ## Words -/

def ofWord? (cs : List Char) : Option Toml :=
  match cs with
  | ['t', 'r', 'u', 'e'] => some (.bool true)
  | ['f', 'a', 'l', 's', 'e'] => some (.bool false)
  | _ =>
    match integer? cs, float? cs with
    | some n, _ => some (.integer n)
    | none, some d => some (.float d)
    | none, none => if isMoment cs then some (.moment (String.ofList cs)) else none

def isWordChar (c : Char) : Bool :=
  c.isAlphanum || c = '+' || c = '-' || c = '_' || c = '.' || c = ':'

/-- Splits a word off. A blank belongs to it between a date and a time. -/
def splitWord (cs : List Char) : List Char × List Char :=
  let (word, rest) := cs.span isWordChar
  match rest with
  | ' ' :: h :: i :: ':' :: more =>
    if isDate word && h.isDigit && i.isDigit then
      let (time, rest) := more.span isWordChar
      (word ++ ' ' :: h :: i :: ':' :: time, rest)
    else (word, rest)
  | _ => (word, rest)

end QueryFlow.Toml
