import QueryFlow.Numeric.Shortest

/-!
# Layout of decimal numbers

How a double is written once its digits are known. Each format of the engine is one `Layout` value.
-/

namespace QueryFlow

structure Layout where
  tie : Tie
  /-- A number is written without an exponent if that of its leading digit is at least this. -/
  lowest : Option Int
  /-- A number is written without an exponent if that of its leading digit is at most this. -/
  highest : Option Int
  pointZero : Bool
  plus : Bool

namespace Layout

/-- Text for people: never an exponent, and no decimal point in whole numbers. -/
def plain : Layout := ⟨.up, none, none, false, false⟩

/-- Text for diagnostics: a decimal point in whole numbers, and an exponent from `1e16` on and below
`1e-4`. -/
def diagnostic : Layout := ⟨.up, some (-4), some 15, true, false⟩

/-- Text in plan documents: an exponent from `1e+16` on and below `0.00001`. -/
def document : Layout := ⟨.even, some (-5), some 15, true, true⟩

def positional (l : Layout) (e : Int) : Bool :=
  l.lowest.all (· ≤ e) && l.highest.all (e ≤ ·)

def zeros (n : Nat) : List Char := List.replicate n '0'

def pointed (l : Layout) (ds : List Char) (point : Int) : List Char :=
  if point ≤ 0 then '0' :: '.' :: zeros (-point).toNat ++ ds
  else
    let n := point.toNat
    if ds.length ≤ n then
      ds ++ zeros (n - ds.length) ++ (if l.pointZero then ['.', '0'] else [])
    else ds.take n ++ '.' :: ds.drop n

def scientific (l : Layout) (ds : List Char) (e : Int) : List Char :=
  let sign := if e < 0 then ['-'] else if l.plus then ['+'] else []
  let mark := 'e' :: sign ++ Nat.toDigits 10 e.natAbs
  match ds with
  | first :: second :: rest => first :: '.' :: second :: rest ++ mark
  | _ => ds ++ mark

def magnitude (l : Layout) (d : Decimal) : List Char :=
  if d.digits = 0 then if l.pointZero then ['0', '.', '0'] else ['0']
  else
    let ds := Nat.toDigits 10 d.digits
    let point := d.exponent + ds.length
    if l.positional (point - 1) then l.pointed ds point else l.scientific ds (point - 1)

def render (l : Layout) (d : Double) : String :=
  if d.isNaN then "NaN"
  else
    let sign := if d.negative then ['-'] else []
    let text := if d.isInfinite then ['i', 'n', 'f'] else l.magnitude (Decimal.shortest l.tie d)
    String.ofList (sign ++ text)

end Layout

end QueryFlow
