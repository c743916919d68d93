import QueryFlow.Numeric.Double

/-!
# Shortest decimals

The shortest decimal that reads back as a given double. Every real number in the interval around a
double reads back as that double; the first decimal grid with a point in the interval wins, and of
two such points the nearer.
-/

namespace QueryFlow

structure Decimal where
  digits : Nat
  exponent : Int
  deriving DecidableEq, Repr

inductive Tie
  | up
  | even
  deriving DecidableEq, Repr

namespace Decimal

def trimmed : Nat → Decimal → Decimal
  | 0, d => d
  | limit + 1, d =>
    if d.digits ≠ 0 ∧ d.digits % 10 = 0 then trimmed limit ⟨d.digits / 10, d.exponent + 1⟩ else d

/-- The interval of reals that read back as one double, and the double itself, on a common scale:
`lower / scale < value / scale < upper / scale`. -/
structure Interval where
  lower : Nat
  value : Nat
  upper : Nat
  scale : Nat
  closed : Bool

/-- Half way to the neighbours. The lower neighbour of a power of two is half as far. -/
def Interval.of (d : Double) : Interval :=
  let m := d.mantissa
  let below := if d.fraction = 0 ∧ 1 < d.exponentField then 1 else 2
  let (unit, scale) := Double.shifted 1 1 (d.exponent - 2)
  { lower := (4 * m - below) * unit
    value := 4 * m * unit
    upper := (4 * m + 2) * unit
    scale := scale
    closed := m % 2 = 0 }

def Interval.holds (i : Interval) (step n : Nat) : Bool :=
  if i.closed then i.lower ≤ n * step && n * step ≤ i.upper
  else i.lower < n * step && n * step < i.upper

def Interval.onGrid (i : Interval) (k : Int) : Interval × Nat :=
  let factor := Nat.pow 10 (-k).toNat
  ({ i with lower := i.lower * factor, value := i.value * factor, upper := i.upper * factor },
    i.scale * Nat.pow 10 k.toNat)

/-- The point of the grid of step `10 ^ k` that reads back, the nearer one if two do. -/
def Interval.point? (i : Interval) (tie : Tie) (k : Int) : Option Nat :=
  let (j, step) := i.onGrid k
  let below := j.value / step
  let above := below + 1
  match j.holds step below, j.holds step above with
  | false, false => none
  | true, false => some below
  | false, true => some above
  | true, true =>
    let down := j.value - below * step
    let up := above * step - j.value
    if down < up then some below
    else if up < down then some above
    else match tie with
      | .up => some above
      | .even => some (if below % 2 = 0 then below else above)

def Interval.leading (i : Interval) : Int :=
  let binary : Int := (Nat.log2 i.value : Int) - Nat.log2 i.scale
  let guess := binary * 30103 / 100000
  let reaches (e : Int) : Bool :=
    i.scale * Nat.pow 10 e.toNat ≤ i.value * Nat.pow 10 (-e).toNat
  if reaches (guess + 1) then guess + 1 else if reaches guess then guess else guess - 1

def Interval.search (i : Interval) (tie : Tie) : Nat → Int → Decimal
  | 0, k => ⟨0, k⟩
  | count + 1, k =>
    match i.point? tie k with
    | some digits => ⟨digits, k⟩
    | none => i.search tie count (k - 1)

/-- The shortest decimal that reads back as a finite double, its sign apart. Seventeen digits always
suffice. -/
def shortest (tie : Tie) (d : Double) : Decimal :=
  if d.isZero then ⟨0, 0⟩
  else
    let i := Interval.of d
    trimmed 17 (i.search tie 17 i.leading)

end Decimal

end QueryFlow
