/-!
# Double-precision numbers

A double is its 64 bits, so that a value survives unchanged whatever its payload, and the order and
the rounding below are exact integer arithmetic.
-/

namespace QueryFlow

structure Double where
  bits : UInt64
  deriving DecidableEq, Repr

namespace Double

def signBit : Nat := 0x8000000000000000

/-- The lowest bit of the exponent field, and the leading bit of a mantissa, which is not stored:
two to the power 52. -/
def leadingBit : Nat := 0x10000000000000

def topField : Nat := 2047

/-- The bits below the sign, read as a number. They order the doubles of one sign by size. -/
def magnitude (d : Double) : Nat := d.bits.toNat % signBit

def negative (d : Double) : Bool := signBit ≤ d.bits.toNat

def exponentField (d : Double) : Nat := d.magnitude / leadingBit

def fraction (d : Double) : Nat := d.magnitude % leadingBit

def isNaN (d : Double) : Bool := d.exponentField == topField && d.fraction != 0

def isInfinite (d : Double) : Bool := d.exponentField == topField && d.fraction == 0

def isFinite (d : Double) : Bool := d.exponentField != topField

def isZero (d : Double) : Bool := d.magnitude == 0

/-- A finite double stands for `mantissa * 2 ^ exponent`, up to its sign. -/
def mantissa (d : Double) : Nat :=
  if d.exponentField = 0 then d.fraction else leadingBit + d.fraction

def exponent (d : Double) : Int := (max d.exponentField 1 : Nat) - 1075

def ofMagnitude (negative : Bool) (magnitude : Nat) : Double :=
  ⟨UInt64.ofNat ((if negative then signBit else 0) + magnitude)⟩

def infinity (negative : Bool) : Double := ofMagnitude negative (topField * leadingBit)

def notANumber (negative : Bool) : Double :=
  ofMagnitude negative (topField * leadingBit + leadingBit / 2)

/-! ## Order -/

/-- The place of a double on a line that holds every double but those that are no numbers. Both
zeros have place 0. -/
def place (d : Double) : Int := if d.negative then -(d.magnitude : Int) else d.magnitude

def compare? (a b : Double) : Option Ordering :=
  if a.isNaN || b.isNaN then none else some (compare a.place b.place)

def numEq (a b : Double) : Bool := a.compare? b == some .eq

/-! ## Rounding -/

/-- The quotient as a natural number, rounded to the nearest; halves go to the even neighbour. -/
def divNearestEven (num den : Nat) : Nat :=
  let floor := num / den
  let twice := 2 * (num % den)
  if twice < den then floor
  else if den < twice then floor + 1
  else if floor % 2 = 0 then floor else floor + 1

def shifted (num den : Nat) (shift : Int) : Nat × Nat :=
  if 0 ≤ shift then (num * Nat.pow 2 shift.toNat, den) else (num, den * Nat.pow 2 (-shift).toNat)

/-- The power of two that the last mantissa bit of `num / den` stands for. -/
def lastBit (num den : Nat) : Int :=
  let d : Int := (Nat.log2 num : Int) - Nat.log2 den
  let (n, m) := shifted num den (-d)
  max (if n < m then d - 53 else d - 52) (-1074)

/-- The double nearest to a positive fraction; halves go to the even neighbour, and what lies beyond
the largest double becomes infinite. -/
def ofFraction (negative : Bool) (num den : Nat) : Double :=
  if num = 0 then ofMagnitude negative 0
  else
    let k := lastBit num den
    let (n, m) := shifted num den (-k)
    let magnitude := (k + 1074).toNat * leadingBit + divNearestEven n m
    ofMagnitude negative (min magnitude (topField * leadingBit))

def ofNat (n : Nat) : Double := ofFraction false n 1

def ofInt (n : Int) : Double := ofFraction (n < 0) n.natAbs 1

def neg (d : Double) : Double := ofMagnitude (!d.negative) d.magnitude

/-! ## Arithmetic on finite positive doubles -/

def mul (a b : Double) : Double :=
  let (n, m) := shifted (a.mantissa * b.mantissa) 1 (a.exponent + b.exponent)
  ofFraction false n m

def div (a b : Double) : Double :=
  let (n, m) := shifted a.mantissa b.mantissa (a.exponent - b.exponent)
  ofFraction false n m

end Double

end QueryFlow
