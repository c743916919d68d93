import QueryFlow.Numeric.Double

/-!
# Decimal literals

How the digits of a number in a plan document become a value. A significand has at most 64 bits and
digits beyond that only move the decimal point, so a literal has a value after at most two
roundings. A number without point and exponent stays an integer while it fits 64 bits.
-/

namespace QueryFlow

inductive Number
  | int (n : Int)
  | float (d : Double)
  deriving DecidableEq, Repr

structure Literal where
  negative : Bool
  whole : List Char
  fraction : Option (List Char)
  exponent : Option (Bool × List Char)

namespace Literal

def digit (c : Char) : Nat := c.toNat - '0'.toNat

/-- A significand that grows by digits until the next one would not fit 64 bits. -/
structure Significand where
  value : Nat
  full : Bool

def Significand.push (s : Significand) (c : Char) : Significand :=
  if s.full then s
  else
    let next := s.value * 10 + digit c
    if next < UInt64.size then ⟨next, false⟩ else ⟨s.value, true⟩

def Significand.take (value : Nat) : List Char → Significand × Nat
  | [] => (⟨value, false⟩, 0)
  | c :: cs =>
    let next := Significand.push ⟨value, false⟩ c
    if next.full then (next, 0)
    else
      let (s, n) := Significand.take next.value cs
      (s, n + 1)

def powerOfTen (n : Nat) : Double := Double.ofNat (Nat.pow 10 n)

/-- Tiny numbers are scaled in several steps, each by the greatest power of ten that is a double. -/
def scaleDown (d : Double) (places : Nat) : Double :=
  if places ≤ 308 then d.div (powerOfTen places)
  else if d.isZero then d
  else scaleDown (d.div (powerOfTen 308)) (places - 308)
  termination_by places

def scaled (d : Double) (e : Int) : Option Double :=
  if e < 0 then some (scaleDown d (-e).toNat)
  else if d.isZero then some d
  else if 308 < e then none
  else
    let r := d.mul (powerOfTen e.toNat)
    if r.isInfinite then none else some r

def exponentValue : Option (Bool × List Char) → Int
  | none => 0
  | some (negative, ds) =>
    let n : Int := ds.foldl (fun n c => n * 10 + digit c) 0
    if negative then -n else n

def number? (l : Literal) : Option Number :=
  let (s, held) := Significand.take 0 l.whole
  let withSign (d : Double) : Number := .float (if l.negative then d.neg else d)
  match l.fraction, l.exponent, s.full with
  | none, none, false =>
    if !l.negative then some (.int s.value)
    else if s.value = 0 ∨ -(s.value : Int) < Int64.minValue.toInt then
      some (withSign (Double.ofNat s.value))
    else some (.int (-s.value))
  | fraction, exponent, _ =>
    let dropped := l.whole.length - held
    let (t, places) := Significand.take s.value (fraction.getD [])
    (scaled (Double.ofNat t.value) (dropped - places + exponentValue exponent)).map withSign

end Literal

end QueryFlow
