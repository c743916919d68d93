import QueryFlow.Numeric.Shortest

/-!
# Nearest doubles

Rounding a decimal to the nearest double, however large its exponent.
-/

namespace QueryFlow.Decimal

/-- The same decimal for the purpose of rounding, with an exponent of moderate size. From `10 ^ 400`
on everything is infinite, and below `10 ^ (-400)` everything is zero. -/
def clamped (d : Decimal) : Decimal :=
  ⟨d.digits, max (min d.exponent 400) (-400 - (Nat.log2 d.digits : Int))⟩

def nearest (negative : Bool) (d : Decimal) : Double :=
  let e := d.clamped.exponent
  Double.ofFraction negative (d.digits * Nat.pow 10 e.toNat) (Nat.pow 10 (-e).toNat)

end QueryFlow.Decimal
