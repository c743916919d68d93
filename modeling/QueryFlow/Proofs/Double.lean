import QueryFlow.Numeric.Literal

/-!
# Doubles that are numbers

What is not a number lies above the infinities. Rounding never gets there, so no literal does.
-/

namespace QueryFlow

namespace Double

theorem magnitude_lt (d : Double) : d.magnitude < signBit :=
  Nat.mod_lt _ (by decide)

theorem isNaN_iff {d : Double} : d.isNaN = true ↔ topField * leadingBit < d.magnitude := by
  have bound := d.magnitude_lt
  simp only [isNaN, exponentField, fraction, Bool.and_eq_true, beq_iff_eq, bne_iff_ne]
  simp only [topField, leadingBit, signBit] at bound ⊢
  omega

theorem isNaN_eq_false_iff {d : Double} :
    d.isNaN = false ↔ d.magnitude ≤ topField * leadingBit := by
  rw [← Bool.not_eq_true, isNaN_iff, Nat.not_lt]

theorem magnitude_ofMagnitude {negative : Bool} {m : Nat} (h : m < signBit) :
    (ofMagnitude negative m).magnitude = m := by
  simp only [ofMagnitude, magnitude, UInt64.toNat_ofNat', signBit] at h ⊢
  cases negative <;> simp <;> omega

theorem isNaN_ofMagnitude {negative : Bool} {m : Nat} (h : m ≤ topField * leadingBit) :
    (ofMagnitude negative m).isNaN = false := by
  have small : m < signBit := Nat.lt_of_le_of_lt h (by decide)
  rw [isNaN_eq_false_iff, magnitude_ofMagnitude small]
  exact h

theorem isNaN_ofFraction (negative : Bool) (num den : Nat) :
    (ofFraction negative num den).isNaN = false := by
  rw [ofFraction]
  split
  · exact isNaN_ofMagnitude (Nat.zero_le _)
  · exact isNaN_ofMagnitude (Nat.min_le_right _ _)

theorem isNaN_ofInt (n : Int) : (ofInt n).isNaN = false := isNaN_ofFraction _ _ _

theorem isNaN_ofNat (n : Nat) : (ofNat n).isNaN = false := isNaN_ofFraction _ _ _

theorem isNaN_mul (a b : Double) : (a.mul b).isNaN = false := isNaN_ofFraction _ _ _

theorem isNaN_div (a b : Double) : (a.div b).isNaN = false := isNaN_ofFraction _ _ _

theorem isNaN_neg (d : Double) : d.neg.isNaN = d.isNaN := by
  rw [Bool.eq_iff_iff, isNaN_iff, isNaN_iff, neg, magnitude_ofMagnitude d.magnitude_lt]

theorem compare?_of_number {a b : Double} (ha : a.isNaN = false) (hb : b.isNaN = false) :
    a.compare? b = some (compare a.place b.place) := by
  rw [compare?, ha, hb, Bool.or_false, if_neg Bool.false_ne_true]

end Double

def Number.isNaN : Number → Bool
  | .int _ => false
  | .float d => d.isNaN

namespace Literal

theorem isNaN_scaleDown {d : Double} (h : d.isNaN = false) (places : Nat) :
    (scaleDown d places).isNaN = false := by
  induction d, places using scaleDown.induct with
  | case1 d places small => rw [scaleDown, if_pos small]; exact Double.isNaN_div _ _
  | case2 d places large zero => rw [scaleDown, if_neg large, if_pos zero]; exact h
  | case3 d places large nonzero ih =>
    rw [scaleDown, if_neg large, if_neg nonzero]
    exact ih (Double.isNaN_div _ _)

theorem isNaN_scaled {d r : Double} {e : Int} (h : d.isNaN = false) (scaled : scaled d e = some r) :
    r.isNaN = false := by
  rw [Literal.scaled] at scaled
  split at scaled
  · cases scaled
    exact isNaN_scaleDown h _
  split at scaled
  · cases scaled
    exact h
  split at scaled
  · cases scaled
  simp only at scaled
  split at scaled
  · cases scaled
  · cases scaled
    exact Double.isNaN_mul _ _

theorem isNaN_number? {l : Literal} {n : Number} (h : l.number? = some n) : n.isNaN = false := by
  have signed {d : Double} (hd : d.isNaN = false) :
      (Number.float (if l.negative then d.neg else d)).isNaN = false := by
    cases l.negative
    · exact hd
    · exact (Double.isNaN_neg d).trans hd
  simp only [number?] at h
  split at h
  · split at h
    · cases h
      rfl
    split at h
    · cases h
      exact signed (Double.isNaN_ofNat _)
    · cases h
      rfl
  · obtain ⟨d, scaled, rfl⟩ := Option.map_eq_some_iff.1 h
    exact signed (isNaN_scaled (Double.isNaN_ofNat _) scaled)

end Literal

end QueryFlow
