import Mathlib.Algebra.Order.Field.Power
import Mathlib.Algebra.Order.Field.Rat
import Mathlib.Algebra.Order.SuccPred
import Mathlib.Order.Compare
import Mathlib.Order.WithBot
import Mathlib.Tactic.Linarith
import Mathlib.Tactic.NormNum
import Mathlib.Tactic.Ring
import QueryFlow.Proofs.Double

/-!
# The numbers that doubles stand for

The finite doubles are the points of a line, one for each place, on which the numbers grow strictly.
Between two powers of two they are equally far apart. The infinities lie at the ends.
-/

namespace QueryFlow

abbrev Extended := WithBot (WithTop ℚ)

namespace Extended

def ofRat (x : ℚ) : Extended := WithBot.some (WithTop.some x)

theorem ofRat_lt_ofRat {x y : ℚ} : ofRat x < ofRat y ↔ x < y :=
  WithBot.coe_lt_coe.trans WithTop.coe_lt_coe

theorem bot_lt_ofRat (x : ℚ) : ⊥ < ofRat x := WithBot.bot_lt_coe _

theorem ofRat_lt_top (x : ℚ) : ofRat x < ⊤ := WithBot.coe_lt_coe.2 (WithTop.coe_lt_top x)

end Extended

namespace Double

def toRat (d : Double) : ℚ :=
  if d.negative then -((d.mantissa : ℚ) * 2 ^ d.exponent) else (d.mantissa : ℚ) * 2 ^ d.exponent

def exact (d : Double) : Extended :=
  if d.isFinite then Extended.ofRat d.toRat else if d.negative then ⊥ else ⊤

/-! ## Sizes -/

/-- The number of a double with the given magnitude bits, its sign apart. -/
def size (m : Nat) : ℚ :=
  ((if m / leadingBit = 0 then m % leadingBit else leadingBit + m % leadingBit : Nat) : ℚ) *
    2 ^ (((max (m / leadingBit) 1 : Nat) : Int) - 1075)

theorem toRat_eq_size (d : Double) :
    d.toRat = if d.negative then -size d.magnitude else size d.magnitude := rfl

/-- From `leadingBit` units on, `leadingBit` more units lead to a power of two, where the unit
doubles. The first unit is also that of everything below. -/
theorem size_grid {j f : Nat} (normal : j = 0 ∨ leadingBit ≤ f) (small : f ≤ 2 * leadingBit) :
    size (j * leadingBit + f) = f * 2 ^ ((j : Int) - 1074) := by
  have positive : 0 < leadingBit := by decide
  rcases lt_or_ge f leadingBit with below | above
  · obtain rfl : j = 0 := normal.resolve_right (Nat.not_le.2 below)
    rw [Nat.zero_mul, Nat.zero_add, size, Nat.div_eq_of_lt below, Nat.mod_eq_of_lt below]
    rfl
  obtain ⟨g, rfl⟩ := Nat.exists_eq_add_of_le above
  have rest : g ≤ leadingBit := by omega
  rcases rest.lt_or_eq with less | rfl
  · have regrouped : j * leadingBit + (leadingBit + g) = g + leadingBit * (j + 1) := by ring
    have exponent : ((max (j + 1) 1 : Nat) : Int) - 1075 = (j : Int) - 1074 := by omega
    rw [regrouped, size, Nat.add_mul_div_left _ _ positive, Nat.add_mul_mod_self_left,
      Nat.div_eq_of_lt less, Nat.mod_eq_of_lt less, Nat.zero_add, if_neg (Nat.succ_ne_zero j),
      exponent]
  · have regrouped : j * leadingBit + (leadingBit + leadingBit) = leadingBit * (j + 2) := by ring
    have exponent : ((max (j + 2) 1 : Nat) : Int) - 1075 = (j : Int) - 1074 + 1 := by omega
    rw [regrouped, size, Nat.mul_div_cancel_left _ positive, Nat.mul_mod_right,
      if_neg (Nat.succ_ne_zero _), exponent, zpow_add_one₀ two_ne_zero]
    push_cast
    ring

theorem exists_grid (m : Nat) : ∃ j f, m = j * leadingBit + f ∧ (j = 0 ∨ leadingBit ≤ f) ∧
    f < 2 * leadingBit := by
  refine ⟨m / leadingBit - 1, m - (m / leadingBit - 1) * leadingBit, ?_⟩
  simp only [leadingBit]
  omega

theorem size_lt_succ (m : Nat) : size m < size (m + 1) := by
  obtain ⟨j, f, rfl, normal, small⟩ := exists_grid m
  rw [size_grid normal small.le, Nat.add_assoc,
    size_grid (normal.imp_right fun h => h.trans (Nat.le_succ f)) small]
  have unit : (0 : ℚ) < 2 ^ ((j : Int) - 1074) := zpow_pos two_pos _
  push_cast
  linarith

theorem size_zero : size 0 = 0 := by
  simp [size]

/-! ## The line -/

def line (p : Int) : ℚ := if p < 0 then -size p.natAbs else size p.natAbs

theorem line_natCast (m : Nat) : line m = size m := by
  rw [line, if_neg (by omega), Int.natAbs_natCast]

theorem line_neg (p : Int) : line (-p) = -line p := by
  rcases lt_trichotomy p 0 with negative | rfl | positive
  · rw [line, line, if_neg (by omega), if_pos negative, Int.natAbs_neg, neg_neg]
  · simp [line, size_zero]
  · rw [line, line, if_pos (by omega), if_neg (by omega), Int.natAbs_neg]

theorem line_lt_succ (p : Int) : line p < line (p + 1) := by
  obtain ⟨m, rfl | rfl⟩ := p.eq_nat_or_neg
  · exact_mod_cast (line_natCast m).trans_lt
      ((size_lt_succ m).trans_eq (line_natCast (m + 1)).symm)
  · cases m with
    | zero => exact size_lt_succ 0
    | succ m =>
      have next : -((m + 1 : Nat) : Int) + 1 = -(m : Int) := by omega
      rw [next, line_neg, line_neg, line_natCast, line_natCast]
      exact neg_lt_neg (size_lt_succ m)

theorem line_lt_line {p q : Int} (less : p < q) : line p < line q :=
  strictMono_int_of_lt_succ line_lt_succ less

theorem line_le_line {p q : Int} (le : p ≤ q) : line p ≤ line q :=
  (strictMono_int_of_lt_succ line_lt_succ).monotone le

theorem line_injective : Function.Injective line :=
  (strictMono_int_of_lt_succ line_lt_succ).injective

theorem toRat_eq_line (d : Double) : d.toRat = line d.place := by
  rw [toRat_eq_size, place]
  split
  · rw [line_neg, line_natCast]
  · rw [line_natCast]

/-! ## The ends -/

def lastPlace : Int := (topField * leadingBit : Nat)

theorem isFinite_iff {d : Double} : d.isFinite = true ↔ d.magnitude < topField * leadingBit := by
  have bound := d.magnitude_lt
  simp only [isFinite, exponentField, bne_iff_ne]
  simp only [topField, leadingBit, signBit] at bound ⊢
  omega

theorem isFinite_iff_place {d : Double} :
    d.isFinite = true ↔ -lastPlace < d.place ∧ d.place < lastPlace := by
  rw [isFinite_iff, place, lastPlace]
  split <;> omega

theorem place_le {d : Double} (number : d.isNaN = false) : d.place ≤ lastPlace := by
  have bound := isNaN_eq_false_iff.1 number
  rw [place, lastPlace]
  split <;> omega

theorem neg_lastPlace_le {d : Double} (number : d.isNaN = false) : -lastPlace ≤ d.place := by
  have bound := isNaN_eq_false_iff.1 number
  rw [place, lastPlace]
  split <;> omega

def atPlace (p : Int) : Extended :=
  if p ≤ -lastPlace then ⊥ else if p < lastPlace then Extended.ofRat (line p) else ⊤

theorem atPlace_of_inside {p : Int} (lower : -lastPlace < p) (upper : p < lastPlace) :
    atPlace p = Extended.ofRat (line p) := by
  rw [atPlace, if_neg (Int.not_le.2 lower), if_pos upper]

theorem atPlace_bottom : atPlace (-lastPlace) = ⊥ := if_pos (Int.le_refl _)

theorem atPlace_top : atPlace lastPlace = ⊤ := by
  have length : ¬ lastPlace ≤ -lastPlace := by decide
  rw [atPlace, if_neg length, if_neg (Int.lt_irrefl _)]

theorem atPlace_lt_atPlace {p q : Int} (less : p < q) (lower : -lastPlace ≤ p)
    (upper : q ≤ lastPlace) : atPlace p < atPlace q := by
  rcases lower.eq_or_lt with rfl | above
  · rcases upper.eq_or_lt with rfl | below
    · rw [atPlace_bottom, atPlace_top]
      exact bot_lt_top
    · rw [atPlace_bottom, atPlace_of_inside less below]
      exact Extended.bot_lt_ofRat _
  · rcases upper.eq_or_lt with rfl | below
    · rw [atPlace_of_inside above less, atPlace_top]
      exact Extended.ofRat_lt_top _
    · rw [atPlace_of_inside above (less.trans below), atPlace_of_inside (above.trans less) below]
      exact Extended.ofRat_lt_ofRat.2 (line_lt_line less)

theorem exact_eq_atPlace {d : Double} (number : d.isNaN = false) : d.exact = atPlace d.place := by
  rw [exact]
  split
  · rename_i finite
    obtain ⟨lower, upper⟩ := isFinite_iff_place.1 finite
    rw [toRat_eq_line, atPlace_of_inside lower upper]
  · rename_i infinite
    have last : d.magnitude = topField * leadingBit :=
      Nat.le_antisymm (isNaN_eq_false_iff.1 number) (Nat.not_lt.1 (mt isFinite_iff.2 infinite))
    rw [place, last]
    split
    · exact atPlace_bottom.symm
    · exact atPlace_top.symm

theorem compare_exact {a b : Double} (ha : a.isNaN = false) (hb : b.isNaN = false) :
    compare a.exact b.exact = compare a.place b.place := by
  have ordered {a b : Double} (ha : a.isNaN = false) (hb : b.isNaN = false)
      (less : a.place < b.place) : a.exact < b.exact := by
    rw [exact_eq_atPlace ha, exact_eq_atPlace hb]
    exact atPlace_lt_atPlace less (neg_lastPlace_le ha) (place_le hb)
  rcases lt_trichotomy a.place b.place with less | same | greater
  · rw [compare_lt_iff_lt.2 less, compare_lt_iff_lt.2 (ordered ha hb less)]
  · rw [compare_eq_iff_eq.2 same, compare_eq_iff_eq, exact_eq_atPlace ha, exact_eq_atPlace hb, same]
  · rw [compare_gt_iff_gt.2 greater, compare_gt_iff_gt.2 (ordered hb ha greater)]

theorem compare?_eq_exact {a b : Double} (ha : a.isNaN = false) (hb : b.isNaN = false) :
    a.compare? b = some (compare a.exact b.exact) := by
  rw [compare?_of_number ha hb, compare_exact ha hb]

end Double

end QueryFlow
