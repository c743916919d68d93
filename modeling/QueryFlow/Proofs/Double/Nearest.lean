import Mathlib.Algebra.Order.Field.Basic
import Mathlib.Algebra.Order.Group.Abs
import Mathlib.Algebra.Order.Ring.Abs
import Mathlib.Tactic.FieldSimp
import QueryFlow.Proofs.Double.Exact

/-!
# Nearest doubles

Rounding a fraction gives the double nearest to it, and of two that are equally near the one with
the even mantissa.
-/

namespace QueryFlow.Double

/-- A finite double that no other is nearer to `x` than, with an even mantissa if another is as
near. -/
structure IsNearest (x : ℚ) (d : Double) : Prop where
  finite : d.isFinite = true
  least : ∀ e : Double, e.isFinite = true → |x - d.toRat| ≤ |x - e.toRat|
  even : ∀ e : Double, e.isFinite = true → e.toRat ≠ d.toRat →
    |x - e.toRat| = |x - d.toRat| → Even d.mantissa

/-! ## Nearest places -/

structure NearestPlace (x : ℚ) (p : Int) : Prop where
  least : ∀ q, |x - line p| ≤ |x - line q|
  even : ∀ q, q ≠ p → |x - line q| = |x - line p| → Even p

variable {x : ℚ} {p q : Int}

theorem NearestPlace.neg (h : NearestPlace x p) : NearestPlace (-x) (-p) := by
  have mirrored (q : Int) : |-x - line q| = |x - line (-q)| := by
    rw [line_neg, ← abs_neg]
    congr 1
    ring
  refine ⟨fun q => ?_, fun q other same => ?_⟩
  · rw [mirrored, mirrored, neg_neg]
    exact h.least (-q)
  · rw [mirrored, mirrored, neg_neg] at same
    exact (h.even (-q) (fun eq => other (by omega)) same).neg

theorem nearestPlace_lower (above : line p ≤ x) (nearer : x - line p ≤ line (p + 1) - x)
    (even : x - line p = line (p + 1) - x → Even p) : NearestPlace x p := by
  have here : |x - line p| = x - line p := abs_of_nonneg (sub_nonneg.2 above)
  have below {q : Int} (h : q < p) : x - line p < |x - line q| := by
    have := line_lt_line h
    exact lt_of_lt_of_le (by linarith) (le_abs_self _)
  have beyond {q : Int} (h : p < q) : line (p + 1) - x ≤ |x - line q| := by
    have := line_le_line (Int.add_one_le_of_lt h)
    rw [abs_sub_comm]
    exact le_trans (by linarith) (le_abs_self _)
  refine ⟨fun q => ?_, fun q other same => ?_⟩
  · rw [here]
    rcases lt_trichotomy q p with less | rfl | greater
    · exact (below less).le
    · exact here.ge
    · exact nearer.trans (beyond greater)
  · rw [here] at same
    rcases lt_or_gt_of_ne other with less | greater
    · exact absurd same (below less).ne'
    · exact even (le_antisymm nearer (same ▸ beyond greater))

theorem nearestPlace_upper (below : x ≤ line (p + 1)) (nearer : line (p + 1) - x ≤ x - line p)
    (even : line (p + 1) - x = x - line p → Even (p + 1)) : NearestPlace x (p + 1) := by
  have next : line (-(p + 1) + 1) = -line p := by
    rw [← line_neg]
    congr 1
    ring
  -- The upper of two neighbours mirrors the lower of their mirror images.
  have mirrored : NearestPlace (-x) (-(p + 1)) := by
    refine nearestPlace_lower ?_ ?_ fun tie => ?_
    · rw [line_neg]
      exact neg_le_neg below
    · rw [line_neg, next]
      linarith
    · rw [line_neg, next] at tie
      exact (even (by linarith)).neg
  have back := mirrored.neg
  rwa [neg_neg, neg_neg] at back

theorem NearestPlace.le_of_le (h : NearestPlace x p) (below : x ≤ line q) : p ≤ q := by
  by_contra above
  have further := line_lt_line (Int.not_le.1 above)
  have least := h.least q
  rw [abs_sub_comm, abs_sub_comm x, abs_of_nonneg (by linarith),
    abs_of_nonneg (by linarith)] at least
  linarith

theorem NearestPlace.le_of_ge (h : NearestPlace x p) (above : line q ≤ x) : q ≤ p := by
  have mirrored := h.neg.le_of_le (q := -q) (by rw [line_neg]; exact neg_le_neg above)
  omega

theorem NearestPlace.mono {y : ℚ} (hx : NearestPlace x p) (hy : NearestPlace y q) (less : x < y) :
    p ≤ q := by
  by_contra crossed
  have apart := line_lt_line (not_le.1 crossed)
  -- Half way between the two places `x` is still above, and `y` still below.
  have above : line p + line q ≤ 2 * x := by
    have nearer := sq_le_sq.2 (hx.least q)
    nlinarith
  have below : 2 * y ≤ line p + line q := by
    have nearer := sq_le_sq.2 (hy.least p)
    nlinarith
  linarith

theorem NearestPlace.eq_of_line (h : NearestPlace (line q) p) : p = q :=
  le_antisymm (h.le_of_le le_rfl) (h.le_of_ge le_rfl)

theorem NearestPlace.eq_of_tie (h : NearestPlace x p) (even : Even q)
    (tie : |x - line q| = |x - line p|) : q = p := by
  by_contra other
  obtain ⟨i, hi⟩ := even
  obtain ⟨k, hk⟩ := h.even q other tie
  have middle : x - line q = -(x - line p) :=
    (abs_eq_abs.1 tie).resolve_left fun eq => other (line_injective (by linarith))
  rcases lt_or_gt_of_ne other with less | greater
  · have lower := line_lt_line (lt_add_one q)
    have upper : line (q + 1) < line p := line_lt_line (by omega)
    refine absurd (h.least (q + 1)) (not_le.2 ?_)
    rw [abs_sub_comm x (line p), abs_of_nonneg (by linarith : 0 ≤ line p - x), abs_lt]
    constructor <;> linarith
  · have lower := line_lt_line (lt_add_one p)
    have upper : line (p + 1) < line q := line_lt_line (by omega)
    refine absurd (h.least (p + 1)) (not_le.2 ?_)
    rw [abs_of_nonneg (by linarith : 0 ≤ x - line p), abs_lt]
    constructor <;> linarith

theorem nearestPlace_line (p : Int) : NearestPlace (line p) p := by
  refine ⟨fun q => ?_, fun q other same => ?_⟩
  · rw [sub_self, abs_zero]
    exact abs_nonneg _
  · rw [sub_self, abs_zero, abs_eq_zero, sub_eq_zero] at same
    exact absurd (line_injective same).symm other

/-! ## Rounding -/

theorem even_grid {j f : Nat} : Even ((j * leadingBit + f : Nat) : Int) ↔ f % 2 = 0 := by
  rw [Int.even_coe_nat, Nat.even_iff]
  simp only [leadingBit]
  omega

section

variable {f t u : ℚ} (unit : 0 < u) (floor : line p = f * u) (ceiling : line (p + 1) = (f + 1) * u)

include floor in
theorem sub_floor : (f + t) * u - line p = t * u := by
  rw [floor]
  ring

include ceiling in
theorem ceiling_sub : line (p + 1) - (f + t) * u = (1 - t) * u := by
  rw [ceiling]
  ring

include unit floor ceiling

theorem nearestPlace_floor (nonneg : 0 ≤ t) (down : 2 * t ≤ 1) (even : 2 * t = 1 → Even p) :
    NearestPlace ((f + t) * u) p := by
  refine nearestPlace_lower ?_ ?_ fun tie => even ?_
  · rw [← sub_nonneg, sub_floor floor]
    exact mul_nonneg nonneg unit.le
  · rw [sub_floor floor, ceiling_sub ceiling]
    exact mul_le_mul_of_nonneg_right (by linarith) unit.le
  · rw [sub_floor floor, ceiling_sub ceiling] at tie
    linarith [mul_right_cancel₀ unit.ne' tie]

theorem nearestPlace_ceiling (le_one : t ≤ 1) (up : 1 ≤ 2 * t) (even : 2 * t = 1 → Even (p + 1)) :
    NearestPlace ((f + t) * u) (p + 1) := by
  refine nearestPlace_upper ?_ ?_ fun tie => even ?_
  · rw [← sub_nonneg, ceiling_sub ceiling]
    exact mul_nonneg (by linarith) unit.le
  · rw [sub_floor floor, ceiling_sub ceiling]
    exact mul_le_mul_of_nonneg_right (by linarith) unit.le
  · rw [sub_floor floor, ceiling_sub ceiling] at tie
    linarith [mul_right_cancel₀ unit.ne' tie]

end

theorem nearestPlace_divNearestEven {n m j : Nat} (positive : 0 < m)
    (normal : j = 0 ∨ leadingBit ≤ n / m) (small : n / m < 2 * leadingBit) :
    NearestPlace ((n : ℚ) / m * 2 ^ ((j : Int) - 1074))
      ((j * leadingBit + divNearestEven n m : Nat) : Int) := by
  have unit : (0 : ℚ) < 2 ^ ((j : Int) - 1074) := zpow_pos two_pos _
  have scale : (0 : ℚ) < m := by exact_mod_cast positive
  have quotient : (n : ℚ) / m = (n / m : Nat) + (n % m : Nat) / m := by
    rw [div_eq_iff scale.ne', add_mul, div_mul_cancel₀ _ scale.ne']
    exact_mod_cast (Nat.div_add_mod' n m).symm
  have twice : 2 * (((n % m : Nat) : ℚ) / m) = (2 * (n % m) : Nat) / m := by
    push_cast
    ring
  have nonneg : (0 : ℚ) ≤ (n % m : Nat) / m := div_nonneg (Nat.cast_nonneg _) scale.le
  have le_one : ((n % m : Nat) : ℚ) / m ≤ 1 := by
    rw [div_le_one scale]
    exact_mod_cast (Nat.mod_lt n positive).le
  have tied (h : 2 * (((n % m : Nat) : ℚ) / m) = 1) : 2 * (n % m) = m := by
    rw [twice, div_eq_one_iff_eq scale.ne'] at h
    exact_mod_cast h
  have next : ((j * leadingBit + (n / m + 1) : Nat) : Int) =
      ((j * leadingBit + n / m : Nat) : Int) + 1 := by push_cast; ring
  have floor : line ((j * leadingBit + n / m : Nat) : Int) =
      ((n / m : Nat) : ℚ) * 2 ^ ((j : Int) - 1074) := by
    rw [line_natCast, size_grid normal small.le]
  have ceiling : line (((j * leadingBit + n / m : Nat) : Int) + 1) =
      (((n / m : Nat) : ℚ) + 1) * 2 ^ ((j : Int) - 1074) := by
    rw [← next, line_natCast, size_grid (normal.imp_right fun h => h.trans (Nat.le_succ _)) small]
    push_cast
    rfl
  have down (h : 2 * (n % m) ≤ m) (even : 2 * (n % m) = m → n / m % 2 = 0) :
      NearestPlace ((n : ℚ) / m * 2 ^ ((j : Int) - 1074))
        ((j * leadingBit + n / m : Nat) : Int) := by
    rw [quotient]
    refine nearestPlace_floor unit floor ceiling nonneg ?_ fun tie => even_grid.2 (even (tied tie))
    rw [twice, div_le_one scale]
    exact_mod_cast h
  have up (h : m ≤ 2 * (n % m)) (even : 2 * (n % m) = m → (n / m + 1) % 2 = 0) :
      NearestPlace ((n : ℚ) / m * 2 ^ ((j : Int) - 1074))
        ((j * leadingBit + (n / m + 1) : Nat) : Int) := by
    rw [quotient, next]
    refine nearestPlace_ceiling unit floor ceiling le_one ?_ fun tie => ?_
    · rw [twice, one_le_div scale]
      exact_mod_cast h
    · rw [← next, even_grid]
      exact even (tied tie)
  simp only [divNearestEven]
  split_ifs with less greater even
  · exact down less.le fun tie => absurd tie less.ne
  · exact up greater.le fun tie => absurd tie greater.ne'
  · exact down (Nat.not_lt.1 greater) fun _ => even
  · exact up (Nat.not_lt.1 less) fun _ => by omega

/-! ## The unit of a fraction -/

theorem shifted_snd_pos (num : Nat) {den : Nat} (positive : 0 < den) (s : Int) :
    0 < (shifted num den s).2 := by
  rw [shifted]
  split
  · exact positive
  · exact Nat.mul_pos positive (Nat.pow_pos two_pos)

theorem shifted_quotient (num den : Nat) (s : Int) :
    ((shifted num den s).1 : ℚ) / (shifted num den s).2 = num / den * 2 ^ s := by
  rw [shifted]
  split
  · rename_i h
    obtain ⟨k, rfl⟩ := Int.eq_ofNat_of_zero_le h
    simp
    ring
  · rename_i h
    obtain ⟨k, hk⟩ := Int.eq_ofNat_of_zero_le (by omega : 0 ≤ -s)
    obtain rfl : s = -k := by omega
    simp [zpow_neg]
    field_simp

theorem log2_bounds {n : Nat} (nonzero : n ≠ 0) :
    (2 : ℚ) ^ (n.log2 : Int) ≤ n ∧ (n : ℚ) < 2 ^ ((n.log2 : Int) + 1) := by
  constructor
  · rw [zpow_natCast]
    exact_mod_cast Nat.log2_self_le nonzero
  · rw [← Int.natCast_succ, zpow_natCast]
    exact_mod_cast Nat.lt_log2_self

theorem fraction_bounds {num den : Nat} (hn : num ≠ 0) (hd : den ≠ 0) :
    (2 : ℚ) ^ ((num.log2 : Int) - den.log2 - 1) ≤ num / den ∧
      (num : ℚ) / den < 2 ^ ((num.log2 : Int) - den.log2 + 1) := by
  have scale : (0 : ℚ) < den := by exact_mod_cast Nat.pos_of_ne_zero hd
  obtain ⟨numLower, numUpper⟩ := log2_bounds hn
  obtain ⟨denLower, denUpper⟩ := log2_bounds hd
  constructor
  · rw [le_div_iff₀ scale]
    calc (2 : ℚ) ^ ((num.log2 : Int) - den.log2 - 1) * den
        ≤ 2 ^ ((num.log2 : Int) - den.log2 - 1) * 2 ^ ((den.log2 : Int) + 1) :=
          mul_le_mul_of_nonneg_left denUpper.le (zpow_pos two_pos _).le
      _ = 2 ^ (num.log2 : Int) := by
          rw [← zpow_add₀ two_ne_zero]
          congr 1
          omega
      _ ≤ num := numLower
  · rw [div_lt_iff₀ scale]
    calc (num : ℚ) < 2 ^ ((num.log2 : Int) + 1) := numUpper
      _ = 2 ^ ((num.log2 : Int) - den.log2 + 1) * 2 ^ (den.log2 : Int) := by
          rw [← zpow_add₀ two_ne_zero]
          congr 1
          omega
      _ ≤ 2 ^ ((num.log2 : Int) - den.log2 + 1) * den :=
          mul_le_mul_of_nonneg_left denLower (zpow_pos two_pos _).le

/-- The fraction lies between two powers of two, and its last bit is 52 places behind the leading
one, or where the last bits of all small doubles are. -/
theorem exists_leading {num den : Nat} (hn : num ≠ 0) (hd : den ≠ 0) :
    ∃ e : Int, lastBit num den = max (e - 52) (-1074) ∧
      (2 : ℚ) ^ e ≤ num / den ∧ (num : ℚ) / den < 2 ^ (e + 1) := by
  obtain ⟨lower, upper⟩ := fraction_bounds hn hd
  have last : lastBit num den =
      max (if (shifted num den (-((num.log2 : Int) - den.log2))).1 <
          (shifted num den (-((num.log2 : Int) - den.log2))).2
        then (num.log2 : Int) - den.log2 - 53 else (num.log2 : Int) - den.log2 - 52) (-1074) := rfl
  have quotient := shifted_quotient num den (-((num.log2 : Int) - den.log2))
  have positive := shifted_snd_pos num (Nat.pos_of_ne_zero hd)
    (-((num.log2 : Int) - den.log2))
  generalize (num.log2 : Int) - den.log2 = d at *
  generalize shifted num den (-d) = s at *
  have compared : s.1 < s.2 ↔ (num : ℚ) / den < 2 ^ d := by
    have scale : (0 : ℚ) < s.2 := by exact_mod_cast positive
    have cast : s.1 < s.2 ↔ (s.1 : ℚ) < s.2 := Nat.cast_lt.symm
    rw [cast, ← div_lt_one scale, quotient, zpow_neg, ← div_eq_mul_inv,
      div_lt_one (zpow_pos two_pos d)]
  split at last
  · rename_i less
    refine ⟨d - 1, by rw [last]; congr 1; omega, lower, ?_⟩
    rw [sub_add_cancel]
    exact compared.1 less
  · rename_i notLess
    exact ⟨d, last, not_lt.1 (mt compared.2 notLess), upper⟩

theorem leadingBit_mul_zpow (e : Int) : (leadingBit : ℚ) * 2 ^ (e - 52) = 2 ^ e := by
  have power : (leadingBit : ℚ) = 2 ^ (52 : Int) := by norm_num [leadingBit]
  rw [power, ← zpow_add₀ two_ne_zero]
  congr 1
  omega

theorem lastBit_bounds {num den : Nat} (hn : num ≠ 0) (hd : den ≠ 0) :
    -1074 ≤ lastBit num den ∧
      (lastBit num den = -1074 ∨ (leadingBit : ℚ) * 2 ^ lastBit num den ≤ num / den) ∧
      (num : ℚ) / den < (2 * leadingBit : Nat) * 2 ^ lastBit num den := by
  obtain ⟨e, last, lower, upper⟩ := exists_leading hn hd
  rw [last]
  refine ⟨le_max_right _ _, ?_, ?_⟩
  · rcases le_total (-1074) (e - 52) with normal | small
    · rw [max_eq_left normal, leadingBit_mul_zpow]
      exact .inr lower
    · exact .inl (max_eq_right small)
  · calc (num : ℚ) / den < 2 ^ (e + 1) := upper
      _ = (2 * leadingBit : Nat) * 2 ^ (e - 52) := by
          rw [zpow_add_one₀ two_ne_zero, ← leadingBit_mul_zpow e]
          push_cast
          ring
      _ ≤ (2 * leadingBit : Nat) * 2 ^ max (e - 52) (-1074) :=
          mul_le_mul_of_nonneg_left (zpow_le_zpow_right₀ one_le_two (le_max_left _ _))
            (Nat.cast_nonneg _)

/-! ## The rounded fraction -/

theorem exists_rounded (num : Nat) {den : Nat} (hd : den ≠ 0) :
    ∃ m : Nat, NearestPlace (num / den) m ∧ ∀ negative,
      ofFraction negative num den = ofMagnitude negative (min m (topField * leadingBit)) := by
  by_cases hn : num = 0
  · refine ⟨0, ?_, fun negative => by rw [ofFraction, if_pos hn]; rfl⟩
    have zero : (num : ℚ) / den = line 0 := by
      rw [hn, Nat.cast_zero, zero_div]
      exact size_zero.symm
    rw [zero]
    exact nearestPlace_line 0
  obtain ⟨low, normal, small⟩ := lastBit_bounds hn hd
  have rounded (negative : Bool) : ofFraction negative num den =
      ofMagnitude negative (min
        ((lastBit num den + 1074).toNat * leadingBit + divNearestEven
          (shifted num den (-lastBit num den)).1 (shifted num den (-lastBit num den)).2)
        (topField * leadingBit)) := by
    rw [ofFraction, if_neg hn]
  have quotient := shifted_quotient num den (-lastBit num den)
  have positive := shifted_snd_pos num (Nat.pos_of_ne_zero hd) (-lastBit num den)
  refine ⟨_, ?_, rounded⟩
  generalize shifted num den (-lastBit num den) = s at *
  generalize lastBit num den = k at *
  obtain ⟨j, rfl⟩ : ∃ j : Nat, k = (j : Int) - 1074 := ⟨(k + 1074).toNat, by omega⟩
  have exponent : ((j : Int) - 1074 + 1074).toNat = j := by omega
  have unit : (0 : ℚ) < 2 ^ ((j : Int) - 1074) := zpow_pos two_pos _
  have scale : (0 : ℚ) < s.2 := by exact_mod_cast positive
  have whole : (num : ℚ) / den = (s.1 : ℚ) / s.2 * 2 ^ ((j : Int) - 1074) := by
    rw [quotient, zpow_neg, inv_mul_cancel_right₀ unit.ne']
  rw [whole] at normal small ⊢
  rw [exponent]
  refine nearestPlace_divNearestEven positive ?_ ?_
  · rcases normal with first | large
    · exact .inl (by omega)
    · have bound := le_of_mul_le_mul_right large unit
      rw [le_div_iff₀ scale] at bound
      exact .inr ((Nat.le_div_iff_mul_le positive).2 (by exact_mod_cast bound))
  · have bound := lt_of_mul_lt_mul_right small unit.le
    rw [div_lt_iff₀ scale] at bound
    exact (Nat.div_lt_iff_lt_mul positive).2 (by exact_mod_cast bound)

theorem place_ofMagnitude {negative : Bool} {m : Nat} (h : m < signBit) :
    (ofMagnitude negative m).place = if negative then -(m : Int) else m := by
  have sign : (ofMagnitude negative m).negative = negative := by
    simp only [ofMagnitude, Double.negative, UInt64.toNat_ofNat', signBit] at h ⊢
    cases negative <;> simp <;> omega
  rw [place, sign, magnitude_ofMagnitude h]

theorem nearestPlace_ofInt {n : Int} (bounded : n.natAbs ≤ 2 ^ 63) :
    (ofInt n).isFinite = true ∧ NearestPlace n (ofInt n).place := by
  obtain ⟨m, nearest, rounded⟩ := exists_rounded n.natAbs one_ne_zero
  rw [Nat.cast_one, div_one] at nearest
  have limit : ((n.natAbs : Nat) : ℚ) ≤ line ((1085 * leadingBit + leadingBit : Nat) : Int) := by
    have power : (leadingBit : ℚ) * 2 ^ (((1085 : Nat) : Int) - 1074) = (2 ^ 63 : Nat) := by
      norm_num [leadingBit]
    rw [line_natCast, size_grid (.inr le_rfl) (by omega), power]
    exact_mod_cast bounded
  have small : m < topField * leadingBit := by
    have : m ≤ 1085 * leadingBit + leadingBit := by exact_mod_cast nearest.le_of_le limit
    simp only [topField, leadingBit] at this ⊢
    omega
  have result : ofInt n = ofMagnitude (n < 0) m := by
    rw [ofInt, rounded, Nat.min_eq_left small.le]
  have range : m < signBit := small.trans (by decide)
  rw [result]
  refine ⟨isFinite_iff.2 ((magnitude_ofMagnitude range).trans_lt small), ?_⟩
  rw [place_ofMagnitude range]
  rcases lt_or_ge n 0 with negative | positive
  · have opposite : (n : ℚ) = -(n.natAbs : Nat) := by
      rw [Nat.cast_natAbs, abs_of_neg negative]
      push_cast
      ring
    rw [if_pos (by simpa using negative), opposite]
    exact nearest.neg
  · have same : (n : ℚ) = (n.natAbs : Nat) := by rw [Nat.cast_natAbs, abs_of_nonneg positive]
    rw [if_neg (by simpa using positive), same]
    exact nearest

/-! ## The nearest double -/

theorem even_mantissa_iff (d : Double) : Even d.mantissa ↔ Even d.place := by
  have parity : Even d.place ↔ Even (d.magnitude : Int) := by
    rw [place]
    split
    · exact even_neg
    · rfl
  rw [parity, Int.even_coe_nat, Nat.even_iff, Nat.even_iff, mantissa]
  split <;> simp only [exponentField, fraction, leadingBit] at * <;> omega

theorem isNearest_iff {r d : Double} (finite : r.isFinite = true)
    (nearest : NearestPlace x r.place) : d.IsNearest x ↔ d.place = r.place := by
  constructor
  · intro h
    by_contra other
    have apart : r.toRat ≠ d.toRat := by
      rw [toRat_eq_line, toRat_eq_line]
      exact fun eq => other (line_injective eq).symm
    have tie : |x - line d.place| = |x - line r.place| := by
      refine le_antisymm ?_ (nearest.least _)
      rw [← toRat_eq_line, ← toRat_eq_line]
      exact h.least r finite
    have even : Even d.place := by
      refine (even_mantissa_iff d).1 (h.even r finite apart ?_)
      rw [toRat_eq_line, toRat_eq_line, tie]
    exact other (nearest.eq_of_tie even tie)
  · intro same
    have finite' : d.isFinite = true := by
      rw [isFinite_iff_place, same, ← isFinite_iff_place, finite]
    refine ⟨finite', fun e _ => ?_, fun e _ other tie => ?_⟩
    · rw [toRat_eq_line, toRat_eq_line, same]
      exact nearest.least _
    · rw [toRat_eq_line, toRat_eq_line, same] at tie
      rw [even_mantissa_iff, same]
      refine nearest.even _ (fun eq => other ?_) tie
      rw [toRat_eq_line, toRat_eq_line, eq, same]

/-! ## Order -/

theorem NearestPlace.lt_atPlace (h : NearestPlace x p) (lower : -lastPlace < p) (less : p < q) :
    Extended.ofRat x < atPlace q := by
  rw [atPlace, if_neg (by omega)]
  split
  · refine Extended.ofRat_lt_ofRat.2 ?_
    by_contra beyond
    exact absurd (h.le_of_ge (not_lt.1 beyond)) (not_le.2 less)
  · exact Extended.ofRat_lt_top x

theorem NearestPlace.atPlace_lt (h : NearestPlace x p) (upper : p < lastPlace) (less : q < p) :
    atPlace q < Extended.ofRat x := by
  rw [atPlace]
  split
  · exact Extended.bot_lt_ofRat _
  · rw [if_pos (less.trans upper)]
    refine Extended.ofRat_lt_ofRat.2 ?_
    by_contra beyond
    exact absurd (h.le_of_le (not_lt.1 beyond)) (not_le.2 less)

/-- A number compares as its rounding with every double but the one that it is rounded to. -/
theorem compare_of_nearest {r d : Double} (finite : r.isFinite = true)
    (nearest : NearestPlace x r.place) (number : d.isNaN = false) (other : d.place ≠ r.place) :
    compare r.place d.place = compare (Extended.ofRat x) d.exact := by
  obtain ⟨lower, upper⟩ := isFinite_iff_place.1 finite
  rw [exact_eq_atPlace number]
  rcases lt_or_gt_of_ne other with less | greater
  · rw [compare_gt_iff_gt.2 less, compare_gt_iff_gt.2 (nearest.atPlace_lt upper less)]
  · rw [compare_lt_iff_lt.2 greater, compare_lt_iff_lt.2 (nearest.lt_atPlace lower greater)]

/-! ## Integers that are doubles -/

theorem exists_size_eq {m : Nat} (small : m ≤ 2 ^ 53) : ∃ p : Nat, size p = m := by
  by_cases zero : m = 0
  · exact ⟨0, by rw [zero, size_zero, Nat.cast_zero]⟩
  have lower := Nat.log2_self_le zero
  have upper := Nat.lt_log2_self (n := m)
  -- The mantissa is `m` moved up until its leading bit is in place.
  obtain ⟨s, hs⟩ : ∃ s, s = 52 - m.log2 := ⟨_, rfl⟩
  have normal : leadingBit ≤ m * 2 ^ s := by
    calc leadingBit ≤ 2 ^ (m.log2 + s) := by
          rw [show leadingBit = 2 ^ 52 from rfl]
          exact Nat.pow_le_pow_right two_pos (by omega)
      _ = 2 ^ m.log2 * 2 ^ s := Nat.pow_add ..
      _ ≤ m * 2 ^ s := Nat.mul_le_mul_right _ lower
  have fits : m * 2 ^ s ≤ 2 * leadingBit := by
    rw [show 2 * leadingBit = 2 ^ 53 from rfl]
    rcases Nat.eq_zero_or_pos s with rfl | positive
    · rwa [Nat.pow_zero, Nat.mul_one]
    · calc m * 2 ^ s ≤ 2 ^ (m.log2 + 1) * 2 ^ s := Nat.mul_le_mul_right _ upper.le
        _ = 2 ^ (m.log2 + 1 + s) := (Nat.pow_add ..).symm
        _ = 2 ^ 53 := by congr 1; omega
  have exponent : ((1074 - s : Nat) : Int) - 1074 = -(s : Int) := by omega
  refine ⟨(1074 - s) * leadingBit + m * 2 ^ s, ?_⟩
  rw [size_grid (.inr normal) fits, exponent, Nat.cast_mul, Nat.cast_pow, Nat.cast_two, zpow_neg,
    zpow_natCast, mul_inv_cancel_right₀ (pow_ne_zero s two_ne_zero)]

theorem exists_line_eq {n : Int} (small : n.natAbs ≤ 2 ^ 53) : ∃ p, line p = n := by
  obtain ⟨p, sized⟩ := exists_size_eq small
  rw [← line_natCast, Nat.cast_natAbs] at sized
  rcases le_total 0 n with positive | negative
  · exact ⟨p, by rw [sized, abs_of_nonneg positive]⟩
  · exact ⟨-p, by rw [line_neg, sized, abs_of_nonpos negative]; push_cast; ring⟩

theorem compare_ofInt {n : Int} (small : n.natAbs ≤ 2 ^ 53) {d : Double}
    (number : d.isNaN = false) :
    compare (ofInt n).place d.place = compare (Extended.ofRat n) d.exact := by
  obtain ⟨finite, nearest⟩ := nearestPlace_ofInt (small.trans (by decide))
  by_cases same : d.place = (ofInt n).place
  · obtain ⟨p, own⟩ := exists_line_eq small
    obtain ⟨lower, upper⟩ := isFinite_iff_place.1 finite
    have here : (ofInt n).place = p := by
      rw [← own] at nearest
      exact nearest.eq_of_line
    rw [compare_eq_iff_eq.2 same.symm, eq_comm, compare_eq_iff_eq, exact_eq_atPlace number, same,
      atPlace_of_inside lower upper, here, own]
  · exact compare_of_nearest finite nearest number same

end QueryFlow.Double
