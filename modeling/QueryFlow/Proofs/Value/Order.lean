import QueryFlow.Proofs.Double.Nearest
import QueryFlow.Proofs.Expr.Comparisons

/-!
# The order of numbers

Integers and doubles compare as the exact numbers that they stand for, but for an integer and the
double nearest to it, which are equal. Two integers with the same nearest double are all that keeps
the order from being transitive.
-/

namespace QueryFlow

namespace Value

def number? : Value → Option Extended
  | int n => some (Extended.ofRat n.toInt)
  | float d => if d.isNaN then none else some d.exact
  | _ => none

/-- One of the values is an integer and the other the double nearest to it. -/
def Rounds : Value → Value → Prop
  | int n, float d => d.IsNearest n.toInt
  | float d, int n => d.IsNearest n.toInt
  | _, _ => False

/-- Two integers and the double nearest to both. -/
def Bridges (a b c : Value) : Prop :=
  ∃ m d n, a = int m ∧ b = float d ∧ c = int n ∧ m ≠ n ∧ d.IsNearest m.toInt ∧ d.IsNearest n.toInt

def AtMost (a b : Value) : Prop := a.compare? b = some .lt ∨ a.compare? b = some .eq

theorem number?_float {d : Double} (number : d.isNaN = false) :
    (float d).number? = some d.exact :=
  if_neg (Bool.eq_false_iff.1 number)

theorem number?_cases {a : Value} {x : Extended} (h : a.number? = some x) :
    (∃ n, a = int n ∧ x = Extended.ofRat n.toInt) ∨
      ∃ d, a = float d ∧ d.isNaN = false ∧ x = d.exact := by
  cases a with
  | int n => exact .inl ⟨n, rfl, (Option.some.inj h).symm⟩
  | float d =>
    rw [number?] at h
    split at h
    · cases h
    · rename_i number
      exact .inr ⟨d, rfl, Bool.eq_false_iff.2 number, (Option.some.inj h).symm⟩
  | _ => cases h

theorem natAbs_toInt_le (n : Int64) : n.toInt.natAbs ≤ 2 ^ 63 := by
  have lower := n.le_toInt
  have upper := n.toInt_lt
  omega

theorem compare_cast (m n : Int) :
    compare (Extended.ofRat m) (Extended.ofRat n) = compare m n := by
  have ordered {m n : Int} (h : m < n) : Extended.ofRat m < Extended.ofRat n :=
    Extended.ofRat_lt_ofRat.2 (Int.cast_lt.2 h)
  rcases lt_trichotomy m n with less | rfl | greater
  · rw [compare_lt_iff_lt.2 less, compare_lt_iff_lt.2 (ordered less)]
  · rw [compare_eq_iff_eq.2 rfl, compare_eq_iff_eq.2 rfl]
  · rw [compare_gt_iff_gt.2 greater, compare_gt_iff_gt.2 (ordered greater)]

theorem compare?_int_float (n : Int64) {d : Double} (number : d.isNaN = false) :
    (int n).compare? (float d) = some (compare (Double.ofInt n.toInt).place d.place) :=
  Double.compare?_of_number (Double.isNaN_ofInt _) number

theorem compare?_float_int (n : Int64) {d : Double} (number : d.isNaN = false) :
    (float d).compare? (int n) = some (compare d.place (Double.ofInt n.toInt).place) :=
  Double.compare?_of_number number (Double.isNaN_ofInt _)

theorem isNearest_iff_place (n : Int64) {d : Double} :
    d.IsNearest n.toInt ↔ d.place = (Double.ofInt n.toInt).place := by
  obtain ⟨finite, nearest⟩ := Double.nearestPlace_ofInt (natAbs_toInt_le n)
  exact Double.isNearest_iff finite nearest

/-! ## Exact numbers -/

variable {a b c : Value} {x y z : Extended}

theorem compare?_of_rounds (ha : a.number? = some x) (hb : b.number? = some y)
    (rounds : Rounds a b) : a.compare? b = some .eq := by
  rcases number?_cases ha with ⟨n, rfl, -⟩ | ⟨d, rfl, number, -⟩
  · rcases number?_cases hb with ⟨m, rfl, -⟩ | ⟨e, rfl, number, -⟩
    · cases rounds
    · rw [compare?_int_float n number, compare_eq_iff_eq.2 ((isNearest_iff_place n).1 rounds).symm]
  · rcases number?_cases hb with ⟨m, rfl, -⟩ | ⟨e, rfl, -, -⟩
    · rw [compare?_float_int m number, compare_eq_iff_eq.2 ((isNearest_iff_place m).1 rounds)]
    · cases rounds

theorem compare_of_not_nearest {n : Int64} {d : Double} (number : d.isNaN = false)
    (other : ¬ d.IsNearest n.toInt) :
    compare (Double.ofInt n.toInt).place d.place =
      compare (Extended.ofRat n.toInt) d.exact := by
  obtain ⟨finite, nearest⟩ := Double.nearestPlace_ofInt (natAbs_toInt_le n)
  exact Double.compare_of_nearest finite nearest number (mt (isNearest_iff_place n).2 other)

theorem compare?_of_not_rounds (ha : a.number? = some x) (hb : b.number? = some y)
    (apart : ¬ Rounds a b) : a.compare? b = some (compare x y) := by
  rcases number?_cases ha with ⟨n, rfl, rfl⟩ | ⟨d, rfl, hd, rfl⟩
  · rcases number?_cases hb with ⟨m, rfl, rfl⟩ | ⟨e, rfl, he, rfl⟩
    · rw [compare_cast, compare?]
    · rw [compare?_int_float n he, compare_of_not_nearest he apart]
  · rcases number?_cases hb with ⟨m, rfl, rfl⟩ | ⟨e, rfl, he, rfl⟩
    · rw [(int m).compare?_swap (float d), compare?_int_float m hd, compare_of_not_nearest hd apart,
        Option.map_some, ← Std.OrientedOrd.eq_swap]
    · exact Double.compare?_eq_exact hd he

theorem compare?_of_small {n : Int64} (small : n.toInt.natAbs ≤ 2 ^ 53) {d : Double}
    (number : d.isNaN = false) :
    (int n).compare? (float d) = some (compare (Extended.ofRat n.toInt) d.exact) := by
  rw [compare?_int_float n number, Double.compare_ofInt small number]

/-! ## Transitivity -/

theorem atMost_iff {α : Type} [LinearOrder α] {p q : α} (h : a.compare? b = some (compare p q)) :
    AtMost a b ↔ p ≤ q := by
  rw [AtMost, h, Option.some.injEq, Option.some.injEq, compare_lt_iff_lt, compare_eq_iff_eq,
    le_iff_lt_or_eq]

def rank : Value → Int
  | int n => (Double.ofInt n.toInt).place
  | float d => d.place
  | _ => 0

theorem rank_mono {m n : Int64} (h : m.toInt ≤ n.toInt) : (int m).rank ≤ (int n).rank := by
  rcases h.eq_or_lt with same | less
  · rw [rank, rank, same]
  · exact (Double.nearestPlace_ofInt (natAbs_toInt_le m)).2.mono
      (Double.nearestPlace_ofInt (natAbs_toInt_le n)).2 (Int.cast_lt.2 less)

theorem compare?_rank (ha : a.number? = some x) (hb : b.number? = some y)
    (mixed : ∀ m n, a = int m → b ≠ int n) : a.compare? b = some (compare a.rank b.rank) := by
  rcases number?_cases ha with ⟨n, rfl, -⟩ | ⟨d, rfl, hd, -⟩
  · rcases number?_cases hb with ⟨m, rfl, -⟩ | ⟨e, rfl, he, -⟩
    · exact absurd rfl (mixed n m rfl)
    · exact compare?_int_float n he
  · rcases number?_cases hb with ⟨m, rfl, -⟩ | ⟨e, rfl, he, -⟩
    · exact compare?_float_int m hd
    · exact Double.compare?_of_number hd he

theorem AtMost.rank_le (h : AtMost a b) (ha : a.number? = some x) (hb : b.number? = some y) :
    a.rank ≤ b.rank := by
  by_cases mixed : ∀ m n, a = int m → b ≠ int n
  · exact (atMost_iff (compare?_rank ha hb mixed)).1 h
  · simp only [not_forall, not_not] at mixed
    obtain ⟨m, n, rfl, rfl⟩ := mixed
    exact rank_mono ((atMost_iff rfl).1 h)

theorem exists_order (ha : a.number? = some x) (hb : b.number? = some y) :
    ∃ o, a.compare? b = some o := by
  by_cases rounds : Rounds a b
  · exact ⟨_, compare?_of_rounds ha hb rounds⟩
  · exact ⟨_, compare?_of_not_rounds ha hb rounds⟩

theorem atMost_total (ha : a.number? = some x) (hb : b.number? = some y) :
    AtMost a b ∨ AtMost b a := by
  obtain ⟨o, compared⟩ := exists_order ha hb
  have turned := a.compare?_swap b
  rw [compared] at turned
  cases o with
  | lt => exact .inl (.inl compared)
  | eq => exact .inl (.inr compared)
  | gt => exact .inr (.inl turned)

theorem compare?_eq_iff : a.compare? b = some .eq ↔ AtMost a b ∧ AtMost b a := by
  have turned := a.compare?_swap b
  refine ⟨fun same => ⟨.inr same, .inr (by rw [turned, same]; rfl)⟩, ?_⟩
  rintro ⟨less | same, back⟩
  · rw [less] at turned
    rcases back with h | h <;> rw [turned] at h <;> cases h
  · exact same

theorem AtMost.trans (hab : AtMost a b) (hbc : AtMost b c) (ha : a.number? = some x)
    (hb : b.number? = some y) (hc : c.number? = some z) : AtMost a c ∨ Bridges a b c := by
  have lower := hab.rank_le ha hb
  have upper := hbc.rank_le hb hc
  by_cases mixed : ∀ m n, a = int m → c ≠ int n
  · exact .inl ((atMost_iff (compare?_rank ha hc mixed)).2 (lower.trans upper))
  · simp only [not_forall, not_not] at mixed
    obtain ⟨m, n, rfl, rfl⟩ := mixed
    rcases number?_cases hb with ⟨k, rfl, -⟩ | ⟨d, rfl, number, -⟩
    · exact .inl ((atMost_iff rfl).2 (((atMost_iff rfl).1 hab).trans ((atMost_iff rfl).1 hbc)))
    · by_cases ordered : m.toInt ≤ n.toInt
      · exact .inl ((atMost_iff rfl).2 ordered)
      · -- Rounding keeps the order, so that the three have one place.
        have back := rank_mono (not_le.1 ordered).le
        refine .inr ⟨m, d, n, rfl, rfl, rfl, fun same => ordered (same ▸ le_rfl), ?_, ?_⟩
        · exact (isNearest_iff_place m).2 (le_antisymm (upper.trans back) lower)
        · exact (isNearest_iff_place n).2 (le_antisymm upper (back.trans lower))

theorem Bridges.symm (h : Bridges a b c) : Bridges c b a := by
  obtain ⟨m, d, n, ha, hb, hc, apart, left, right⟩ := h
  exact ⟨n, d, m, hc, hb, ha, apart.symm, right, left⟩

theorem compare?_eq_trans (hab : a.compare? b = some .eq) (hbc : b.compare? c = some .eq)
    (ha : a.number? = some x) (hb : b.number? = some y) (hc : c.number? = some z) :
    a.compare? c = some .eq ∨ Bridges a b c := by
  rw [compare?_eq_iff] at hab hbc ⊢
  rcases hab.1.trans hbc.1 ha hb hc with there | bridge
  · rcases hbc.2.trans hab.2 hc hb ha with back | bridge
    · exact .inl ⟨there, back⟩
    · exact .inr bridge.symm
  · exact .inr bridge

/-! ## The order -/

theorem compares_up_to_rounding :
    (∀ (a b : Value) (x y : Extended), a.number? = some x → b.number? = some y →
      (Rounds a b → a.compare? b = some .eq) ∧
      (¬ Rounds a b → a.compare? b = some (compare x y)) ∧
      (AtMost a b ∨ AtMost b a)) ∧
    (∀ (n : Int64) (d : Double), n.toInt.natAbs ≤ 2 ^ 53 → d.isNaN = false →
      (int n).compare? (float d) = some (compare (Extended.ofRat n.toInt) d.exact) ∧
      (float d).compare? (int n) = some (compare d.exact (Extended.ofRat n.toInt))) ∧
    ∀ (a b c : Value) (x y z : Extended),
      a.number? = some x → b.number? = some y → c.number? = some z →
      (a.compare? b = some .eq → b.compare? c = some .eq →
        a.compare? c = some .eq ∨ Bridges a b c) ∧
      (AtMost a b → AtMost b c → AtMost a c ∨ Bridges a b c) := by
  refine ⟨fun a b x y ha hb => ?_, fun n d small number => ?_, fun a b c x y z ha hb hc => ?_⟩
  · exact ⟨compare?_of_rounds ha hb, compare?_of_not_rounds ha hb, atMost_total ha hb⟩
  · have exact := compare?_of_small small number
    refine ⟨exact, ?_⟩
    rw [(int n).compare?_swap (float d), exact, Option.map_some, ← Std.OrientedOrd.eq_swap]
  · exact ⟨fun hab hbc => compare?_eq_trans hab hbc ha hb hc,
      fun hab hbc => hab.trans hbc ha hb hc⟩

theorem compares_up_to_rounding_halfway :
    let below : Double := ⟨0x4340000000000000⟩
    let above : Double := ⟨0x4340000000000001⟩
    let half : Double := ⟨0x3fe0000000000000⟩
    Rounds (int 9007199254740993) (float below) ∧
      (int 9007199254740993).compare? (float below) = some .eq ∧
      ¬ Rounds (int 9007199254740993) (float above) ∧
      (int 9007199254740993).compare? (float above) =
        some (compare (Extended.ofRat 9007199254740993) above.exact) ∧
      (float half).compare? (int 1) = some (compare half.exact (Extended.ofRat 1)) ∧
      AtMost (int 0) (float half) ∧ AtMost (float half) (int 1) ∧ AtMost (int 0) (int 1) := by
  intro below above half
  obtain ⟨pair, small, chain⟩ := compares_up_to_rounding
  have near : Rounds (int 9007199254740993) (float below) :=
    (isNearest_iff_place _).2 (by decide +kernel)
  have far : ¬ Rounds (int 9007199254740993) (float above) :=
    fun rounds => absurd ((isNearest_iff_place _).1 rounds) (by decide +kernel)
  have lower : AtMost (int 0) (float half) := .inl (by decide +kernel)
  have upper : AtMost (float half) (int 1) := .inl (by decide +kernel)
  have number : half.isNaN = false := by decide +kernel
  have isBelow : (float below).number? = some below.exact := number?_float (by decide +kernel)
  have isAbove : (float above).number? = some above.exact := number?_float (by decide +kernel)
  have through : AtMost (int 0) (int 1) := by
    have steps := chain (int 0) (float half) (int 1) _ _ _ rfl (number?_float number) rfl
    refine (steps.2 lower upper).resolve_right ?_
    rintro ⟨m, d, n, ⟨⟩, ⟨⟩, ⟨⟩, -, nearest, -⟩
    exact absurd ((isNearest_iff_place _).1 nearest) (by decide +kernel)
  exact ⟨near, (pair _ _ _ _ rfl isBelow).1 near, far, (pair _ _ _ _ rfl isAbove).2.1 far,
    (small 1 half (by decide) number).2, lower, upper, through⟩

/-- Two integers that differ, both equal to one double. -/
theorem equal_beyond_53_bits :
    let m : Value := int 9007199254740993
    let d : Value := float ⟨0x4340000000000000⟩
    let n : Value := int 9007199254740992
    m.number? = some (Extended.ofRat 9007199254740993) ∧
      d.number? = some (Extended.ofRat 9007199254740992) ∧
      compare (Extended.ofRat 9007199254740993) (Extended.ofRat 9007199254740992) = .gt ∧
      m.compare? d = some .eq ∧ d.compare? n = some .eq ∧ m.compare? n = some .gt := by
  intro m d n
  have stands : d.number? = some (Extended.ofRat 9007199254740992) := by
    have mantissa : Double.mantissa ⟨0x4340000000000000⟩ = 4503599627370496 := by decide +kernel
    have exponent : Double.exponent ⟨0x4340000000000000⟩ = 1 := by decide +kernel
    have finite : Double.exact ⟨0x4340000000000000⟩ =
        Extended.ofRat (Double.toRat ⟨0x4340000000000000⟩) := if_pos (by decide +kernel)
    have number : Double.toRat ⟨0x4340000000000000⟩ = 9007199254740992 := by
      rw [Double.toRat, if_neg (by decide +kernel), mantissa, exponent]
      norm_num
    rw [number?_float (by decide +kernel), finite, number]
  exact ⟨rfl, stands, compare_cast 9007199254740993 9007199254740992, by decide +kernel,
    by decide +kernel, by decide +kernel⟩

end Value

end QueryFlow
