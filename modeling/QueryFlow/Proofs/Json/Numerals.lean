import Mathlib.Data.List.Basic
import Mathlib.Data.List.TakeDrop
import Mathlib.Data.List.TakeWhile
import QueryFlow.Proofs.Json.Scanning

/-!
# Written numbers

An integer that fits the ranges of a plan document reads back as itself. A double is written with
the characters of numbers alone, so that its text is one token.
-/

namespace QueryFlow

/-! ## Integers -/

namespace Json

theorem head_toDigits {n : Nat} (positive : n ≠ 0) : (Nat.toDigits 10 n).head? ≠ some '0' := by
  induction n using Nat.strongRecOn with
  | ind n ih =>
    rw [Nat.toDigits_eq_if (by decide)]
    split
    · rename_i small
      simpa [Nat.digitChar_eq_zero] using positive
    · rw [List.head?_append_of_ne_nil _ Nat.toDigits_ne_nil]
      exact ih (n / 10) (by omega) (by omega)

theorem isDigit_of_mem_toDigits {n : Nat} : ∀ c ∈ Nat.toDigits 10 n, c.isDigit = true :=
  fun _ => Nat.isDigit_of_mem_toDigits (by decide) (by decide)

theorem digits?_of_digits {cs : List Char} (nonempty : cs ≠ [])
    (digits : ∀ c ∈ cs, c.isDigit = true) : digits? cs = some (cs, []) := by
  have all : cs.span Char.isDigit = (cs, []) := by
    rw [List.span_eq_takeWhile_dropWhile, List.takeWhile_eq_self_iff.2 digits,
      List.dropWhile_eq_nil_iff.2 digits]
  rw [digits?, all]
  cases cs with
  | nil => exact absurd rfl nonempty
  | cons c cs => rfl

theorem whole?_toDigits (n : Nat) :
    whole? (Nat.toDigits 10 n) = some (Nat.toDigits 10 n, []) := by
  have digits := digits?_of_digits (Nat.toDigits_ne_nil (n := n)) isDigit_of_mem_toDigits
  rw [whole?, digits]
  split
  · rename_i found
    cases n with
    | zero => cases found
    | succ n =>
      have leading := congrArg (fun r => r.map fun r => r.1.head?) found
      exact absurd (Option.some.inj leading) (head_toDigits (Nat.succ_ne_zero n))
  · rfl

theorem literal?_signed (negative : Bool) (n : Nat) :
    literal? ((if negative then ['-'] else []) ++ Nat.toDigits 10 n) =
      some ⟨negative, Nat.toDigits 10 n, none, none⟩ := by
  cases negative with
  | true =>
    simp only [literal?, if_true, List.singleton_append, whole?_toDigits, Option.bind_eq_bind,
      Option.bind_some]
    rfl
  | false =>
    cases shape : Nat.toDigits 10 n with
    | nil => exact absurd shape Nat.toDigits_ne_nil
    | cons c cs =>
      have digit : c.isDigit = true := isDigit_of_mem_toDigits (n := n) c (by simp [shape])
      have whole := whole?_toDigits n
      rw [shape] at whole
      unfold literal?
      split
      rename_i found
      split at found
      · rename_i sign
        cases sign
        cases digit
      · cases found
        simp only [Bool.false_eq_true, if_false, List.nil_append, whole, Option.bind_eq_bind,
          Option.bind_some]
        rfl

theorem le_ofDigitChars (n : Nat) (cs : List Char) : n ≤ Nat.ofDigitChars 10 cs n := by
  rw [Nat.ofDigitChars_eq_ofDigitChars_zero]
  have power : 0 < 10 ^ cs.length := Nat.pow_pos (by decide)
  exact Nat.le_add_right_of_le (Nat.le_mul_of_pos_left n power)

end Json

namespace Literal

theorem take_eq {n : Nat} {cs : List Char} (small : Nat.ofDigitChars 10 cs n < UInt64.size) :
    Significand.take n cs = (⟨Nat.ofDigitChars 10 cs n, false⟩, cs.length) := by
  induction cs generalizing n with
  | nil => rfl
  | cons c cs ih =>
    rw [Nat.ofDigitChars_cons, Nat.mul_comm] at small ⊢
    have fits := Nat.lt_of_le_of_lt (Json.le_ofDigitChars _ cs) small
    have pushed : Significand.push ⟨n, false⟩ c = ⟨n * 10 + digit c, false⟩ := if_pos fits
    simp only [Significand.take, pushed]
    exact congrArg (fun r : Significand × Nat => (r.1, r.2 + 1)) (ih small)

theorem number?_toDigits {n : Nat} (small : n < UInt64.size) :
    number? ⟨false, Nat.toDigits 10 n, none, none⟩ = some (.int n) := by
  have value := Nat.ofDigitChars_ten_toDigits (n := n)
  simp only [number?, take_eq (value.symm ▸ small), value]
  rfl

theorem number?_toDigits_neg {n : Nat} (positive : 0 < n)
    (small : Int64.minValue.toInt ≤ -(n : Int)) :
    number? ⟨true, Nat.toDigits 10 n, none, none⟩ = some (.int (-n)) := by
  have value := Nat.ofDigitChars_ten_toDigits (n := n)
  have least : Int64.minValue.toInt = -9223372036854775808 := rfl
  have size : UInt64.size = 18446744073709551616 := rfl
  have fits : n < UInt64.size := by omega
  have inside : ¬ (n = 0 ∨ -(n : Int) < Int64.minValue.toInt) := by omega
  simp only [number?, take_eq (value.symm ▸ fits), value, Bool.not_true, Bool.false_eq_true,
    if_false, if_neg inside]

end Literal

namespace Json

theorem scan_signed (negative : Bool) (n : Nat) :
    Token.scan ((if negative then ['-'] else []) ++ Nat.toDigits 10 n) =
      some [.number (Literal.number? ⟨negative, Nat.toDigits 10 n, none, none⟩)] := by
  have digits : ∀ c ∈ Nat.toDigits 10 n, Scanner.isNumberChar c = true := by
    intro c mem
    simp [Scanner.isNumberChar, isDigit_of_mem_toDigits c mem]
  have literal := literal?_signed negative n
  cases negative with
  | true =>
    have scanned := scan_number (.inl rfl) digits
    simp only [if_true, List.singleton_append] at literal ⊢
    rw [scanned, literal]
    rfl
  | false =>
    cases shape : Nat.toDigits 10 n with
    | nil => exact absurd shape Nat.toDigits_ne_nil
    | cons c cs =>
      rw [shape] at digits literal
      have first : c.isDigit = true := isDigit_of_mem_toDigits (n := n) c (by simp [shape])
      have scanned := scan_number (.inr first) (List.forall_mem_cons.1 digits).2
      simp only [Bool.false_eq_true, if_false, List.nil_append] at literal ⊢
      rw [scanned, literal]
      rfl

theorem scan_int {n : Int} (low : Int64.minValue.toInt ≤ n) (high : n < UInt64.size) :
    Token.scan (numberChars (.int n)) = some [.number (some (.int n))] := by
  cases n with
  | ofNat n =>
    have small : n < UInt64.size := Int.ofNat_lt.1 high
    have scanned := scan_signed false n
    rw [Literal.number?_toDigits small] at scanned
    simp only [numberChars, Int.repr, Nat.repr_eq_ofList_toDigits, String.toList_ofList]
    exact scanned
  | negSucc n =>
    have scanned := scan_signed true (n + 1)
    rw [Literal.number?_toDigits_neg (Nat.succ_pos n) low] at scanned
    simp only [numberChars, Int.repr, Nat.repr_eq_ofList_toDigits, String.toList_append,
      String.toList_ofList]
    exact scanned

theorem scan_natCast {n : Nat} (small : n < UInt64.size) :
    Token.scan (numberChars (.int n)) = some [.number (some (.int n))] :=
  scan_int (Int.le_trans (by decide) (Int.natCast_nonneg n)) (Int.ofNat_lt.2 small)

end Json

/-! ## Doubles -/

def IsNumeral (cs : List Char) : Prop :=
  ∃ c rest, cs = c :: rest ∧ c.isDigit = true ∧ ∀ d ∈ rest, Json.Scanner.isNumberChar d = true

namespace IsNumeral

variable {cs ds : List Char}

theorem append (h : IsNumeral cs) (more : ∀ d ∈ ds, Json.Scanner.isNumberChar d = true) :
    IsNumeral (cs ++ ds) := by
  obtain ⟨c, rest, rfl, first, all⟩ := h
  exact ⟨c, rest ++ ds, rfl, first, List.forall_mem_append.2 ⟨all, more⟩⟩

theorem all (h : IsNumeral cs) : ∀ c ∈ cs, Json.Scanner.isNumberChar c = true := by
  obtain ⟨c, rest, rfl, first, all⟩ := h
  exact List.forall_mem_cons.2 ⟨by simp [Json.Scanner.isNumberChar, first], all⟩

theorem of_digits (nonempty : cs ≠ []) (digits : ∀ c ∈ cs, c.isDigit = true) : IsNumeral cs := by
  cases cs with
  | nil => exact absurd rfl nonempty
  | cons c cs =>
    obtain ⟨first, rest⟩ := List.forall_mem_cons.1 digits
    exact ⟨c, cs, rfl, first, fun d mem => by simp [Json.Scanner.isNumberChar, rest d mem]⟩

theorem zeros (n : Nat) : ∀ c ∈ Layout.zeros n, Json.Scanner.isNumberChar c = true := by
  intro c mem
  rw [List.eq_of_mem_replicate mem]
  rfl

end IsNumeral

namespace Layout

variable (l : Layout)

theorem isNumeral_pointed {ds : List Char} (nonempty : ds ≠ [])
    (digits : ∀ c ∈ ds, c.isDigit = true) (point : Int) : IsNumeral (l.pointed ds point) := by
  have all := (IsNumeral.of_digits nonempty digits).all
  unfold pointed
  split
  · have zero : IsNumeral ['0', '.'] := ⟨'0', ['.'], rfl, rfl, List.all_eq_true.1 rfl⟩
    exact (zero.append (IsNumeral.zeros _)).append all
  rename_i positive
  dsimp only
  split
  · refine ((IsNumeral.of_digits nonempty digits).append (IsNumeral.zeros _)).append ?_
    split
    · exact List.all_eq_true.1 rfl
    · exact List.forall_mem_nil _
  · have front : IsNumeral (ds.take point.toNat) := by
      refine .of_digits ?_ fun c mem => digits c (List.mem_of_mem_take mem)
      simp [nonempty]
      omega
    refine front.append (List.forall_mem_cons.2 ⟨rfl, fun c mem => ?_⟩)
    exact all c (List.mem_of_mem_drop mem)

theorem isNumeral_scientific {ds : List Char} (nonempty : ds ≠ [])
    (digits : ∀ c ∈ ds, c.isDigit = true) (e : Int) : IsNumeral (l.scientific ds e) := by
  have all := (IsNumeral.of_digits nonempty digits).all
  have exponent : ∀ c ∈ Nat.toDigits 10 e.natAbs, Json.Scanner.isNumberChar c = true :=
    (IsNumeral.of_digits Nat.toDigits_ne_nil Json.isDigit_of_mem_toDigits).all
  have mark : ∀ c ∈ 'e' :: (if e < 0 then ['-'] else if l.plus then ['+'] else []) ++
      Nat.toDigits 10 e.natAbs, Json.Scanner.isNumberChar c = true := by
    refine List.forall_mem_append.2 ⟨List.forall_mem_cons.2 ⟨rfl, ?_⟩, exponent⟩
    repeat' split
    all_goals exact List.all_eq_true.1 rfl
  cases ds with
  | nil => exact absurd rfl nonempty
  | cons first rest =>
    obtain ⟨digit, -⟩ := List.forall_mem_cons.1 digits
    obtain ⟨-, later⟩ := List.forall_mem_cons.1 all
    cases rest with
    | nil => exact IsNumeral.append ⟨first, [], rfl, digit, List.forall_mem_nil _⟩ mark
    | cons second rest =>
      have whole : IsNumeral (first :: '.' :: second :: rest) :=
        ⟨first, _, rfl, digit, List.forall_mem_cons.2 ⟨rfl, later⟩⟩
      exact whole.append mark

theorem isNumeral_magnitude (d : Decimal) : IsNumeral (l.magnitude d) := by
  unfold magnitude
  split
  · split
    · exact ⟨'0', ['.', '0'], rfl, rfl, List.all_eq_true.1 rfl⟩
    · exact ⟨'0', [], rfl, rfl, List.forall_mem_nil _⟩
  · dsimp only
    split
    · exact isNumeral_pointed l Nat.toDigits_ne_nil Json.isDigit_of_mem_toDigits _
    · exact isNumeral_scientific l Nat.toDigits_ne_nil Json.isDigit_of_mem_toDigits _

end Layout

namespace Json

theorem parse?_compact_eq (j : Json) : parse? j.compact = Token.scan j.chars >>= ofTokens? := by
  rw [parse?, compact, String.toList_ofList]

theorem scan_finite {d : Double} (number : d.isNaN = false) (finite : d.isInfinite = false) :
    ∃ cs, Token.scan (numberChars (.float d)) =
      (literal? cs).map fun l => [.number l.number?] := by
  have numeral :=
    Layout.isNumeral_magnitude Layout.document (Decimal.shortest Layout.document.tie d)
  simp only [numberChars, Layout.render, number, finite, Bool.false_eq_true, if_false,
    String.toList_ofList]
  cases d.negative with
  | true => exact ⟨_, scan_number (.inl rfl) numeral.all⟩
  | false =>
    obtain ⟨c, rest, shape, first, all⟩ := numeral
    rw [shape]
    exact ⟨_, scan_number (.inr first) all⟩

end Json

/-- The text of a double reads back as that double. -/
def Double.ReadsBack (d : Double) : Prop :=
  Json.parse? (Json.number (some (.float d))).compact = some (.number (some (.float d)))

theorem Double.readsBack_iff {d : Double} :
    d.ReadsBack ↔
      ((Json.parse? (Json.number (some (.float d))).compact).bind fun
        | .number n => n
        | _ => none) = some (.float d) := by
  rw [ReadsBack, Option.bind_eq_some_iff]
  constructor
  · exact fun back => ⟨_, back, rfl⟩
  · rintro ⟨j, parsed, value⟩
    rw [parsed]
    cases j with
    | number n =>
      cases value
      rfl
    | null | bool b | text s | array items | object members => cases value

instance (d : Double) : Decidable d.ReadsBack := decidable_of_iff' _ Double.readsBack_iff

namespace Double.ReadsBack

variable {d : Double}

theorem not_special (back : d.ReadsBack) : d.isNaN = false ∧ d.isInfinite = false := by
  rw [ReadsBack, Json.parse?_compact_eq] at back
  simp only [Json.chars, Json.scalarChars, Json.numberChars, Layout.render] at back
  split at back
  · cases back
  · rename_i number
    refine ⟨by simpa using number, ?_⟩
    by_contra infinite
    have refused (negative : Bool) :
        Json.Token.scan ((if negative then ['-'] else []) ++ ['i', 'n', 'f']) = none := by
      cases negative <;> rfl
    simp only [Bool.not_eq_false] at infinite
    simp only [infinite, if_true, String.toList_ofList, refused] at back
    cases back

theorem isFinite (back : d.ReadsBack) : d.isFinite = true := by
  obtain ⟨number, finite⟩ := back.not_special
  unfold isNaN at number
  unfold isInfinite at finite
  unfold Double.isFinite
  by_cases top : d.exponentField = topField
  · by_cases zero : d.fraction = 0 <;> simp [top, zero] at number finite
  · simp [top]

theorem scan (back : d.ReadsBack) :
    Json.Token.scan (Json.numberChars (.float d)) = some [.number (some (.float d))] := by
  obtain ⟨number, finite⟩ := back.not_special
  obtain ⟨cs, scanned⟩ := Json.scan_finite number finite
  rw [ReadsBack, Json.parse?_compact_eq] at back
  simp only [Json.chars, Json.scalarChars, scanned] at back ⊢
  cases literal : Json.literal? cs with
  | none =>
    rw [literal] at back
    cases back
  | some l =>
    rw [literal] at back
    have value : some (Json.number l.number?) = some (.number (some (.float d))) := back
    simp only [Option.some.injEq, Json.number.injEq] at value
    rw [Option.map_some, value]

end Double.ReadsBack

end QueryFlow
