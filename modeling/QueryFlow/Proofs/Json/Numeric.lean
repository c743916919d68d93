import Mathlib.Tactic.SplitIfs
import QueryFlow.Json.Parser
import QueryFlow.Proofs.Double

/-!
# Numbers in documents

No text spells a double that is not a number: the literals have none, and the scanner and the parser
only hand on what literals give.
-/

namespace QueryFlow

theorem foldlM_preserves {α σ : Type} {step : σ → α → Option σ} {P : σ → Prop} {Q : α → Prop}
    (preserves : ∀ s a t, P s → Q a → step s a = some t → P t) {as : List α} (all : ∀ a ∈ as, Q a)
    {s t : σ} (start : P s) (folded : as.foldlM step s = some t) : P t := by
  induction as generalizing s with
  | nil =>
    cases folded
    exact start
  | cons a as ih =>
    rw [List.foldlM_cons] at folded
    obtain ⟨s', first, rest⟩ := Option.bind_eq_some_iff.1 folded
    obtain ⟨ha, has⟩ := List.forall_mem_cons.1 all
    exact ih has (preserves s a s' start ha first) rest

def IsNumeric (n : Option Number) : Prop := ∀ m, n = some m → m.isNaN = false

namespace Json

inductive Numeric : Json → Prop
  | null : Numeric .null
  | bool {b} : Numeric (.bool b)
  | number {n} : IsNumeric n → Numeric (.number n)
  | text {s} : Numeric (.text s)
  | array {items} : (∀ j ∈ items, Numeric j) → Numeric (.array items)
  | object {members} : (∀ m ∈ members, Numeric m.2) → Numeric (.object members)

/-! ## The scanner -/

def Token.Numeric : Token → Prop
  | number n => IsNumeric n
  | _ => True

namespace Scanner

theorem numeric_start {tokens : List Token} {c : Char} {s : Scanner}
    (numeric : ∀ t ∈ tokens, t.Numeric) (h : start tokens c = some s) :
    ∀ t ∈ s.tokens, t.Numeric := by
  have mark (t : Token) (ht : t.Numeric) : ∀ u ∈ t :: tokens, u.Numeric :=
    List.forall_mem_cons.2 ⟨ht, numeric⟩
  have leaf (mode : Mode) {read : List Token} (all : ∀ t ∈ read, t.Numeric) :
      ∀ s ∈ some (Scanner.mk mode read), ∀ t ∈ s.tokens, t.Numeric := by
    rintro _ ⟨⟩
    exact all
  suffices all : ∀ s ∈ start tokens c, ∀ t ∈ s.tokens, t.Numeric from all s h
  unfold start
  iterate 10
    refine iteInduction (motive := fun o : Option Scanner => ∀ s ∈ o, ∀ t ∈ s.tokens, t.Numeric)
      (fun _ => ?_) fun _ => ?_
    · first | exact leaf _ numeric | exact leaf _ (mark _ trivial)
  exact nofun

theorem numeric_word? {cs : List Char} {t : Token} (h : word? cs = some t) : t.Numeric := by
  unfold word? at h
  split at h <;> cases h <;> trivial

theorem numeric_close? {s : Scanner} {tokens : List Token} (numeric : ∀ t ∈ s.tokens, t.Numeric)
    (h : s.close? = some tokens) : ∀ t ∈ tokens, t.Numeric := by
  unfold close? at h
  split at h
  · cases h
    exact numeric
  · obtain ⟨t, word, rfl⟩ := Option.map_eq_some_iff.1 h
    exact List.forall_mem_cons.2 ⟨numeric_word? word, numeric⟩
  · obtain ⟨l, -, rfl⟩ := Option.map_eq_some_iff.1 h
    exact List.forall_mem_cons.2 ⟨fun n => Literal.isNaN_number?, numeric⟩
  all_goals cases h

theorem numeric_step {s u : Scanner} {c : Char} (numeric : ∀ t ∈ s.tokens, t.Numeric)
    (h : s.step c = some u) : ∀ t ∈ u.tokens, t.Numeric := by
  have closed (h : (s.close? >>= fun tokens => start tokens c) = some u) :
      ∀ t ∈ u.tokens, t.Numeric := by
    obtain ⟨tokens, closed, started⟩ := Option.bind_eq_some_iff.1 h
    exact numeric_start (numeric_close? numeric closed) started
  unfold step at h
  split at h
  · exact numeric_start numeric h
  · split at h
    · cases h
      exact numeric
    · exact closed h
  · split at h
    · cases h
      exact numeric
    · exact closed h
  · split_ifs at h <;> cases h
    · exact List.forall_mem_cons.2 ⟨trivial, numeric⟩
    · exact numeric
    · exact numeric
  · split at h
    · cases h
      exact numeric
    · obtain ⟨d, -, rfl⟩ := Option.map_eq_some_iff.1 h
      exact numeric
  · obtain ⟨d, -, rfl⟩ := Option.map_eq_some_iff.1 h
    dsimp only
    split <;> exact numeric

end Scanner

theorem numeric_scan {cs : List Char} {tokens : List Token} (h : Token.scan cs = some tokens) :
    ∀ t ∈ tokens, t.Numeric := by
  simp only [Token.scan, Option.bind_eq_bind, Option.bind_eq_some_iff, Option.pure_def,
    Option.some.injEq] at h
  obtain ⟨s, scanned, read, closed, rfl⟩ := h
  have numeric : ∀ t ∈ s.tokens, t.Numeric :=
    foldlM_preserves (P := fun s : Scanner => ∀ t ∈ s.tokens, t.Numeric) (Q := fun _ => True)
      (fun _ _ _ h _ step => Scanner.numeric_step h step) (fun _ _ => trivial)
      (List.forall_mem_nil _) scanned
  intro t mem
  exact Scanner.numeric_close? numeric closed t (List.mem_reverse.1 mem)

/-! ## The parser -/

def Frame.Numeric : Frame → Prop
  | array items => ∀ j ∈ items, j.Numeric
  | object members | member members _ => ∀ m ∈ members, m.2.Numeric

/-- The open containers hold numbers only, and so does the tree once it is complete. -/
structure Parser.Numeric (p : Parser) : Prop where
  frames : ∀ f ∈ p.frames, f.Numeric
  whole : ∀ j, p.expect = .nothing j → j.Numeric

namespace Parser

theorem numeric_deliver {j : Json} {frames : List Frame} {p : Parser} (hj : j.Numeric)
    (numeric : ∀ f ∈ frames, f.Numeric) (h : deliver j frames = some p) : p.Numeric := by
  unfold deliver at h
  split at h
  · cases h
    refine ⟨nofun, ?_⟩
    rintro _ ⟨⟩
    exact hj
  · cases h
    obtain ⟨items, up⟩ := List.forall_mem_cons.1 numeric
    exact ⟨List.forall_mem_cons.2 ⟨List.forall_mem_cons.2 ⟨hj, items⟩, up⟩, nofun⟩
  · cases h
    obtain ⟨members, up⟩ := List.forall_mem_cons.1 numeric
    exact ⟨List.forall_mem_cons.2 ⟨List.forall_mem_cons.2 ⟨hj, members⟩, up⟩, nofun⟩
  · cases h

theorem numeric_value {frames : List Frame} {t : Token} {p : Parser} (ht : t.Numeric)
    (numeric : ∀ f ∈ frames, f.Numeric) (h : value frames t = some p) : p.Numeric := by
  unfold value at h
  split at h
  · cases h
    exact ⟨List.forall_mem_cons.2 ⟨nofun, numeric⟩, nofun⟩
  · cases h
    exact ⟨List.forall_mem_cons.2 ⟨nofun, numeric⟩, nofun⟩
  · exact numeric_deliver .null numeric h
  · exact numeric_deliver .bool numeric h
  · exact numeric_deliver (.number ht) numeric h
  · exact numeric_deliver .text numeric h
  · cases h

theorem numeric_step {p q : Parser} {t : Token} (ht : t.Numeric) (hp : p.Numeric)
    (h : p.step t = some q) : q.Numeric := by
  obtain ⟨frames, expect⟩ := p
  have numeric : ∀ f ∈ frames, f.Numeric := hp.frames
  unfold step at h
  dsimp only at h
  split at h
  case h_1 =>
    obtain ⟨items, up⟩ := List.forall_mem_cons.1 numeric
    exact numeric_deliver (.array fun j mem => items j (List.mem_reverse.1 mem)) up h
  case h_2 | h_3 => exact numeric_value ht numeric h
  case h_4 =>
    obtain ⟨members, up⟩ := List.forall_mem_cons.1 numeric
    exact numeric_deliver (.object fun m mem => members m (List.mem_reverse.1 mem)) up h
  case h_5 | h_6 =>
    cases h
    exact ⟨numeric, nofun⟩
  case h_7 | h_8 | h_9 =>
    cases h
    obtain ⟨inner, up⟩ := List.forall_mem_cons.1 numeric
    exact ⟨List.forall_mem_cons.2 ⟨inner, up⟩, nofun⟩
  case h_10 =>
    obtain ⟨items, up⟩ := List.forall_mem_cons.1 numeric
    exact numeric_deliver (.array fun j mem => items j (List.mem_reverse.1 mem)) up h
  case h_11 =>
    obtain ⟨members, up⟩ := List.forall_mem_cons.1 numeric
    exact numeric_deliver (.object fun m mem => members m (List.mem_reverse.1 mem)) up h
  case h_12 => cases h

end Parser

theorem numeric_ofTokens? {tokens : List Token} {j : Json} (all : ∀ t ∈ tokens, t.Numeric)
    (h : ofTokens? tokens = some j) : j.Numeric := by
  simp only [ofTokens?, Option.bind_eq_bind, Option.bind_eq_some_iff] at h
  obtain ⟨p, parsed, h⟩ := h
  have numeric : p.Numeric :=
    foldlM_preserves (P := Parser.Numeric) (fun _ _ _ hp ht step => Parser.numeric_step ht hp step)
      all ⟨List.forall_mem_nil _, fun _ whole => by cases whole⟩ parsed
  split at h
  · rename_i whole
    cases h
    exact numeric.whole _ whole
  · cases h

theorem numeric_parse? {text : String} {j : Json} (h : parse? text = some j) : j.Numeric := by
  obtain ⟨tokens, scanned, parsed⟩ := Option.bind_eq_some_iff.1 h
  exact numeric_ofTokens? (numeric_scan scanned) parsed

end Json

end QueryFlow
