import QueryFlow.Proofs.Schema

/-!
# Acceptance as inclusion

A schema accepts another exactly if it admits every row that the other admits. Completeness needs a
row for every way in which two schemas can differ: a row of samples, with one value replaced.
-/

namespace QueryFlow

def DataType.sample : DataType → Value
  | bool => .bool false
  | int => .int 0
  | float => .float ⟨0⟩
  | string => .string ""
  | bytes => .bytes []

theorem DataType.dataType?_sample (t : DataType) : t.sample.dataType? = some t := by
  cases t <;> rfl

namespace Column

theorem admits_sample (c : Column) : c.admits c.dataType.sample = true :=
  admits_iff.2 (.inr c.dataType.dataType?_sample)

theorem accepts_of_admits {consumer produced : Column}
    (includes : ∀ v, produced.admits v = true → consumer.admits v = true) :
    consumer.accepts produced = true := by
  refine accepts_iff.2 ⟨?_, fun nullable => ?_⟩
  · rcases admits_iff.1 (includes _ produced.admits_sample) with ⟨untyped, -⟩ | type
    · rw [DataType.dataType?_sample] at untyped
      cases untyped
    · rw [DataType.dataType?_sample] at type
      exact (Option.some.inj type).symm
  · rcases admits_iff.1 (includes .null nullable) with ⟨-, nulls⟩ | type
    · exact nulls
    · cases type

end Column

namespace Schema

theorem admits_samples (columns : List Column) :
    List.Forall₂ (fun c v => c.admits v = true) columns (columns.map (·.dataType.sample)) := by
  rw [List.forall₂_map_right_iff, List.forall₂_same]
  exact fun c _ => c.admits_sample

theorem accepts_of_admits {consumer producer : Schema}
    (includes : ∀ row, producer.admits row = true → consumer.admits row = true) :
    consumer.accepts producer = true := by
  obtain ⟨cs⟩ := consumer
  obtain ⟨ps⟩ := producer
  simp only [admits_iff] at includes
  rw [accepts_iff]
  simp only at includes ⊢
  induction ps generalizing cs with
  | nil =>
    cases includes [] .nil
    exact .nil
  | cons p ps ih =>
    cases includes _ (admits_samples (p :: ps)) with
    | @cons c _ cs _ _ _ =>
      refine .cons (Column.accepts_of_admits fun v admits => ?_) (ih cs fun row admits => ?_)
      · -- The other columns hold samples, so that only the first is asked about.
        cases includes _ (.cons admits (admits_samples ps)) with
        | cons h _ => exact h
      · cases includes _ (.cons p.admits_sample admits) with
        | cons _ rest => exact rest

def signature (s : Schema) : List (DataType × Bool) :=
  s.columns.map fun c => (c.dataType, c.nullable)

theorem accepts_iff_signature (consumer producer : Schema) :
    consumer.accepts producer = true ↔
      List.Forall₂ (fun c p => c.1 = p.1 ∧ (p.2 = true → c.2 = true)) consumer.signature
        producer.signature := by
  rw [accepts_iff, signature, signature, List.forall₂_map_left_iff, List.forall₂_map_right_iff]
  simp only [Column.accepts_iff]

theorem accepts_exactly_inclusion :
    (∀ consumer producer : Schema, consumer.accepts producer = true ↔
      ∀ row, producer.admits row = true → consumer.admits row = true) ∧
    (∀ s : Schema, s.accepts s = true) ∧
    (∀ a b c : Schema, a.accepts b = true → b.accepts c = true → a.accepts c = true) ∧
    (∀ a a' b b' : Schema, a.signature = a'.signature → b.signature = b'.signature →
      a.accepts b = a'.accepts b') ∧
    ∀ (consumer producer : Schema) (context context' : String) (rows : List Row),
      consumer.accepts producer = true → producer.checkRows context rows = .ok () →
        consumer.checkRows context' rows = .ok () := by
  refine ⟨fun consumer producer => ⟨fun accepts row => ?_, accepts_of_admits⟩, accepts_refl,
    fun a b c => accepts_trans, ?_, ?_⟩
  · exact admits_of_accepts accepts
  · intro a a' b b' ha hb
    rw [Bool.eq_iff_iff, accepts_iff_signature, accepts_iff_signature, ha, hb]
  · intro consumer producer context context' rows accepts checked
    rw [checkRows_eq_ok] at checked ⊢
    exact fun row mem => admits_of_accepts accepts (checked row mem)

theorem accepts_exactly_inclusion_nullable :
    let wide : Schema := ⟨[⟨"id", .int, false⟩, ⟨"name", .string, true⟩]⟩
    let narrow : Schema := ⟨[⟨"x", .int, false⟩, ⟨"y", .string, false⟩]⟩
    let renamed : Schema := ⟨[⟨"a", .int, false⟩, ⟨"b", .string, true⟩]⟩
    let rows : List Row := [[.int 1, .string "a"], [.int 2, .string ""]]
    wide.accepts narrow = true ∧ wide.admits [.int 1, .null] = true ∧
      narrow.admits [.int 1, .null] = false ∧ narrow.accepts wide = false ∧
      renamed.accepts narrow = wide.accepts narrow ∧ renamed.accepts narrow = true ∧
      narrow.checkRows "table" rows = .ok () ∧ wide.checkRows "rows" rows = .ok () := by
  intro wide narrow renamed rows
  obtain ⟨inclusion, -, trans, names, check⟩ := accepts_exactly_inclusion
  have accepted : wide.accepts narrow = true := by decide
  have checked : narrow.checkRows "table" rows = .ok () := by decide
  have refused : ¬ narrow.accepts wide = true := fun accepts =>
    absurd ((inclusion narrow wide).1 accepts [.int 1, .null] rfl) (by decide)
  exact ⟨accepted, rfl, rfl, Bool.eq_false_iff.2 refused,
    names renamed wide narrow narrow rfl rfl, trans renamed wide narrow rfl accepted, checked,
    check wide narrow "table" "rows" rows accepted checked⟩

end Schema

end QueryFlow
