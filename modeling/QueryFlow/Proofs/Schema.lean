import Mathlib.Data.List.Forall2
import QueryFlow.Schema

/-!
# Rows and schemas

Admission and acceptance go column by column. Acceptance is a preorder along which rows stay
admitted.
-/

namespace QueryFlow

theorem forall₂_iff_all_zip {α β : Type} {as : List α} {bs : List β} {f : α × β → Bool} :
    (as.length == bs.length && (as.zip bs).all f) = true ↔
      List.Forall₂ (fun a b => f (a, b) = true) as bs := by
  rw [List.forall₂_iff_zip, Bool.and_eq_true, beq_iff_eq, List.all_eq_true]
  exact and_congr_right fun _ => ⟨fun h _ _ mem => h _ mem, fun h _ mem => h mem⟩

namespace Column

theorem accepts_iff {consumer produced : Column} :
    consumer.accepts produced = true ↔
      consumer.dataType = produced.dataType ∧
        (produced.nullable = true → consumer.nullable = true) := by
  rw [accepts, Bool.and_eq_true, beq_iff_eq]
  cases consumer.nullable <;> cases produced.nullable <;> simp

theorem admits_iff {c : Column} {v : Value} :
    c.admits v = true ↔
      (v.dataType? = none ∧ c.nullable = true) ∨ v.dataType? = some c.dataType := by
  rw [admits]
  cases v.dataType? <;> simp

theorem accepts_refl (c : Column) : c.accepts c = true :=
  accepts_iff.2 ⟨rfl, id⟩

theorem accepts_trans {a b c : Column} (hab : a.accepts b = true) (hbc : b.accepts c = true) :
    a.accepts c = true := by
  obtain ⟨types, nulls⟩ := accepts_iff.1 hab
  obtain ⟨types', nulls'⟩ := accepts_iff.1 hbc
  exact accepts_iff.2 ⟨types.trans types', nulls ∘ nulls'⟩

theorem admits_of_accepts {consumer produced : Column} {v : Value}
    (accepts : consumer.accepts produced = true) (admits : produced.admits v = true) :
    consumer.admits v = true := by
  obtain ⟨types, nulls⟩ := accepts_iff.1 accepts
  rcases admits_iff.1 admits with ⟨null, nullable⟩ | type
  · exact admits_iff.2 (.inl ⟨null, nulls nullable⟩)
  · exact admits_iff.2 (.inr (types ▸ type))

end Column

namespace Schema

theorem accepts_iff {consumer producer : Schema} :
    consumer.accepts producer = true ↔
      List.Forall₂ (fun c p => c.accepts p = true) consumer.columns producer.columns :=
  forall₂_iff_all_zip

theorem admits_iff {s : Schema} {row : Row} :
    s.admits row = true ↔ List.Forall₂ (fun c v => c.admits v = true) s.columns row := by
  rw [admits, Bool.beq_comm]
  exact forall₂_iff_all_zip

theorem accepts_refl (s : Schema) : s.accepts s = true :=
  accepts_iff.2 (List.forall₂_same.2 fun c _ => c.accepts_refl)

theorem accepts_trans {a b c : Schema} (hab : a.accepts b = true) (hbc : b.accepts c = true) :
    a.accepts c = true := by
  obtain ⟨as⟩ := a
  obtain ⟨bs⟩ := b
  obtain ⟨cs⟩ := c
  rw [accepts_iff] at hab hbc ⊢
  simp only at hab hbc ⊢
  induction hab generalizing cs with
  | nil => exact hbc
  | cons h _ ih =>
    cases hbc with
    | cons h' rest => exact .cons (Column.accepts_trans h h') (ih _ rest)

theorem admits_of_accepts {consumer producer : Schema} {row : Row}
    (accepts : consumer.accepts producer = true) (admits : producer.admits row = true) :
    consumer.admits row = true := by
  obtain ⟨cs⟩ := consumer
  obtain ⟨ps⟩ := producer
  rw [accepts_iff] at accepts
  rw [admits_iff] at admits ⊢
  simp only at accepts admits ⊢
  induction accepts generalizing row with
  | nil => exact admits
  | cons h _ ih =>
    cases admits with
    | cons h' rest => exact .cons (Column.admits_of_accepts h h') (ih rest)

theorem admits_concat {s t : Schema} {left right : Row} (hs : s.admits left = true)
    (ht : t.admits right = true) : (s.concat t).admits (left ++ right) = true := by
  rw [admits_iff] at hs ht ⊢
  exact List.rel_append hs ht

theorem exists_of_admits {s : Schema} {row : Row} {index : Nat} {c : Column}
    (admits : s.admits row = true) (column : s.column? index = some c) :
    ∃ v, row[index]? = some v ∧ c.admits v = true := by
  obtain ⟨cs⟩ := s
  rw [admits_iff] at admits
  rw [column?] at column
  simp only at admits column
  induction admits generalizing index with
  | nil => simp at column
  | @cons d v ds vs h _ ih =>
    cases index with
    | zero =>
      obtain rfl : d = c := by simpa using column
      exact ⟨v, rfl, h⟩
    | succ index => exact ih column

theorem checkRowsFrom_eq_ok {s : Schema} {context : String} {index : Nat} {rows : List Row} :
    s.checkRowsFrom context index rows = .ok () ↔ ∀ row ∈ rows, s.admits row = true := by
  induction rows generalizing index with
  | nil => simp [checkRowsFrom]
  | cons row rows ih =>
    rw [checkRowsFrom, List.forall_mem_cons]
    split
    · rename_i h
      simp [h, ih]
    · rename_i h
      simp [h]

theorem checkRows_eq_ok {s : Schema} {context : String} {rows : List Row} :
    s.checkRows context rows = .ok () ↔ ∀ row ∈ rows, s.admits row = true :=
  checkRowsFrom_eq_ok

theorem checkAccepts_eq_ok {context : String} {consumer producer : Schema} :
    checkAccepts context consumer producer = .ok () ↔ consumer.accepts producer = true := by
  rw [checkAccepts]
  split <;> simp [*]

end Schema

end QueryFlow
