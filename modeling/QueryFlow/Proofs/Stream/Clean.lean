import QueryFlow.Proofs.Expr.Soundness
import QueryFlow.Proofs.Plan.Built
import QueryFlow.Proofs.Stream

/-!
# Streams without failure

A built plan whose tables open, whose data fit their schemas and whose doubles are numbers has a
stream that does not fail.
-/

namespace QueryFlow

structure Schema.Fits (schema : Schema) (r : Row) : Prop where
  admits : schema.admits r = true
  numeric : Row.Numeric r

namespace Stream

structure Clean (schema : Schema) (t : Stream) : Prop where
  rows : ∀ r ∈ t.rows, schema.Fits r
  ending : t.ending = none

variable {schema : Schema}

theorem Clean.nil : Clean schema nil := ⟨List.forall_mem_nil _, rfl⟩

theorem Clean.single {r : Row} (h : schema.Fits r) : Clean schema (single r) :=
  ⟨List.forall_mem_singleton.2 h, rfl⟩

theorem Clean.append {s t : Stream} (hs : Clean schema s) (ht : Clean schema t) :
    Clean schema (s.append t) := by
  obtain ⟨rows, ending⟩ := s
  obtain rfl : ending = none := hs.ending
  exact ⟨List.forall_mem_append.2 ⟨hs.rows, ht.rows⟩, ht.ending⟩

theorem Clean.widen {consumer : Schema} {t : Stream} (h : Clean schema t)
    (accepts : consumer.accepts schema = true) : Clean consumer t where
  rows r mem := ⟨Schema.admits_of_accepts accepts (h.rows r mem).admits, (h.rows r mem).numeric⟩
  ending := h.ending

theorem clean_flatMapRows {f : Row → Stream} {rows : List Row}
    (each : ∀ r ∈ rows, Clean schema (f r)) : Clean schema (flatMapRows f none rows) := by
  induction rows with
  | nil => exact .nil
  | cons r rs ih =>
    obtain ⟨first, rest⟩ := List.forall_mem_cons.1 each
    exact first.append (ih rest)

theorem Clean.flatMap {s : Schema} {t : Stream} {f : Row → Stream} (h : Clean s t)
    (each : ∀ r, s.Fits r → Clean schema (f r)) : Clean schema (t.flatMap f) := by
  rw [Stream.flatMap, h.ending]
  exact clean_flatMapRows fun r mem => each r (h.rows r mem)

theorem clean_ofItems {rows : List Row} (fit : ∀ r ∈ rows, schema.Fits r) :
    Clean schema (ofItems (rows.map .ok)) := by
  induction rows with
  | nil => exact .nil
  | cons r rs ih =>
    obtain ⟨first, rest⟩ := List.forall_mem_cons.1 fit
    exact (Clean.single first).append (ih rest)

theorem clean_selected {predicate : Expr} {r : Row}
    (checked : predicate.checkPredicate schema = .ok ()) (numeric : predicate.Numeric)
    (fits : schema.Fits r) : Clean schema (selected predicate r) := by
  have sound := Expr.sound_selects checked fits.admits
    (fun v mem => Bool.eq_false_iff.1 (fits.numeric v mem))
    (fun v mem => Bool.eq_false_iff.1 (numeric v mem))
  rw [selected_eq]
  rcases sound with ⟨b, selects⟩ | ⟨_, _, _, -, h⟩
  · rw [selects]
    cases b with
    | true => exact .single fits
    | false => exact .nil
  · exact h.elim

theorem clean_computed {fields : List Field} {columns : List Column} {r : Row}
    (derived : fields.mapM (fun f => f.column schema) = .ok columns)
    (numeric : ∀ f ∈ fields, f.expr.Numeric) (fits : schema.Fits r) :
    Clean ⟨columns⟩ (computed fields r) := by
  have sound := Field.sound_evalAll derived fits.admits
    (fun v mem => Bool.eq_false_iff.1 (fits.numeric v mem))
    (fun f hf v mem => Bool.eq_false_iff.1 (numeric f hf v mem))
  rw [computed_eq]
  rcases sound with ⟨out, evaluated, admits, numbers⟩ | ⟨_, _, _, -, h⟩
  · rw [evaluated]
    exact .single ⟨admits, fun v mem => Bool.eq_false_iff.2 (numbers v mem)⟩
  · exact h.elim

theorem fits_concat {s t : Schema} {left right : Row} (hl : s.Fits left) (hr : t.Fits right) :
    (s.concat t).Fits (left ++ right) where
  admits := Schema.admits_concat hl.admits hr.admits
  numeric := List.forall_mem_append.2 ⟨hl.numeric, hr.numeric⟩

theorem clean_joined {condition : Option Expr} {s t : Schema} {left right : Stream}
    (checked : ∀ c, condition = some c → c.checkPredicate (s.concat t) = .ok ())
    (numeric : ∀ c, condition = some c → c.Numeric) (hl : Clean s left) (hr : Clean t right) :
    Clean (s.concat t) (left.joined condition right) := by
  unfold joined
  rw [hr.ending]
  refine hl.flatMap fun l fitl => clean_flatMapRows fun r mem => ?_
  have fits := fits_concat fitl (hr.rows r mem)
  cases condition with
  | none => exact .single fits
  | some c => exact clean_selected (checked c rfl) (numeric c rfl) fits

end Stream

namespace Plan

/-- The plans whose tables open and give no errors, and whose rows and constants fit. -/
inductive Clean : Plan → Prop
  | values {schema tuples convention} : (∀ r ∈ tuples, schema.Fits r) →
      Clean (.values schema tuples convention)
  | scan {table} {rows : List Row} : table.contents = .ok (rows.map .ok) →
      (∀ r ∈ rows, table.schema.Fits r) → Clean (.scan table)
  | filter {predicate input} : predicate.Numeric → Clean input → Clean (.filter predicate input)
  | project {schema fields input} : (∀ f ∈ fields, f.expr.Numeric) → Clean input →
      Clean (.project schema fields input)
  | union {schema all inputs} : (∀ p ∈ inputs, Clean p) → Clean (.union schema all inputs)
  | join {condition left right} : (∀ c, condition = some c → c.Numeric) → Clean left →
      Clean right → Clean (.join condition left right)

theorem clean_streamAll {schema : Schema} {ps : List Plan}
    (each : ∀ p ∈ ps, Stream.Clean schema p.stream) : Stream.Clean schema (streamAll ps) := by
  induction ps with
  | nil => exact .nil
  | cons p ps ih =>
    obtain ⟨first, rest⟩ := List.forall_mem_cons.1 each
    exact first.append (ih rest)

theorem Clean.stream {p : Plan} (clean : p.Clean) (typed : p.Typed) :
    Stream.Clean p.schema p.stream := by
  induction clean with
  | values fits => exact ⟨fits, rfl⟩
  | scan opened fits =>
    simp only [Plan.stream, opened]
    exact Stream.clean_ofItems fits
  | filter numeric _ ih =>
    cases typed with
    | filter input _ checked =>
      exact (ih input).flatMap fun r => Stream.clean_selected checked numeric
  | project numeric _ ih =>
    cases typed with
    | project input _ derived =>
      exact (ih input).flatMap fun r => Stream.clean_computed derived numeric
  | union _ ih =>
    cases typed with
    | union inputs _ accepts =>
      exact clean_streamAll fun p mem => (ih p mem (inputs p mem)).widen (accepts p mem)
  | join numeric _ _ ihl ihr =>
    cases typed with
    | join left right _ _ checked =>
      exact Stream.clean_joined checked numeric (ihl left) (ihr right)

end Plan

end QueryFlow
