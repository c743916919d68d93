import QueryFlow.Proofs.Pipeline.Compiled
import QueryFlow.Proofs.Plan.Compilation
import QueryFlow.Proofs.Stream

/-!
# Streams that fail on rows

A plan over rows in memory and files has a stream that fails, if at all, on a row that cannot be
evaluated. Whatever else is wrong with the plan keeps it from being compiled.
-/

namespace QueryFlow

namespace Stream

def FailsOnRow (t : Stream) : Prop := ∀ e, t.ending = some e → ∃ cause, e = .eval cause

theorem FailsOnRow.of_ending {t : Stream} (h : t.ending = none) : t.FailsOnRow := by
  intro e failed
  cases h.symm.trans failed

theorem FailsOnRow.append {s t : Stream} (hs : s.FailsOnRow) (ht : t.FailsOnRow) :
    (s.append t).FailsOnRow := by
  obtain ⟨rows, _ | e⟩ := s
  · exact ht
  · exact hs

theorem failsOnRow_flatMapRows {f : Row → Stream} {ending : Option Error} {rows : List Row}
    (each : ∀ r, (f r).FailsOnRow) (last : ∀ e, ending = some e → ∃ cause, e = .eval cause) :
    (flatMapRows f ending rows).FailsOnRow := by
  induction rows with
  | nil => exact last
  | cons r rs ih => exact (each r).append ih

theorem FailsOnRow.flatMap {f : Row → Stream} {t : Stream} (h : t.FailsOnRow)
    (each : ∀ r, (f r).FailsOnRow) : (t.flatMap f).FailsOnRow :=
  failsOnRow_flatMapRows each h

theorem failsOnRow_ofItems (rows : List Row) : (ofItems (rows.map .ok)).FailsOnRow := by
  induction rows with
  | nil => exact .of_ending rfl
  | cons r rs ih => exact (FailsOnRow.of_ending rfl).append ih

theorem failsOnRow_selected (predicate : Expr) (r : Row) : (selected predicate r).FailsOnRow := by
  rw [selected_eq]
  rcases predicate.selects r with cause | ⟨⟩ | ⟨⟩
  · rintro _ ⟨⟩
    exact ⟨cause, rfl⟩
  · exact .of_ending rfl
  · exact .of_ending rfl

theorem failsOnRow_computed (fields : List Field) (r : Row) : (computed fields r).FailsOnRow := by
  rw [computed_eq]
  rcases Field.evalAll fields r with cause | out
  · rintro _ ⟨⟩
    exact ⟨cause, rfl⟩
  · exact .of_ending rfl

theorem failsOnRow_paired (condition : Option Expr) (left : Row) (right : List Row) :
    (paired condition left right).FailsOnRow := by
  refine failsOnRow_flatMapRows (fun r => ?_) nofun
  cases condition with
  | none => exact .of_ending rfl
  | some c => exact failsOnRow_selected c (left ++ r)

theorem FailsOnRow.joined {left right : Stream} (hl : left.FailsOnRow) (hr : right.FailsOnRow)
    (condition : Option Expr) : (left.joined condition right).FailsOnRow := by
  obtain ⟨rows, _ | e⟩ := right
  · exact hl.flatMap fun l => failsOnRow_paired condition l rows
  · exact hr

end Stream

/-- The tables that there are: rows in memory and files. -/
inductive Table.Stored : Table → Prop
  | rows {name schema rows t} : Table.ofRows name schema rows = .ok t → Stored t
  | file (path : String) (schema : Schema) : Stored (.ofFile path schema)

theorem Table.Stored.opened {t : Table} (stored : t.Stored) {items : List Item}
    (opened : t.contents = .ok items) : ∃ rows : List Row, items = rows.map .ok := by
  cases stored with
  | @rows name schema rows _ made =>
    simp only [ofRows, check_eq_ok, pure_eq_ok] at made
    obtain ⟨-, rfl⟩ := made
    cases opened
    exact ⟨rows, rfl⟩
  | file path schema => cases opened

namespace Plan

def Stored (p : Plan) : Prop := ∀ t ∈ p.tables, t.Stored

theorem mem_allTables {t : Table} {p : Plan} {ps : List Plan} (mem : p ∈ ps) (h : t ∈ p.tables) :
    t ∈ allTables ps := by
  induction mem with
  | head => exact List.mem_append_left _ h
  | tail _ _ ih => exact List.mem_append_right _ ih

theorem failsOnRow_streamAll {ps : List Plan} (each : ∀ p ∈ ps, p.stream.FailsOnRow) :
    (streamAll ps).FailsOnRow := by
  induction ps with
  | nil => exact .of_ending rfl
  | cons p ps ih =>
    obtain ⟨first, rest⟩ := List.forall_mem_cons.1 each
    exact first.append (ih rest)

theorem Compiled.failsOnRow {consumer : Schema} {p : Plan} {q : Pipeline}
    (compiled : Compiled consumer p q) (stored : p.Stored) : p.stream.FailsOnRow := by
  induction compiled with
  | values => exact .of_ending rfl
  | @scan _ table items _ opened =>
    obtain ⟨rows, rfl⟩ := (stored table List.mem_cons_self).opened opened
    simp only [stream, opened]
    exact Stream.failsOnRow_ofItems rows
  | filter _ _ ih => exact (ih stored).flatMap (Stream.failsOnRow_selected _)
  | project _ _ ih => exact (ih stored).flatMap (Stream.failsOnRow_computed _)
  | union _ length _ ih =>
    refine failsOnRow_streamAll fun p mem => ?_
    obtain ⟨i, place, rfl⟩ := List.mem_iff_getElem.1 mem
    have branch := getElem_mem_zip place (length ▸ place)
    exact ih _ _ branch fun t inTables => stored t (mem_allTables mem inTables)
  | join _ _ _ ihr ihl =>
    have right := ihr fun t mem => stored t (List.mem_append_left _ mem)
    have left := ihl fun t mem => stored t (List.mem_append_right _ mem)
    exact left.joined right _

end Plan

end QueryFlow
