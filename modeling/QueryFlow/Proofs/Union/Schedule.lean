import QueryFlow.Proofs.Engine.Keeping
import QueryFlow.Proofs.Pipeline.Bursts
import QueryFlow.Proofs.Union.Interleaving

/-!
# Branches in any order

The branches of a union that is taken apart are stepped by a schedule of branch numbers. Whatever
the schedule, each branch adds to the shared buffer what it would add to a buffer of its own.
-/

namespace QueryFlow

/-- The branches of a union that is taken apart, all with the union's consumer. -/
def Source.parts {δ : Type} (next : δ) (qs : List Pipeline) : List (Source δ) :=
  qs.map (.pipe · next)

theorem Source.getElem?_parts {δ : Type} (next : δ) (qs : List Pipeline) (i : Nat) :
    (parts next qs)[i]? = qs[i]?.map (.pipe · next) :=
  List.getElem?_map

theorem Source.set_parts {δ : Type} (next : δ) (qs : List Pipeline) (i : Nat) (q : Pipeline) :
    (parts next qs).set i (.pipe q next) = parts next (qs.set i q) :=
  List.map_set.symm

namespace Engine

/-- Steps branches in the order of a schedule, whatever comes of each step: the results of the
steps, the branches and the engine after them. A number without a branch stands for no step. -/
def stepBranches : List Nat → List (Source SinkId) → Engine →
    List (Except Failure Progress) × List (Source SinkId) × Engine
  | [], branches, g => ([], branches, g)
  | i :: schedule, branches, g =>
    match branches[i]? with
    | none => stepBranches schedule branches g
    | some source =>
      let (result, source, g) := g.step source
      let (results, branches, g) := stepBranches schedule (branches.set i source) g
      (result :: results, branches, g)

def steps : Nat → Source SinkId → Engine → Engine
  | 0, _, g => g
  | n + 1, source, g =>
    let (_, source, g) := g.step source
    steps n source g

theorem step_of_ends {q : Pipeline} (ends : q.step? = none) (sink : SinkId) (g : Engine) :
    g.step (.pipe q sink) = (.ok .done, .pipe q sink, g) := by
  simp only [step, Source.step?, ends]

theorem step_of_keeps {g : Engine} {sink : SinkId} {i : Nat} (keeps : g.Keeps sink i)
    {q q' : Pipeline} {b : Burst} (step : q.step? = some (b, q')) :
    ∃ h, g.step (.pipe q sink) =
        (match b.stream.ending with | none => .ok .continues | some e => .error (.error e),
          .pipe q' sink, h) ∧
      h.Keeps sink i ∧ (h.buffer i).rows.toList = (g.buffer i).rows.toList ++ b.rows := by
  obtain ⟨result, state⟩ := deliver_burst_of_keeps keeps b
  refine ⟨(keepRows i b.rows g).countFilters (b.deliver (push sink) g).tests, ?_, ?_, ?_⟩
  · simp only [Engine.step, Source.step?, step, result, state]
    cases b.stream.ending <;> rfl
  · exact (keeps.keepRows b.rows).flags _ _
  · exact rows_keepRows keeps.holds b.rows

theorem rows_steps {g : Engine} {sink : SinkId} {i : Nat} (keeps : g.Keeps sink i) (n : Nat)
    (q : Pipeline) :
    ((g.steps n (.pipe q sink)).buffer i).rows.toList =
      (g.buffer i).rows.toList ++ q.delivered n := by
  induction n generalizing g q with
  | zero => exact (List.append_nil _).symm
  | succ n ih =>
    unfold steps
    cases step : q.step? with
    | none =>
      rw [step_of_ends step]
      simp only
      rw [ih keeps, Pipeline.delivered_of_ends step, Pipeline.delivered_of_ends step]
    | some front =>
      obtain ⟨b, q'⟩ := front
      obtain ⟨h, stepped, kept, rows⟩ := step_of_keeps keeps step
      rw [stepped]
      simp only
      rw [ih kept, rows, Pipeline.delivered_of_step step, List.append_assoc]

end Engine

/-! ## One list for each branch -/

section

variable {α β : Type} {f : Nat → α → β} {qs : List α} {i : Nat}

theorem mapIdx_count_cons {q : α} (found : qs[i]? = some q) (schedule : List Nat) :
    qs.mapIdx (fun j q => f ((i :: schedule).count j) q) =
      (qs.mapIdx fun j q => f (schedule.count j) q).set i (f (schedule.count i + 1) q) := by
  apply List.ext_getElem?
  intro j
  simp only [List.getElem?_mapIdx, List.getElem?_set, List.length_mapIdx]
  by_cases same : i = j
  · subst same
    obtain ⟨bound, rfl⟩ := List.getElem?_eq_some_iff.1 found
    simp [bound]
  · simp [same]

theorem mapIdx_count_cons_of_none (found : qs[i]? = none) (schedule : List Nat) :
    qs.mapIdx (fun j q => f ((i :: schedule).count j) q) =
      qs.mapIdx fun j q => f (schedule.count j) q := by
  apply List.ext_getElem?
  intro j
  simp only [List.getElem?_mapIdx]
  by_cases same : i = j
  · subst same
    rw [found]
    rfl
  · simp [same]

theorem mapIdx_count_cons_of_eq {q : α} (found : qs[i]? = some q) {schedule : List Nat}
    (idle : f (schedule.count i + 1) q = f (schedule.count i) q) :
    qs.mapIdx (fun j q => f ((i :: schedule).count j) q) =
      qs.mapIdx fun j q => f (schedule.count j) q := by
  obtain ⟨bound, rfl⟩ := List.getElem?_eq_some_iff.1 found
  rw [mapIdx_count_cons found, idle]
  apply List.ext_getElem?
  intro j
  rw [List.getElem?_set]
  split
  · rename_i same
    subst same
    simp [bound]
  · rfl

end

def deliveries (schedule : List Nat) (qs : List Pipeline) : List (List Row) :=
  qs.mapIdx fun i q => q.delivered (schedule.count i)

def remainders (schedule : List Nat) (qs : List Pipeline) : List Pipeline :=
  qs.mapIdx fun i q => q.after (schedule.count i)

def Succeeds (schedule : List Nat) (qs : List Pipeline) : Prop :=
  ∀ (i : Nat) (q : Pipeline), qs[i]? = some q →
    ∀ b ∈ q.bursts (schedule.count i), b.stream.ending = none

theorem remainders_nil (qs : List Pipeline) : remainders [] qs = qs := by
  apply List.ext_getElem?
  intro i
  simp [remainders, Pipeline.after]

variable {qs : List Pipeline} {i : Nat} {q q' : Pipeline} {b : Burst} {schedule : List Nat}

theorem deliveries_of_step (found : qs[i]? = some q) (step : q.step? = some (b, q')) :
    deliveries (i :: schedule) qs =
      (deliveries schedule (qs.set i q')).set i (b.rows ++ q'.delivered (schedule.count i)) := by
  unfold deliveries
  rw [mapIdx_count_cons found, Pipeline.delivered_of_step step, List.mapIdx_set, List.set_set]

theorem remainders_of_step (found : qs[i]? = some q) (step : q.step? = some (b, q')) :
    remainders (i :: schedule) qs = remainders schedule (qs.set i q') := by
  unfold remainders
  rw [mapIdx_count_cons found, Pipeline.after_of_step step, List.mapIdx_set]

theorem succeeds_of_step (found : qs[i]? = some q) (step : q.step? = some (b, q'))
    (first : b.stream.ending = none) (rest : Succeeds schedule (qs.set i q')) :
    Succeeds (i :: schedule) qs := by
  obtain ⟨bound, -⟩ := List.getElem?_eq_some_iff.1 found
  intro j p place
  by_cases same : i = j
  · subst same
    obtain rfl : q = p := Option.some.inj (found.symm.trans place)
    rw [List.count_cons_self, Pipeline.bursts_of_step step, List.forall_mem_cons]
    exact ⟨first, rest i q' (List.getElem?_set_self bound)⟩
  · rw [List.count_cons_of_ne same]
    exact rest j p (by rw [List.getElem?_set_ne same, place])

theorem schedule_of_ends (schedule : List Nat) (found : qs[i]? = some q) (ends : q.step? = none) :
    deliveries (i :: schedule) qs = deliveries schedule qs ∧
      remainders (i :: schedule) qs = remainders schedule qs ∧
      (Succeeds schedule qs → Succeeds (i :: schedule) qs) := by
  refine ⟨?_, ?_, ?_⟩
  · apply mapIdx_count_cons_of_eq found
    rw [Pipeline.delivered_of_ends ends, Pipeline.delivered_of_ends ends]
  · apply mapIdx_count_cons_of_eq found
    rw [Pipeline.after_of_ends ends, Pipeline.after_of_ends ends]
  · intro succeeds j p place
    by_cases same : i = j
    · subst same
      obtain rfl : q = p := Option.some.inj (found.symm.trans place)
      rw [Pipeline.bursts_of_ends ends]
      exact List.forall_mem_nil _
    · rw [List.count_cons_of_ne same]
      exact succeeds j p place

theorem schedule_of_none (schedule : List Nat) (found : qs[i]? = none) :
    deliveries (i :: schedule) qs = deliveries schedule qs ∧
      remainders (i :: schedule) qs = remainders schedule qs ∧
      (Succeeds schedule qs → Succeeds (i :: schedule) qs) := by
  refine ⟨mapIdx_count_cons_of_none found schedule, mapIdx_count_cons_of_none found schedule, ?_⟩
  intro succeeds j p place
  have other : i ≠ j := by
    rintro rfl
    cases found.symm.trans place
  rw [List.count_cons_of_ne other]
  exact succeeds j p place

/-! ## The runs of a schedule -/

namespace Engine

theorem stepBranches_of_keeps {g : Engine} {sink : SinkId} {k : Nat} (keeps : g.Keeps sink k)
    (schedule : List Nat) (qs : List Pipeline) :
    let run := stepBranches schedule (Source.parts sink qs) g
    run.2.2.Keeps sink k ∧
      run.2.1 = Source.parts sink (remainders schedule qs) ∧
      (∃ rows, Interleaves (deliveries schedule qs) rows ∧
        (run.2.2.buffer k).rows.toList = (g.buffer k).rows.toList ++ rows) ∧
      ((∀ r ∈ run.1, ∃ p, r = .ok p) → Succeeds schedule qs) := by
  -- A step replaces its branch, so the branches vary along the schedule as the engine does.
  induction schedule generalizing g qs with
  | nil =>
    refine ⟨keeps, ?_, ⟨[], .nil ?_, (List.append_nil _).symm⟩, ?_⟩
    · simp only [stepBranches, remainders_nil]
    · simp [deliveries, Pipeline.delivered, Pipeline.bursts]
    · intro _ i q _
      exact List.forall_mem_nil _
  | cons i schedule ih =>
    unfold stepBranches
    rw [Source.getElem?_parts]
    cases found : qs[i]? with
    | none =>
      obtain ⟨delivers, remains, succeeds⟩ := schedule_of_none schedule found
      obtain ⟨kept, branches, rows, succeed⟩ := ih keeps qs
      rw [delivers, remains]
      exact ⟨kept, branches, rows, succeeds ∘ succeed⟩
    | some q =>
      simp only [Option.map_some]
      cases step : q.step? with
      | none =>
        obtain ⟨delivers, remains, succeeds⟩ := schedule_of_ends schedule found step
        obtain ⟨kept, branches, rows, succeed⟩ := ih keeps qs
        have stays : qs.set i q = qs := by
          obtain ⟨bound, rfl⟩ := List.getElem?_eq_some_iff.1 found
          exact List.set_getElem_self bound
        rw [step_of_ends step]
        simp only
        rw [Source.set_parts, stays, delivers, remains]
        refine ⟨kept, branches, rows, ?_⟩
        intro ok
        exact succeeds (succeed (List.forall_mem_cons.1 ok).2)
      | some front =>
        obtain ⟨b, q'⟩ := front
        obtain ⟨h, stepped, kept, first⟩ := step_of_keeps keeps step
        obtain ⟨kept, branches, ⟨rows, interleaves, rest⟩, succeed⟩ := ih kept (qs.set i q')
        have bound := (List.getElem?_eq_some_iff.1 found).1
        have place : (deliveries schedule (qs.set i q'))[i]? =
            some (q'.delivered (schedule.count i)) := by
          rw [deliveries, List.getElem?_mapIdx, List.getElem?_set_self bound]
          rfl
        rw [stepped]
        simp only
        rw [Source.set_parts]
        refine ⟨kept, ?_, ⟨b.rows ++ rows, ?_, ?_⟩, ?_⟩
        · rw [branches, remainders_of_step found step]
        · rw [deliveries_of_step found step]
          exact interleaves.prepend place b.rows
        · rw [rest, first, List.append_assoc]
        · intro ok
          obtain ⟨head, tail⟩ := List.forall_mem_cons.1 ok
          refine succeeds_of_step found step ?_ (succeed tail)
          cases h : b.stream.ending with
          | none => rfl
          | some e =>
            obtain ⟨p, failed⟩ := head
            simp only [h] at failed
            cases failed

end Engine

end QueryFlow
