import QueryFlow.Pipeline

/-!
# The rules of a step

The steps of a pipeline as rules, one for each way to move. Everything that holds of all steps is
proved by induction on them.
-/

namespace QueryFlow.Pipeline

/-- The pipelines that are at the end of their data. A join that collects is never at its end. -/
inductive Ends : Pipeline → Prop
  | values : Ends (.values [])
  | scan : Ends (.scan [])
  | filter {schema predicate input} : Ends input → Ends (.filter schema predicate input)
  | project {schema fields input} : Ends input → Ends (.project schema fields input)
  | union {branches} : (∀ p ∈ branches, Ends p) → Ends (.union branches)
  | probe {leftSchema condition collected left} : Ends left →
      Ends (.probe leftSchema condition collected left)

/-- `Steps p b q`: one step leads from `p` to `q` and gives the burst `b`. A union forgets the
branches that it finds at their end. -/
inductive Steps : Pipeline → Burst → Pipeline → Prop
  | values {r pending} : Steps (.values (r :: pending)) (.row r .quiet) (.values pending)
  | item {r pending} : Steps (.scan (.ok r :: pending)) (.row r .quiet) (.scan pending)
  | fault {e pending} : Steps (.scan (.error e :: pending)) (.failed e) (.scan pending)
  | filter {schema predicate input b input'} : Steps input b input' →
      Steps (.filter schema predicate input) (b.bind (keep schema predicate))
        (.filter schema predicate input')
  | project {schema fields input b input'} : Steps input b input' →
      Steps (.project schema fields input) (b.bind (compute schema fields))
        (.project schema fields input')
  | union {done p b q rest} : (∀ p ∈ done, Ends p) → Steps p b q →
      Steps (.union (done ++ p :: rest)) b (.union (q :: rest))
  | collect {rightSchema leftSchema condition collected right left b right'} :
      Steps right b right' →
      Steps (.build rightSchema leftSchema condition collected right left)
        (b.bind (store rightSchema))
        (.build rightSchema leftSchema condition (collected ++ b.rows.toArray) right' left)
  | turn {rightSchema leftSchema condition collected right left} : Ends right →
      Steps (.build rightSchema leftSchema condition collected right left) .quiet
        (.probe leftSchema condition collected left)
  | probe {leftSchema condition collected left b left'} : Steps left b left' →
      Steps (.probe leftSchema condition collected left)
        (b.bind (probeWith leftSchema condition collected.toList))
        (.probe leftSchema condition collected left')

mutual

theorem ends_of_step? (p : Pipeline) : p.step? = none → Ends p := by
  intro h
  match p with
  | values [] => exact .values
  | scan [] => exact .scan
  | values (r :: pending) => simp [step?] at h
  | scan (.ok r :: pending) | scan (.error e :: pending) => simp [step?] at h
  | filter schema predicate input =>
    rw [step?] at h
    split at h
    · rename_i hi
      exact .filter (ends_of_step? input hi)
    · cases h
  | project schema fields input =>
    rw [step?] at h
    split at h
    · rename_i hi
      exact .project (ends_of_step? input hi)
    · cases h
  | union branches =>
    rw [step?] at h
    split at h
    · rename_i hi
      exact .union (ends_of_stepFirst? branches hi)
    · cases h
  | build rightSchema leftSchema condition collected right left =>
    rw [step?] at h
    split at h <;> cases h
  | probe leftSchema condition collected left =>
    rw [step?] at h
    split at h
    · rename_i hi
      exact .probe (ends_of_step? left hi)
    · cases h

theorem ends_of_stepFirst? (ps : List Pipeline) : stepFirst? ps = none → ∀ p ∈ ps, Ends p := by
  intro h
  match ps with
  | [] => simp
  | p :: ps =>
    rw [stepFirst?] at h
    split at h
    · rename_i hi
      exact List.forall_mem_cons.2 ⟨ends_of_step? p hi, ends_of_stepFirst? ps h⟩
    · cases h

end

mutual

theorem steps_of_step? (p : Pipeline) : ∀ b q, p.step? = some (b, q) → Steps p b q := by
  intro b q h
  match p with
  | values [] | scan [] => simp [step?] at h
  | values (r :: pending) =>
    cases h
    exact .values
  | scan (.ok r :: pending) =>
    cases h
    exact .item
  | scan (.error e :: pending) =>
    cases h
    exact .fault
  | filter schema predicate input =>
    rw [step?] at h
    split at h
    · cases h
    · rename_i c input' hi
      cases h
      exact .filter (steps_of_step? input _ _ hi)
  | project schema fields input =>
    rw [step?] at h
    split at h
    · cases h
    · rename_i c input' hi
      cases h
      exact .project (steps_of_step? input _ _ hi)
  | union branches =>
    rw [step?] at h
    split at h
    · cases h
    · rename_i c branches' hi
      cases h
      obtain ⟨done, p, p', rest, rfl, rfl, ended, stepped⟩ := steps_of_stepFirst? branches _ _ hi
      exact .union ended stepped
  | build rightSchema leftSchema condition collected right left =>
    rw [step?] at h
    split at h
    · rename_i hi
      cases h
      exact .turn (ends_of_step? right hi)
    · rename_i c right' hi
      cases h
      exact .collect (steps_of_step? right _ _ hi)
  | probe leftSchema condition collected left =>
    rw [step?] at h
    split at h
    · cases h
    · rename_i c left' hi
      cases h
      exact .probe (steps_of_step? left _ _ hi)

theorem steps_of_stepFirst? (ps : List Pipeline) : ∀ b qs, stepFirst? ps = some (b, qs) →
    ∃ done p q rest, ps = done ++ p :: rest ∧ qs = q :: rest ∧
      (∀ p ∈ done, Ends p) ∧ Steps p b q := by
  intro b qs h
  match ps with
  | [] => simp [stepFirst?] at h
  | p :: ps =>
    rw [stepFirst?] at h
    split at h
    · rename_i hi
      obtain ⟨done, p', q, rest, rfl, rfl, ended, stepped⟩ := steps_of_stepFirst? ps _ _ h
      exact ⟨p :: done, p', q, rest, rfl, rfl,
        List.forall_mem_cons.2 ⟨ends_of_step? p hi, ended⟩, stepped⟩
    · rename_i c p' hi
      cases h
      exact ⟨[], p, p', ps, rfl, rfl, by simp, steps_of_step? p _ _ hi⟩

end

theorem stepFirst?_eq_none {ps : List Pipeline} (ended : ∀ p ∈ ps, p.step? = none) :
    stepFirst? ps = none := by
  induction ps with
  | nil => rfl
  | cons p ps ih =>
    obtain ⟨hp, hps⟩ := List.forall_mem_cons.1 ended
    rw [stepFirst?, hp]
    exact ih hps

theorem stepFirst?_append_cons {done rest : List Pipeline} {p q : Pipeline} {b : Burst}
    (ended : ∀ p ∈ done, p.step? = none) (stepped : p.step? = some (b, q)) :
    stepFirst? (done ++ p :: rest) = some (b, q :: rest) := by
  induction done with
  | nil => simp [stepFirst?, stepped]
  | cons d done ih =>
    obtain ⟨hd, hdone⟩ := List.forall_mem_cons.1 ended
    rw [List.cons_append, stepFirst?, hd]
    exact ih hdone

theorem Ends.step? {p : Pipeline} (h : Ends p) : p.step? = none := by
  induction h with
  | values | scan => rfl
  | filter _ ih | project _ ih | probe _ ih => simp [Pipeline.step?, ih]
  | union _ ih => simp [Pipeline.step?, stepFirst?_eq_none ih]

theorem Steps.step? {p q : Pipeline} {b : Burst} (h : Steps p b q) : p.step? = some (b, q) := by
  induction h with
  | values | item | fault => rfl
  | filter _ ih | project _ ih | collect _ ih | probe _ ih => simp [Pipeline.step?, ih]
  | union ended _ ih =>
    simp [Pipeline.step?, stepFirst?_append_cons (fun p hp => (ended p hp).step?) ih]
  | turn ended => simp [Pipeline.step?, ended.step?]

theorem step?_eq_some_iff {p q : Pipeline} {b : Burst} : p.step? = some (b, q) ↔ Steps p b q :=
  ⟨steps_of_step? p b q, Steps.step?⟩

@[elab_as_elim]
theorem step_induction {motive : Pipeline → Prop} (ends : ∀ p, Ends p → motive p)
    (steps : ∀ p b q, Steps p b q → motive q → motive p) (p : Pipeline) : motive p := by
  rcases step : p.step? with _ | ⟨b, q⟩
  · exact ends p (ends_of_step? p step)
  · have shorter := remaining_step? p b q step
    exact steps p b q (steps_of_step? p b q step) (step_induction ends steps q)
termination_by p.remaining
decreasing_by omega

end QueryFlow.Pipeline
