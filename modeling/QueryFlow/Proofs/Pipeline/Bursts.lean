import QueryFlow.Proofs.Stream.Refinement

namespace QueryFlow.Pipeline

def after : Nat → Pipeline → Pipeline
  | 0, p => p
  | n + 1, p =>
    match p.step? with
    | none => p
    | some (_, q) => after n q

/-- The bursts of so many steps. At the end of the data there are none. -/
def bursts : Nat → Pipeline → List Burst
  | 0, _ => []
  | n + 1, p =>
    match p.step? with
    | none => []
    | some (b, q) => b :: bursts n q

def delivered (n : Nat) (p : Pipeline) : List Row := (p.bursts n).flatMap Burst.rows

theorem after_of_ends {p : Pipeline} (ends : p.step? = none) (n : Nat) : p.after n = p := by
  cases n with
  | zero => rfl
  | succ n => rw [after, ends]

theorem bursts_of_ends {p : Pipeline} (ends : p.step? = none) (n : Nat) : p.bursts n = [] := by
  cases n with
  | zero => rfl
  | succ n => rw [bursts, ends]

theorem after_of_step {p q : Pipeline} {b : Burst} (step : p.step? = some (b, q)) (n : Nat) :
    p.after (n + 1) = q.after n := by
  rw [after, step]

theorem bursts_of_step {p q : Pipeline} {b : Burst} (step : p.step? = some (b, q)) (n : Nat) :
    p.bursts (n + 1) = b :: q.bursts n := by
  rw [bursts, step]

theorem steps_of_bursts {p : Pipeline} {b : Burst} {bs : List Burst} {n : Nat}
    (bursts : p.bursts (n + 1) = b :: bs) : ∃ q, p.Steps b q ∧ q.bursts n = bs := by
  rcases step : p.step? with _ | ⟨c, q⟩
  · rw [bursts_of_ends step] at bursts
    cases bursts
  · rw [bursts_of_step step] at bursts
    obtain ⟨rfl, rest⟩ := List.cons.inj bursts
    exact ⟨q, steps_of_step? p c q step, rest⟩

theorem delivered_of_ends {p : Pipeline} (ends : p.step? = none) (n : Nat) :
    p.delivered n = [] := by
  rw [delivered, bursts_of_ends ends]
  rfl

theorem delivered_of_step {p q : Pipeline} {b : Burst} (step : p.step? = some (b, q)) (n : Nat) :
    p.delivered (n + 1) = b.rows ++ q.delivered n := by
  rw [delivered, bursts_of_step step, List.flatMap_cons, ← delivered]

theorem stream_of_bursts (p : Pipeline) (n : Nat)
    (succeed : ∀ b ∈ p.bursts n, b.stream.ending = none) :
    p.stream = (Stream.mk (p.delivered n) none).append (p.after n).stream := by
  induction n generalizing p with
  | zero => rfl
  | succ n ih =>
    cases step : p.step? with
    | none =>
      rw [delivered_of_ends step, after_of_ends step]
      rfl
    | some front =>
      obtain ⟨b, q⟩ := front
      rw [bursts_of_step step, List.forall_mem_cons] at succeed
      obtain ⟨first, rest⟩ := succeed
      have whole : b.stream = ⟨b.rows, none⟩ := by rw [Burst.rows_eq_stream, ← first]
      rw [(steps_of_step? p b q step).stream, ih q rest, whole, delivered_of_step step,
        after_of_step step]
      simp only [Stream.append, List.append_assoc]

end QueryFlow.Pipeline
