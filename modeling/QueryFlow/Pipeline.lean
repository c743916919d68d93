import QueryFlow.Burst
import QueryFlow.Plan

/-!
# Pipelines

A plan in execution. Each step consumes at most one tuple or table item and moves on before its rows
are offered, so that what a consumer answers never changes what the next steps do. Operators with
inputs carry the schemas of the sinks that their inputs feed.
-/

namespace QueryFlow

inductive Pipeline
  | values (pending : List Row)
  | scan (pending : List Item)
  | filter (schema : Schema) (predicate : Expr) (input : Pipeline)
  | project (schema : Schema) (fields : List Field) (input : Pipeline)
  | union (branches : List Pipeline)
  | build (rightSchema leftSchema : Schema) (condition : Option Expr) (collected : Array Row)
    (right left : Pipeline)
  | probe (leftSchema : Schema) (condition : Option Expr) (collected : Array Row) (left : Pipeline)

namespace Pipeline

def keep (schema : Schema) (predicate : Expr) (r : Row) : Burst :=
  .passed ⟨.filter, schema⟩ r <|
    match predicate.selects r with
    | .ok true => .row r .quiet
    | .ok false => .quiet
    | .error e => .failed (.eval e)

def compute (schema : Schema) (fields : List Field) (r : Row) : Burst :=
  .passed ⟨.project, schema⟩ r <|
    match Field.evalAll fields r with
    | .ok out => .row out .quiet
    | .error e => .failed (.eval e)

def store (schema : Schema) (r : Row) : Burst := .passed ⟨.build, schema⟩ r .quiet

/-- The pairs of a left row with some right rows, up to the first that the condition fails on. -/
def pair (condition : Option Expr) (left : Row) : List Row → Burst
  | [] => .quiet
  | right :: rest =>
    match condition with
    | none => .row (left ++ right) (pair condition left rest)
    | some c =>
      match c.selects (left ++ right) with
      | .ok true => .row (left ++ right) (pair condition left rest)
      | .ok false => pair condition left rest
      | .error e => .failed (.eval e)

def probeWith (schema : Schema) (condition : Option Expr) (right : List Row) (left : Row) : Burst :=
  .passed ⟨.probe, schema⟩ left (pair condition left right)

mutual

/-- One step: the burst and what is left, or nothing at the end of the data. A join spends a step on
each step of its right input, one more on finding its end, and only then turns to the left. -/
def step? : Pipeline → Option (Burst × Pipeline)
  | values [] | scan [] => none
  | values (r :: pending) => some (.row r .quiet, values pending)
  | scan (.ok r :: pending) => some (.row r .quiet, scan pending)
  | scan (.error e :: pending) => some (.failed e, scan pending)
  | filter schema predicate input =>
    match input.step? with
    | none => none
    | some (b, input) => some (b.bind (keep schema predicate), filter schema predicate input)
  | project schema fields input =>
    match input.step? with
    | none => none
    | some (b, input) => some (b.bind (compute schema fields), project schema fields input)
  | union branches =>
    match stepFirst? branches with
    | none => none
    | some (b, branches) => some (b, union branches)
  | build rightSchema leftSchema condition collected right left =>
    match right.step? with
    | none => some (.quiet, probe leftSchema condition collected left)
    | some (b, right) =>
      some (b.bind (store rightSchema),
        build rightSchema leftSchema condition (collected ++ b.rows.toArray) right left)
  | probe leftSchema condition collected left =>
    match left.step? with
    | none => none
    | some (b, left) =>
      some (b.bind (probeWith leftSchema condition collected.toList),
        probe leftSchema condition collected left)

def stepFirst? : List Pipeline → Option (Burst × List Pipeline)
  | [] => none
  | p :: ps =>
    match p.step? with
    | none => stepFirst? ps
    | some (b, p) => some (b, p :: ps)

end

/-- The operator that drives the pipeline. Filters and projections have no steps of their own. -/
def driver : Pipeline → String
  | values _ => "Values"
  | scan _ => "Scan"
  | filter _ _ input => input.driver
  | project _ _ input => input.driver
  | union _ => "Union"
  | build .. | probe .. => "NestedLoopJoin"

mutual

def remaining : Pipeline → Nat
  | values pending => pending.length
  | scan pending => pending.length
  | filter _ _ input => input.remaining
  | project _ _ input => input.remaining
  | union branches => remainingAll branches
  | build _ _ _ _ right left => right.remaining + left.remaining + 1
  | probe _ _ _ left => left.remaining

def remainingAll : List Pipeline → Nat
  | [] => 0
  | p :: ps => p.remaining + remainingAll ps

end

mutual

theorem remaining_step? (p : Pipeline) :
    ∀ b q, p.step? = some (b, q) → q.remaining + 1 = p.remaining := by
  intro b q h
  match p with
  | values [] | scan [] => simp [step?] at h
  | values (r :: pending) =>
    simp only [step?, Option.some.injEq, Prod.mk.injEq] at h
    simp [← h.2, remaining]
  | scan (.ok r :: pending) | scan (.error e :: pending) =>
    simp only [step?, Option.some.injEq, Prod.mk.injEq] at h
    simp [← h.2, remaining]
  | filter schema predicate input =>
    rw [step?] at h
    split at h
    · cases h
    · rename_i c input' hi
      cases h
      simpa only [remaining] using remaining_step? input _ _ hi
  | project schema fields input =>
    rw [step?] at h
    split at h
    · cases h
    · rename_i c input' hi
      cases h
      simpa only [remaining] using remaining_step? input _ _ hi
  | union branches =>
    rw [step?] at h
    split at h
    · cases h
    · rename_i c branches' hi
      cases h
      simpa only [remaining] using remainingAll_stepFirst? branches _ _ hi
  | build rightSchema leftSchema condition collected right left =>
    rw [step?] at h
    split at h
    · rename_i hi
      cases h
      simp [remaining, remaining_of_step?_eq_none right hi]
    · rename_i c right' hi
      cases h
      have := remaining_step? right _ _ hi
      simp only [remaining]
      omega
  | probe leftSchema condition collected left =>
    rw [step?] at h
    split at h
    · cases h
    · rename_i c left' hi
      cases h
      simpa only [remaining] using remaining_step? left _ _ hi

theorem remaining_of_step?_eq_none (p : Pipeline) : p.step? = none → p.remaining = 0 := by
  intro h
  match p with
  | values [] | scan [] => rfl
  | values (r :: pending) => simp [step?] at h
  | scan (.ok r :: pending) | scan (.error e :: pending) => simp [step?] at h
  | filter schema predicate input =>
    rw [step?] at h
    split at h
    · rename_i hi
      exact remaining_of_step?_eq_none input hi
    · cases h
  | project schema fields input =>
    rw [step?] at h
    split at h
    · rename_i hi
      exact remaining_of_step?_eq_none input hi
    · cases h
  | union branches =>
    rw [step?] at h
    split at h
    · rename_i hi
      exact remainingAll_of_stepFirst?_eq_none branches hi
    · cases h
  | build rightSchema leftSchema condition collected right left =>
    rw [step?] at h
    split at h <;> cases h
  | probe leftSchema condition collected left =>
    rw [step?] at h
    split at h
    · rename_i hi
      exact remaining_of_step?_eq_none left hi
    · cases h

theorem remainingAll_stepFirst? (ps : List Pipeline) :
    ∀ b qs, stepFirst? ps = some (b, qs) → remainingAll qs + 1 = remainingAll ps := by
  intro b qs h
  match ps with
  | [] => simp [stepFirst?] at h
  | p :: ps =>
    rw [stepFirst?] at h
    split at h
    · rename_i hi
      have := remainingAll_stepFirst? ps _ _ h
      simp only [remainingAll, remaining_of_step?_eq_none p hi]
      omega
    · rename_i c p' hi
      cases h
      have := remaining_step? p _ _ hi
      simp only [remainingAll]
      omega

theorem remainingAll_of_stepFirst?_eq_none (ps : List Pipeline) :
    stepFirst? ps = none → remainingAll ps = 0 := by
  intro h
  match ps with
  | [] => rfl
  | p :: ps =>
    rw [stepFirst?] at h
    split at h
    · rename_i hi
      simp [remainingAll, remaining_of_step?_eq_none p hi, remainingAll_of_stepFirst?_eq_none ps h]
    · cases h

end

end Pipeline

end QueryFlow
