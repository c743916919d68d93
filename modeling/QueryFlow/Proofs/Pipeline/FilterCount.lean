import Mathlib.Algebra.GroupWithZero.Nat
import QueryFlow.Proofs.Engine.Paths

/-!
# How often filters evaluate their predicates

`filters_exact`: in an execution that succeeds, every filter evaluates its predicate once for each
row of its input, wherever it stands in the plan. Nothing else is counted.
-/

namespace QueryFlow

namespace Stream

theorem ending_flatMapRows {f : Row → Stream} {ending : Option Error} {rows : List Row}
    (ends : (flatMapRows f ending rows).ending = none) : ending = none := by
  induction rows with
  | nil => exact ends
  | cons r rs ih =>
    rw [flatMapRows, ending_append, Option.or_eq_none_iff] at ends
    exact ih ends.2

theorem rows_append {s t : Stream} (ends : s.ending = none) :
    (s.append t).rows = s.rows ++ t.rows := by
  obtain ⟨rows, ending⟩ := s
  cases ends
  rfl

end Stream

/-! ## Plans -/

namespace Plan

mutual

/-- The inputs of the filters in a tree, one for each place where a filter stands. -/
def filterInputs : Plan → List Plan
  | values .. | scan _ => []
  | filter _ input => input :: filterInputs input
  | project _ _ input => filterInputs input
  | union _ _ inputs => filterInputsAll inputs
  | join _ left right => filterInputs left ++ filterInputs right

def filterInputsAll : List Plan → List Plan
  | [] => []
  | p :: ps => filterInputs p ++ filterInputsAll ps

end

def tests (p : Plan) : Nat := (p.filterInputs.map fun input => input.stream.rows.length).sum

end Plan

/-! ## Pipelines -/

namespace Pipeline

mutual

/-- The predicates that filters have still to evaluate, if nothing fails. The right input of a join
has been through its filters when the left one begins. -/
def tests : Pipeline → Nat
  | values _ | scan _ => 0
  | filter _ _ input => tests input + input.stream.rows.length
  | project _ _ input => tests input
  | union branches => testsAll branches
  | build _ _ _ _ right left => tests right + tests left
  | probe _ _ _ left => tests left

def testsAll : List Pipeline → Nat
  | [] => 0
  | p :: ps => tests p + testsAll ps

end

theorem testsAll_append (ps qs : List Pipeline) :
    testsAll (ps ++ qs) = testsAll ps + testsAll qs := by
  induction ps with
  | nil => exact (Nat.zero_add _).symm
  | cons p ps ih => rw [List.cons_append, testsAll, testsAll, ih, Nat.add_assoc]

theorem testsAll_eq_zero {ps : List Pipeline} (none : ∀ p ∈ ps, p.tests = 0) : testsAll ps = 0 := by
  induction ps with
  | nil => rfl
  | cons p ps ih =>
    obtain ⟨first, rest⟩ := List.forall_mem_cons.1 none
    rw [testsAll, first, ih rest]

theorem Ends.tests {p : Pipeline} (h : Ends p) : p.tests = 0 := by
  induction h with
  | values | scan => rfl
  | filter ends ih => rw [Pipeline.tests, ih, ends.stream]; rfl
  | project _ ih | probe _ ih => rw [Pipeline.tests, ih]
  | union _ ih => rw [Pipeline.tests, testsAll_eq_zero ih]

end Pipeline

namespace Burst

theorem tests_append {b c : Burst} (ends : b.stream.ending = none) :
    (b.append c).tests = b.tests + c.tests := by
  induction b with
  | quiet => exact (Nat.zero_add _).symm
  | failed e => cases ends
  | passed inlet r rest ih =>
    rw [append, tests, tests, ih ends]
    omega
  | row r rest ih =>
    rw [stream, Stream.ending_append] at ends
    exact ih ends

theorem tests_bind {f : Row → Burst} {n : Nat} (each : ∀ r, (f r).tests = n) {b : Burst}
    (ends : (b.bind f).stream.ending = none) :
    (b.bind f).tests = b.tests + b.stream.rows.length * n := by
  induction b with
  | quiet => exact (Nat.zero_mul n).symm ▸ rfl
  | failed e => cases ends
  | passed inlet r rest ih =>
    rw [bind, tests, tests, ih ends, stream]
    omega
  | row r rest ih =>
    rw [bind, stream_append, Stream.ending_append, Option.or_eq_none_iff] at ends
    rw [bind, tests_append ends.1, each, ih ends.2, tests, stream, Stream.single_append,
      List.length_cons, Nat.add_mul]
    omega

theorem ending_of_bind {f : Row → Burst} {b : Burst} (ends : (b.bind f).stream.ending = none) :
    b.stream.ending = none := by
  rw [stream_bind] at ends
  exact Stream.ending_flatMapRows ends

theorem tests_delivered {σ : Type} {push : Row → σ → Except Failure Unit × σ} {b : Burst} {s : σ}
    (delivered : (b.deliver push s).result = .ok ()) : (b.deliver push s).tests = b.tests := by
  induction b generalizing s with
  | quiet | failed e => rfl
  | passed inlet r rest ih => exact congrArg (· + inlet.tests) (ih delivered)
  | row r rest ih =>
    rw [deliver] at delivered ⊢
    generalize push r s = answer at delivered ⊢
    obtain ⟨e | ⟨⟩, s'⟩ := answer
    · cases delivered
    · exact ih delivered

end Burst

namespace Pipeline

theorem tests_keep (schema : Schema) (predicate : Expr) (r : Row) :
    (keep schema predicate r).tests = 1 := by
  rw [keep, Burst.tests]
  rcases predicate.selects r with e | ⟨⟩ | ⟨⟩ <;> rfl

theorem tests_compute (schema : Schema) (fields : List Field) (r : Row) :
    (compute schema fields r).tests = 0 := by
  rw [compute, Burst.tests]
  rcases Field.evalAll fields r with e | out <;> rfl

theorem tests_store (schema : Schema) (r : Row) : (store schema r).tests = 0 := rfl

theorem tests_probeWith (schema : Schema) (condition : Option Expr) (right : List Row)
    (left : Row) : (probeWith schema condition right left).tests = 0 := by
  have pairs : (pair condition left right).tests = 0 := by
    induction right with
    | nil => rfl
    | cons r rs ih =>
      cases condition with
      | none => exact ih
      | some c =>
        rw [pair]
        rcases c.selects (left ++ r) with e | ⟨⟩ | ⟨⟩
        · rfl
        · exact ih
        · exact ih
  rw [probeWith, Burst.tests, pairs]
  rfl

theorem Steps.tests {p q : Pipeline} {b : Burst} (h : Steps p b q) (ends : b.stream.ending = none) :
    p.tests = b.tests + q.tests := by
  induction h with
  | values | item => rfl
  | fault => cases ends
  | filter input ih =>
    have free := Burst.ending_of_bind ends
    rw [Burst.tests_bind (tests_keep _ _) ends, Pipeline.tests, Pipeline.tests, ih free,
      input.stream, Stream.rows_append free, List.length_append]
    omega
  | project _ ih =>
    rw [Burst.tests_bind (tests_compute _ _) ends, Pipeline.tests, Pipeline.tests,
      ih (Burst.ending_of_bind ends), Nat.mul_zero, Nat.add_zero]
  | union ended _ ih =>
    have before := testsAll_eq_zero fun p mem => (ended p mem).tests
    rw [Pipeline.tests, Pipeline.tests, testsAll_append, before, testsAll, testsAll, ih ends]
    omega
  | collect _ ih =>
    rw [Burst.tests_bind (tests_store _) ends, Pipeline.tests, Pipeline.tests,
      ih (Burst.ending_of_bind ends)]
    omega
  | turn ended =>
    rw [Pipeline.tests, Pipeline.tests, ended.tests]
    rfl
  | probe _ ih =>
    rw [Burst.tests_bind (tests_probeWith _ _ _) ends, Pipeline.tests, Pipeline.tests,
      ih (Burst.ending_of_bind ends), Nat.mul_zero, Nat.add_zero]

end Pipeline

namespace Source

variable {δ σ : Type} {stop : σ → Option Error} {push : δ → Row → σ → Except Failure Unit × σ}

theorem tests_drive (p : Pipeline) (next : δ) (s : σ)
    (driven : (drive stop push (.pipe p next) s).result = .ok ()) :
    (drive stop push (.pipe p next) s).tests = p.tests ∧ p.stream.ending = none := by
  have free := stop_of_drive driven
  induction p using Pipeline.step_induction generalizing s with
  | ends p ends =>
    rw [drive_of_ends free (by rw [step?, ends.step?]), ends.tests, ends.stream]
    exact ⟨rfl, rfl⟩
  | steps p b q steps ih =>
    rw [drive_of_step free (by rw [step?, steps.step?])] at driven ⊢
    have first := @Burst.tests_delivered _ (push next) b s
    have ends := @Burst.ending_of_delivered _ (push next) b s
    generalize b.deliver (push next) s = d at driven first ends ⊢
    obtain ⟨e | ⟨⟩, tests, s'⟩ := d
    · cases driven
    obtain ⟨later, ending⟩ := ih s' driven (stop_of_drive driven)
    rw [steps.tests (ends rfl), steps.stream, Stream.ending_append, ends rfl, ending]
    exact ⟨congrArg₂ (· + ·) (first rfl) later, rfl⟩

end Source

/-! ## Compiled plans -/

namespace Plan

theorem tests_union (schema : Schema) (all : Bool) (p : Plan) (ps : List Plan) :
    (union schema all (p :: ps)).tests = p.tests + (union schema all ps).tests := by
  simp only [tests, filterInputs, filterInputsAll, List.map_append, List.sum_append]

theorem testsAll_eq {schema : Schema} {all : Bool} {ps : List Plan} {qs : List Pipeline}
    (h : List.Forall₂ (fun p q => Pipeline.tests q = p.tests) ps qs) :
    Pipeline.testsAll qs = (union schema all ps).tests := by
  induction h with
  | nil => rfl
  | cons first _ ih => rw [Pipeline.testsAll, tests_union, first, ih]

variable {consumer : Schema} {p : Plan} {q : Pipeline}

theorem Compiled.tests (h : Compiled consumer p q) : q.tests = p.tests := by
  induction h with
  | values | scan => rfl
  | filter _ input ih =>
    rw [Pipeline.tests, ih, input.stream, Nat.add_comm]
    rfl
  | project _ _ ih => exact ih
  | union _ length _ ih =>
    exact testsAll_eq (List.forall₂_iff_zip.2 ⟨length, fun mem => ih _ _ mem⟩)
  | join _ _ _ ihr ihl =>
    rw [Pipeline.tests, ihr, ihl, Nat.add_comm]
    simp only [Plan.tests, filterInputs, List.map_append, List.sum_append]

theorem ending_of_streamAll {ps : List Plan} (ends : (streamAll ps).ending = none) :
    ∀ p ∈ ps, p.stream.ending = none := by
  induction ps with
  | nil => exact List.forall_mem_nil _
  | cons p ps ih =>
    rw [streamAll, Stream.ending_append, Option.or_eq_none_iff] at ends
    exact List.forall_mem_cons.2 ⟨ends.1, ih ends.2⟩

theorem mem_filterInputsAll {ps : List Plan} {i : Plan} (mem : i ∈ filterInputsAll ps) :
    ∃ p ∈ ps, i ∈ p.filterInputs := by
  induction ps with
  | nil => cases mem
  | cons p ps ih =>
    rcases List.mem_append.1 mem with first | later
    · exact ⟨p, List.mem_cons_self, first⟩
    · obtain ⟨p', place, inside⟩ := ih later
      exact ⟨p', List.mem_cons_of_mem _ place, inside⟩

theorem Compiled.filterInput (h : Compiled consumer p q) (ends : p.stream.ending = none) :
    ∀ i ∈ p.filterInputs, i.stream.ending = none ∧ ∃ q, Compiled i.schema i q := by
  induction h with
  | values | scan => exact List.forall_mem_nil _
  | filter _ input ih =>
    have free := Stream.ending_flatMapRows ends
    exact List.forall_mem_cons.2 ⟨⟨free, _, input⟩, ih free⟩
  | project _ _ ih => exact ih (Stream.ending_flatMapRows ends)
  | @union _ _ _ _ branches _ length _ ih =>
    intro i mem
    obtain ⟨p, place, inside⟩ := mem_filterInputsAll mem
    obtain ⟨k, bound, rfl⟩ := List.getElem_of_mem place
    have paired := getElem_mem_zip bound (Nat.lt_of_lt_of_eq bound length)
    exact ih _ _ paired (ending_of_streamAll ends _ place) i inside
  | @join _ _ left right _ _ _ _ _ ihr ihl =>
    rw [Plan.stream, Stream.joined] at ends
    cases failed : right.stream.ending with
    | some e =>
      rw [failed] at ends
      cases ends
    | none =>
      rw [failed] at ends
      exact List.forall_mem_append.2 ⟨ihl (Stream.ending_flatMapRows ends), ihr failed⟩

end Plan

/-! ## Executions -/

theorem Plan.Compiled.effect {plan : Plan} {q : Pipeline} (h : Compiled plan.schema plan q)
    (stopped : Option Error) : plan.effect stopped = (q.effect stopped).withCompile := by
  simp only [Plan.effect, h.physical, Convention.checkPhysical, h.compile]

theorem Plan.compiled_of_effect {plan : Plan} {stopped : Option Error} {steps : Nat}
    (succeeds : (plan.effect stopped).result = .ok steps) :
    ∃ q, Compiled plan.schema plan q := by
  unfold Plan.effect at succeeds
  split at succeeds
  · cases succeeds
  split at succeeds
  · cases succeeds
  · rename_i q compiled
    exact ⟨q, compile_eq_ok_iff.1 compiled⟩

theorem Pipeline.effect_of_ok {q : Pipeline} {stopped : Option Error} {steps : Nat}
    (succeeds : (q.effect stopped).result = .ok steps) :
    q.stream.ending = none ∧ ∃ taken, (q.effect stopped).counters = ⟨0, 1, taken, q.tests⟩ := by
  obtain ⟨⟨⟩, driven, -⟩ := map_eq_ok.1 succeeds
  obtain ⟨tests, ending⟩ := Source.tests_drive q () [] driven
  refine ⟨ending, (Source.drive (fun _ => stopped) collect (.pipe q ()) []).steps, ?_⟩
  rw [← tests]
  rfl

namespace Engine

variable {g h : Engine} {options : RunOptions} {plan : Plan} {r : QueryResult}

theorem execute_of_compiled {q : Pipeline} (compiled : plan.Compiled plan.schema q)
    (ending : plan.stream.ending = none) (k : Engine) :
    ∃ steps, (k.execute .unlimited plan).1 = .ok ⟨plan.schema, plan.stream.rows, steps⟩ := by
  have returned : (k.execute .unlimited plan).1 = _ := returns_execute.result
  obtain ⟨steps, tests, effect⟩ := q.effect_stream
  rw [compiled.stream, ending] at effect
  have free : RunOptions.unlimited.stop k = none := rfl
  rw [returned, free, compiled.effect, effect]
  exact ⟨steps, rfl⟩

theorem counters_of_execute (executed : g.execute options plan = (.ok r, h)) :
    ∃ q, plan.Compiled plan.schema q ∧ plan.stream.ending = none ∧
      ∃ steps, h.profile = g.profile.add ⟨1, 1, steps, plan.tests⟩ := by
  have returns : g.Returns plan.schema (plan.effect (options.stop g)) (g.execute options plan) :=
    returns_execute
  rw [executed] at returns
  obtain ⟨steps, succeeds, -⟩ := map_eq_ok.1 returns.result.symm
  obtain ⟨q, compiled⟩ := Plan.compiled_of_effect succeeds
  have counters := returns.counters
  rw [compiled.effect] at succeeds counters
  obtain ⟨ending, taken, counted⟩ := Pipeline.effect_of_ok succeeds
  rw [compiled.stream] at ending
  refine ⟨q, compiled, ending, taken, counters.trans ?_⟩
  rw [Effect.withCompile, counted, compiled.tests]

theorem filters_exact (executed : g.execute options plan = (.ok r, h)) :
    h.profile.compiles = g.profile.compiles + 1 ∧
      h.profile.drives = g.profile.drives + 1 ∧
      h.profile.filters = g.profile.filters +
        (plan.filterInputs.map fun input => input.stream.rows.length).sum ∧
      ∀ input ∈ plan.filterInputs, ∀ k : Engine, ∃ steps,
        (k.execute .unlimited input).1 = .ok ⟨input.schema, input.stream.rows, steps⟩ := by
  obtain ⟨q, compiled, ending, steps, counters⟩ := counters_of_execute executed
  rw [counters]
  refine ⟨rfl, rfl, rfl, fun input mem k => ?_⟩
  obtain ⟨ends, q', compiled'⟩ := compiled.filterInput ending input mem
  exact execute_of_compiled compiled' ends k

/-- The filter in the right input of a join runs over its two rows and not over six pairs; the one
above the join runs over the three pairs that the condition leaves. -/
theorem filters_exact_join :
    let ints : Schema := ⟨[⟨"n", .int, false⟩]⟩
    let below : Expr := .compare .lt (.column 0) (.literal (.int 2))
    let left : Plan := .values ints [[.int 1], [.int 2], [.int 3]] .physical
    let right : Plan := .values ints [[.int 1], [.int 5]] .physical
    let plan : Plan :=
      .filter below (.join (some (.not (.isNull (.column 1)))) left (.filter below right))
    ∃ r h, Engine.initial.execute .unlimited plan = (.ok r, h) ∧ r.rows = [[.int 1, .int 1]] ∧
      h.profile.compiles = 1 ∧ h.profile.drives = 1 ∧ h.profile.filters = 3 + 2 := by
  intro ints below left right plan
  obtain ⟨q, compiled⟩ : ∃ q, plan.compile plan.schema = .ok q := ⟨_, rfl⟩
  obtain ⟨steps, returned⟩ :=
    execute_of_compiled (Plan.compile_eq_ok_iff.1 compiled) (by decide +kernel) .initial
  rcases executed : Engine.initial.execute .unlimited plan with ⟨result, h⟩
  rw [executed] at returned
  cases show result = _ from returned
  obtain ⟨compiles, drives, filters, -⟩ := filters_exact executed
  have rows : plan.stream.rows = [[.int 1, .int 1]] := by decide +kernel
  refine ⟨_, h, rfl, rows, compiles, drives, filters.trans ?_⟩
  decide +kernel

end Engine

end QueryFlow
