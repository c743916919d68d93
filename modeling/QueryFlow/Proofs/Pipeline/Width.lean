import QueryFlow.Proofs.Pipeline.Lenient

/-!
# How many rows a step offers

A step takes one row from a leaf, but a join pairs a row of its left input with all rows of its
right input within the same step. `rows_of_step_le`: a step offers no more rows than the joins above
the leaf multiply its row to, and so at most one where there is no join.
-/

namespace QueryFlow

namespace Plan

mutual

/-- How many rows a join makes of one row of a leaf, and the joins above it of those. -/
def width : Plan → Nat
  | values .. | scan _ => 1
  | filter _ input => width input
  | project _ _ input => width input
  | union _ _ inputs => widthAll inputs
  | join _ left right => width left * right.lenient.length

def widthAll : List Plan → Nat
  | [] => 0
  | p :: ps => max (width p) (widthAll ps)

end

def Joinless (plan : Plan) : Prop :=
  ∀ condition left right, ¬ Within (.join condition left right) plan

theorem joinless_of_inputs {p : Plan}
    (root : ∀ condition left right, .join condition left right ≠ p)
    (inputs : ∀ q ∈ p.inputs, Joinless q) : Joinless p := by
  intro condition left right occurs
  cases occurs with
  | root => exact root condition left right rfl
  | input mem occurs => exact inputs _ mem condition left right occurs

theorem Joinless.input {p q : Plan} (h : Joinless p) (mem : q ∈ p.inputs) : Joinless q :=
  fun condition left right occurs => h condition left right (.input mem occurs)

mutual

theorem Joinless.width (p : Plan) : Joinless p → p.width ≤ 1 := by
  intro h
  match p with
  | values .. | scan _ => exact Nat.le_refl 1
  | filter _ input => exact Joinless.width input (h.input List.mem_cons_self)
  | project _ _ input => exact Joinless.width input (h.input List.mem_cons_self)
  | union _ _ inputs => exact Joinless.widthAll inputs fun p mem => h.input mem
  | join condition left right => exact absurd .root (h condition left right)

theorem Joinless.widthAll (ps : List Plan) : (∀ p ∈ ps, Joinless p) → Plan.widthAll ps ≤ 1 := by
  intro h
  match ps with
  | [] => exact Nat.zero_le 1
  | p :: ps =>
    obtain ⟨first, rest⟩ := List.forall_mem_cons.1 h
    exact Nat.max_le.2 ⟨Joinless.width p first, Joinless.widthAll ps rest⟩

end

end Plan

theorem Row.length_pairs_le (condition : Option Expr) (left right : List Row) :
    (pairs condition left right).length ≤ left.length * right.length := by
  induction left with
  | nil => exact Nat.zero_le _
  | cons l left ih =>
    have first : ((right.map (l ++ ·)).filter (Expr.matched condition)).length ≤ right.length := by
      simpa using List.length_filter_le (Expr.matched condition) (right.map (l ++ ·))
    rw [pairs, List.flatMap_cons, List.length_append, List.length_cons, Nat.succ_mul]
    rw [pairs] at ih
    omega

namespace Pipeline

mutual

/-- The same for what is left of a pipeline. A join that collects may still get the lenient rows of
its right input. -/
def width : Pipeline → Nat
  | values _ | scan _ => 1
  | filter _ _ input => width input
  | project _ _ input => width input
  | union branches => widthAll branches
  | build _ _ _ collected right left => width left * (collected.size + right.lenient.length)
  | probe _ _ collected left => width left * collected.size

def widthAll : List Pipeline → Nat
  | [] => 0
  | p :: ps => max (width p) (widthAll ps)

end

theorem widthAll_le_append (ps qs : List Pipeline) : widthAll qs ≤ widthAll (ps ++ qs) := by
  induction ps with
  | nil => exact Nat.le_refl _
  | cons p ps ih => exact Nat.le_trans ih (Nat.le_max_right _ _)

theorem Steps.width {p q : Pipeline} {b : Burst} (h : Steps p b q) :
    b.rows.length ≤ p.width ∧ q.width ≤ p.width := by
  induction h with
  | values | item => exact ⟨Nat.le_refl 1, Nat.le_refl 1⟩
  | fault => exact ⟨Nat.zero_le 1, Nat.le_refl 1⟩
  | @filter schema predicate _ b _ _ ih =>
    have kept := (rows_bind_keep schema predicate b).length_le
    exact ⟨Nat.le_trans (Nat.le_trans kept (List.length_filter_le _ _)) ih.1, ih.2⟩
  | @project schema fields _ b _ _ ih =>
    have computed := (rows_bind_compute schema fields b).length_le
    exact ⟨Nat.le_trans (Nat.le_trans computed (List.length_filterMap_le _ _)) ih.1, ih.2⟩
  | @union done p b q rest _ _ ih =>
    have inputs : widthAll (p :: rest) ≤ widthAll (done ++ p :: rest) := widthAll_le_append done _
    obtain ⟨first, later⟩ := Nat.max_le.1 inputs
    exact ⟨Nat.le_trans ih.1 first, Nat.max_le.2 ⟨Nat.le_trans ih.2 first, later⟩⟩
  | @collect _ _ _ collected right left b right' stepped _ =>
    rw [rows_bind_store]
    refine ⟨Nat.zero_le _, Nat.mul_le_mul_left _ ?_⟩
    have fewer := stepped.lenient.length_le
    have grown : (collected ++ b.rows.toArray).size = collected.size + b.rows.length :=
      Array.size_append
    rw [List.length_append] at fewer
    omega
  | turn => exact ⟨Nat.zero_le _, Nat.mul_le_mul_left _ (Nat.le_add_right _ _)⟩
  | @probe schema condition collected left b _ _ ih =>
    refine ⟨?_, Nat.mul_le_mul_right _ ih.2⟩
    calc (b.bind (probeWith schema condition collected.toList)).rows.length
      _ ≤ (Row.pairs condition b.rows collected.toList).length :=
        (rows_bind_probeWith schema condition _ b).length_le
      _ ≤ b.rows.length * collected.toList.length := Row.length_pairs_le _ _ _
      _ ≤ left.width * collected.size := Nat.mul_le_mul_right _ ih.1

end Pipeline

theorem widthAll_eq {ps : List Plan} {qs : List Pipeline}
    (h : List.Forall₂ (fun p q => Pipeline.width q = p.width) ps qs) :
    Pipeline.widthAll qs = Plan.widthAll ps := by
  induction h with
  | nil => rfl
  | cons first _ ih => rw [Pipeline.widthAll, Plan.widthAll, first, ih]

theorem Plan.Compiled.width {consumer : Schema} {p : Plan} {q : Pipeline}
    (h : Compiled consumer p q) : q.width = p.width := by
  induction h with
  | values | scan => rfl
  | filter _ _ ih | project _ _ ih => rw [Plan.width, Pipeline.width, ih]
  | union _ length _ ih =>
    rw [Plan.width, Pipeline.width]
    exact widthAll_eq (List.forall₂_iff_zip.2 ⟨length, fun mem => ih _ _ mem⟩)
  | join _ right _ _ ihl =>
    rw [Plan.width, Pipeline.width, ihl, right.lenient]
    exact congrArg _ (Nat.zero_add _)

namespace Source

variable {δ σ : Type} (push : δ → Row → σ → Except Failure Unit × σ) (count : Nat → σ → σ)

theorem length_callAfter_le (n : Nat) (q : Pipeline) (next : δ) (s : σ) :
    (Offer.rows ((pipe q next).callAfter push count n s).offers).length ≤ q.width := by
  induction n generalizing q s with
  | zero =>
    rw [callAfter, call, step?]
    cases step : q.step? with
    | none => exact Nat.zero_le _
    | some front =>
      obtain ⟨b, q'⟩ := front
      have given := (Pipeline.steps_of_step? q b q' step).width.1
      exact Nat.le_trans (b.rows_offers_sublist (push next) s).length_le given
  | succ n ih =>
    rw [callAfter, call, step?]
    cases step : q.step? with
    | none => exact ih q s
    | some front =>
      obtain ⟨b, q'⟩ := front
      exact Nat.le_trans (ih q' _) (Pipeline.steps_of_step? q b q' step).width.2

end Source

theorem rows_of_step_le {plan : Plan} {consumer : Schema} {q : Pipeline}
    (compiled : plan.compile consumer = .ok q) {δ σ : Type}
    (push : δ → Row → σ → Except Failure Unit × σ) (count : Nat → σ → σ) (next : δ) (s : σ)
    (n : Nat) :
    let rows := Offer.rows ((Source.pipe q next).callAfter push count n s).offers
    rows.length ≤ plan.width ∧ (plan.Joinless → rows.length ≤ 1) := by
  intro rows
  have bound : rows.length ≤ plan.width := by
    rw [← (Plan.compile_eq_ok_iff.1 compiled).width]
    exact Source.length_callAfter_le push count n q next s
  exact ⟨bound, fun joinless => Nat.le_trans bound (Plan.Joinless.width plan joinless)⟩

theorem rows_of_step_le_union :
    let ints : Schema := ⟨[⟨"n", .int, false⟩]⟩
    let pair : Schema := ints.concat ints
    let two : Plan := .values ints [[.int 7], [.int 8]] .physical
    let joined : Plan := .join none (.values ints [[.int 1]] .physical) two
    let wide : Plan := .union pair true [.scan ⟨"t", pair, .ok [.ok [.int 5, .int 6]]⟩, joined]
    let plain : Plan := .filter (.compare .lt (.column 0) (.literal (.int 8))) two
    let take (_ : Unit) (_ : Row) (s : Unit) : Except Failure Unit × Unit := (.ok (), s)
    let offered (q : Pipeline) (n : Nat) : List Row :=
      Offer.rows ((Source.pipe q ()).callAfter take (fun _ s => s) n ()).offers
    (∃ q, wide.compile pair = .ok q ∧ (offered q 4).length = wide.width ∧
      ∀ n, (offered q n).length ≤ 2) ∧
    ∃ q, plain.compile ints = .ok q ∧ ∀ n, (offered q n).length ≤ 1 := by
  intro ints pair two joined wide plain take offered
  obtain ⟨q, compiled⟩ : ∃ q, wide.compile pair = .ok q := ⟨_, rfl⟩
  obtain ⟨q', compiled'⟩ : ∃ q, plain.compile ints = .ok q := ⟨_, rfl⟩
  have leaf : two.Joinless := Plan.joinless_of_inputs nofun (List.forall_mem_nil _)
  have joinless : plain.Joinless :=
    Plan.joinless_of_inputs nofun (List.forall_mem_singleton.2 leaf)
  refine ⟨⟨q, compiled, ?_, fun n => ?_⟩, q', compiled', fun n => ?_⟩
  · cases compiled
    decide
  · exact (rows_of_step_le compiled take (fun _ s => s) () () n).1
  · exact (rows_of_step_le compiled' take (fun _ s => s) () () n).2 joinless

/-- One row on the left and two on the right: the step that takes the left row offers two rows. -/
theorem step_offers_two :
    let ints : Schema := ⟨[⟨"n", .int, false⟩]⟩
    let one : Plan := .values ints [[.int 1]] .physical
    let two : Plan := .values ints [[.int 7], [.int 8]] .physical
    let plan : Plan := .join none one two
    let take (_ : Unit) (_ : Row) (s : Unit) : Except Failure Unit × Unit := (.ok (), s)
    plan.Built ∧ ∃ q, plan.compile plan.schema = .ok q ∧
      let call := (Source.pipe q ()).callAfter take (fun _ s => s) 3 ()
      call.result = .ok .continues ∧
        Offer.rows call.offers = [[.int 1, .int 7], [.int 1, .int 8]] ∧
        ¬ (Offer.rows call.offers).length ≤ 1 := by
  intro ints one two plan take
  have built : plan.Built := @Plan.Built.join one two none _ .values .values rfl
  exact ⟨built, _, rfl, by decide, by decide, by decide⟩

end QueryFlow
