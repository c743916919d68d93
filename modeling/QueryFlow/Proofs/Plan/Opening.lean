import QueryFlow.Proofs.Plan.Built

/-!
# What compilation comes to

Compilation checks every node that it visits, and opens tables on the way. A plan that was built and
fits its consumer passes all those checks, so that it compiles unless a table does not open. Tables
are opened in one order, and the first that fails decides.
-/

namespace QueryFlow.Plan

mutual

/-- Opens the tables of a plan in the order of compilation, which takes the inputs of a union from
left to right and the right input of a join before its left one. -/
def openTables : Plan → Except Error Unit
  | values .. => .ok ()
  | scan table => do
    let _ ← table.contents
    return ()
  | filter _ input => openTables input
  | project _ _ input => openTables input
  | union _ _ inputs => openAllTables inputs
  | join _ left right => do
    openTables right
    openTables left

def openAllTables : List Plan → Except Error Unit
  | [] => .ok ()
  | p :: ps => do
    openTables p
    openAllTables ps

end

def Outcome {α : Type} (x : Except Error α) (y : Except Error Unit) : Prop :=
  match x, y with
  | .ok _, .ok () => True
  | .error e, .error f => e = f
  | _, _ => False

theorem Outcome.bind {α β : Type} {x : Except Error α} {y z : Except Error Unit}
    {f : α → Except Error β} (first : Outcome x y) (rest : ∀ a, Outcome (f a) z) :
    Outcome (x >>= f) (y >>= fun _ => z) := by
  cases x with
  | error e =>
    cases y with
    | error e' => exact first
    | ok u => cases first
  | ok a =>
    cases y with
    | error e' => cases first
    | ok u => exact rest a

theorem Outcome.map {α β : Type} {x : Except Error α} {y : Except Error Unit} (f : α → β)
    (h : Outcome x y) : Outcome (x >>= fun a => .ok (f a)) y := by
  cases x <;> cases y <;> exact h

theorem Outcome.eq_error {α : Type} {x : Except Error α} {e : Error} (h : Outcome x (.error e)) :
    x = .error e := by
  cases x with
  | error e' => exact congrArg _ h
  | ok a => cases h

theorem Outcome.exists_ok {α : Type} {x : Except Error α} (h : Outcome x (.ok ())) :
    ∃ a, x = .ok a := by
  cases x with
  | error e => cases h
  | ok a => exact ⟨a, rfl⟩

/-! ## Checks -/

/-- `Visits consumer p sink q`: unless something fails before, the compilation of `p` against
`consumer` comes to compile `q` against `sink`. -/
inductive Visits : Schema → Plan → Schema → Plan → Prop
  | root {consumer p} : Visits consumer p consumer p
  | filter {consumer predicate input sink q} : Visits input.schema input sink q →
      Visits consumer (.filter predicate input) sink q
  | project {consumer schema fields input sink q} : Visits input.schema input sink q →
      Visits consumer (.project schema fields input) sink q
  | union {consumer schema all inputs p sink q} : p ∈ inputs → Visits consumer p sink q →
      Visits consumer (.union schema all inputs) sink q
  | right {consumer condition left right sink q} : Visits right.schema right sink q →
      Visits consumer (.join condition left right) sink q
  | left {consumer condition left right sink q} : Visits left.schema left sink q →
      Visits consumer (.join condition left right) sink q

def Fits (consumer : Schema) (p : Plan) : Prop :=
  ∀ sink q, Visits consumer p sink q → q.checkConsumer sink = .ok ()

mutual

theorem compile_outcome_of_fits (p : Plan) :
    ∀ consumer, Fits consumer p → Outcome (p.compile consumer) p.openTables := by
  intro consumer fits
  have root := fits _ _ .root
  match p with
  | values .. =>
    simp only [compile, root, ok_bind]
    trivial
  | scan table =>
    simp only [compile, root, ok_bind, openTables]
    cases table.contents with
    | error e => rfl
    | ok items => trivial
  | filter _ input =>
    simp only [compile, root, ok_bind, openTables]
    exact (compile_outcome_of_fits input _ fun _ _ visits => fits _ _ (.filter visits)).map _
  | project _ _ input =>
    simp only [compile, root, ok_bind, openTables]
    exact (compile_outcome_of_fits input _ fun _ _ visits => fits _ _ (.project visits)).map _
  | union _ _ inputs =>
    simp only [compile, root, ok_bind, openTables]
    exact (compileAll_outcome_of_fits inputs _ fun _ mem _ _ visits =>
      fits _ _ (.union mem visits)).map _
  | join _ left right =>
    simp only [compile, root, ok_bind, openTables]
    exact (compile_outcome_of_fits right _ fun _ _ visits => fits _ _ (.right visits)).bind fun _ =>
      (compile_outcome_of_fits left _ fun _ _ visits => fits _ _ (.left visits)).map _

theorem compileAll_outcome_of_fits (ps : List Plan) :
    ∀ consumer, (∀ p ∈ ps, Fits consumer p) →
      Outcome (compileAll consumer ps) (openAllTables ps) := by
  intro consumer each
  match ps with
  | [] => trivial
  | p :: ps =>
    obtain ⟨first, rest⟩ := List.forall_mem_cons.1 each
    exact (compile_outcome_of_fits p _ first).bind fun _ =>
      (compileAll_outcome_of_fits ps _ rest).map _

end

theorem Typed.fits {p : Plan} (typed : p.Typed) {consumer : Schema}
    (root : p.checkConsumer consumer = .ok ()) : Fits consumer p := by
  have inner {input : Plan} (physical : input.convention = .physical) :
      input.checkConsumer input.schema = .ok () :=
    checkConsumer_eq_ok.2 ⟨physical, Schema.accepts_refl _⟩
  intro sink q visits
  induction visits with
  | root => exact root
  | filter _ ih =>
    cases typed with
    | filter typed physical _ => exact ih typed (inner physical)
  | project _ ih =>
    cases typed with
    | project typed physical _ => exact ih typed (inner physical)
  | union mem _ ih =>
    cases typed with
    | union typed physical accepts =>
      -- A branch feeds the union's consumer, which accepts what the union's schema does.
      have accepted := Schema.accepts_trans (checkConsumer_eq_ok.1 root).2 (accepts _ mem)
      exact ih (typed _ mem) (checkConsumer_eq_ok.2 ⟨physical _ mem, accepted⟩)
  | right _ ih =>
    cases typed with
    | join _ typed _ physical _ => exact ih typed (inner physical)
  | left _ ih =>
    cases typed with
    | join typed _ physical _ _ => exact ih typed (inner physical)

theorem Typed.compile_outcome {p : Plan} (typed : p.Typed) (consumer : Schema)
    (physical : p.convention = .physical) (accepts : consumer.accepts p.schema = true) :
    Outcome (p.compile consumer) p.openTables :=
  compile_outcome_of_fits p consumer
    (typed.fits (checkConsumer_eq_ok.2 ⟨physical, accepts⟩))

end QueryFlow.Plan
