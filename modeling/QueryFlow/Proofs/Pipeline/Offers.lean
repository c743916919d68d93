import QueryFlow.Proofs.Engine.Reachable
import QueryFlow.Proofs.Pipeline.Admission

namespace QueryFlow

/-- A row on its way to the consumer, or to a sink between two operators. -/
inductive Offer
  | consumer (r : Row)
  | inlet (inlet : Inlet) (r : Row)
  deriving DecidableEq

variable {σ : Type} (push : Row → σ → Except Failure Unit × σ)

def Offer.Admitted (schema : Schema) : Offer → Prop
  | consumer r => schema.admits r = true
  | inlet i r => i.schema.admits r = true

/-- The offers of a burst in order, of which the first that the consumer refuses is the last. -/
def Burst.offers : Burst → σ → List Offer
  | quiet, _ | failed _, _ => []
  | passed i r rest, s => .inlet i r :: rest.offers s
  | row r rest, s =>
    .consumer r ::
      match push r s with
      | (.ok (), s) => rest.offers s
      | (.error _, _) => []

def Pipeline.offers : Nat → Pipeline → σ → List Offer
  | 0, _, _ => []
  | n + 1, p, s =>
    match p.step? with
    | none => []
    | some (b, q) => b.offers push s ++ Pipeline.offers n q (b.deliver push s).state

theorem Burst.Admitted.offers {schema : Schema} {b : Burst} (h : b.Admitted schema) (s : σ) :
    ∀ o ∈ b.offers push s, o.Admitted schema := by
  induction b generalizing s with
  | quiet | failed e => exact List.forall_mem_nil _
  | passed i r rest ih => exact List.forall_mem_cons.2 ⟨h.1, ih h.2 s⟩
  | row r rest ih =>
    rw [Burst.offers, List.forall_mem_cons]
    refine ⟨h.1, ?_⟩
    rcases push r s with ⟨⟨⟩ | ⟨⟩, s'⟩
    · exact List.forall_mem_nil _
    · exact ih h.2 s'

theorem Pipeline.Gives.offers {schema : Schema} {p : Pipeline} (h : Gives schema p) (n : Nat)
    (s : σ) : ∀ o ∈ p.offers push n s, o.Admitted schema := by
  induction n generalizing p s with
  | zero => exact List.forall_mem_nil _
  | succ n ih =>
    rw [Pipeline.offers]
    cases step : p.step? with
    | none => exact List.forall_mem_nil _
    | some front =>
      obtain ⟨b, q⟩ := front
      obtain ⟨admitted, later⟩ := (step?_eq_some_iff.1 step).gives h
      exact List.forall_mem_append.2 ⟨admitted.offers push s, ih later _⟩

theorem offers_admitted {plan : Plan} {consumer : Schema} {q : Pipeline} (built : plan.Built)
    (data : plan.DataAdmitted) (compiled : plan.compile consumer = .ok q) (s : σ) (n : Nat) :
    ∀ o ∈ q.offers push n s,
      match o with
      | .inlet i r => i.schema.admits r = true
      | .consumer r =>
        plan.schema.admits r = true ∧ consumer.admits r = true ∧
          ∀ (g : Engine) (i : Nat), g.Reachable → g.schema (.lazySink i) = consumer →
            (∀ b, g.Leads (.lazySink i) b → (g.schema b).admits r = true) ∧
            ∀ j, g.route (.lazySink i) = .buffer j → (g.buffer j).schema.admits r = true := by
  intro o offered
  have rules := Plan.compile_eq_ok_iff.1 compiled
  have admitted := (rules.gives built.typed data).offers push n s o offered
  cases o with
  | inlet i r => exact admitted
  | consumer r =>
    have taken := Schema.admits_of_accepts rules.accepts admitted
    refine ⟨admitted, taken, ?_⟩
    rintro g i reachable rfl
    have chained : ∀ b, g.Leads (.lazySink i) b → (g.schema b).admits r = true := by
      intro b chain
      exact Schema.admits_of_accepts (reachable.bounds.leads chain) taken
    exact ⟨chained, fun j route => chained (.buffer j) (Engine.leads_of_route route)⟩

theorem offers_admitted_chain :
    let ints (nullable : Bool) : Schema := ⟨[⟨"n", .int, nullable⟩]⟩
    let doubles : Schema := ⟨[⟨"d", .float, false⟩]⟩
    let one : Plan := .values (ints false) [[.int 1]] .physical
    let table : Table := ⟨"t", ints true, .ok [.error .cancelled, .ok [.null]]⟩
    let nan : Plan := .values doubles [[.float (.notANumber false)]] .physical
    let left : Plan := .union (ints true) true [one, .scan table]
    let nulls : Plan := .filter (.isNull (.column 0)) (.join none left nan)
    let plan : Plan := .project (ints true) [⟨.column 0, "n"⟩] nulls
    let g : Engine :=
      ⟨#[.empty (ints true) .keep],
        #[⟨ints true, some (.lazySink 1)⟩, ⟨ints true, some (.buffer 0)⟩], false, ⟨0, 0, 0, 0⟩⟩
    ∃ q, plan.compile (ints true) = .ok q ∧
      .consumer [.null] ∈ q.offers (fun _ (_ : Unit) => (.ok (), ())) 6 () ∧
      plan.schema.admits [.null] = true ∧ (g.schema (.buffer 0)).admits [.null] = true ∧
      g.route (.lazySink 0) = .buffer 0 ∧ (g.buffer 0).schema.admits [.null] = true := by
  intro ints doubles one table nan left nulls plan g
  have union : left.Built := by
    refine @Plan.Built.union (ints true) [one, .scan table] true _ ?_ rfl
    simp only [List.forall_mem_cons]
    exact ⟨.values, .scan, List.forall_mem_nil _⟩
  have built : plan.Built :=
    @Plan.Built.project nulls [⟨.column 0, "n"⟩] _
      (@Plan.Built.filter (.join none left nan) (.isNull (.column 0)) _
        (@Plan.Built.join left nan none _ union .values rfl) rfl) rfl
  have data : plan.DataAdmitted := by
    have dataTable : (Plan.scan table).DataAdmitted := by
      apply Plan.dataAdmitted_scan
      rintro _ ⟨⟩ r mem
      simp only [List.mem_cons, reduceCtorEq, false_or, List.not_mem_nil, or_false] at mem
      cases mem
      rfl
    have dataLeft : left.DataAdmitted := by
      apply Plan.dataAdmitted_union
      simp only [List.forall_mem_cons]
      exact ⟨Plan.dataAdmitted_values (by decide), dataTable, List.forall_mem_nil _⟩
    have dataRight : nan.DataAdmitted := Plan.dataAdmitted_values (by decide)
    exact Plan.dataAdmitted_project
      (Plan.dataAdmitted_filter (Plan.dataAdmitted_join dataLeft dataRight))
  have reachable : g.Reachable :=
    @Engine.Reachable.bind _ 0 (.lazySink 1)
      (@Engine.Reachable.bind _ 1 (.buffer 0)
        (.newBuffer (ints true) .keep (.newLazySink (ints true)
          (.newLazySink (ints true) .initial))) Nat.one_pos) Nat.one_lt_two
  obtain ⟨q, compiled⟩ : ∃ q, plan.compile (ints true) = .ok q := ⟨_, rfl⟩
  have offered : .consumer [.null] ∈ q.offers (fun _ (_ : Unit) => (.ok (), ())) 6 () := by
    cases compiled
    decide
  obtain ⟨declared, -, chained⟩ :=
    offers_admitted (fun _ (_ : Unit) => (.ok (), ())) built data compiled () 6 _ offered
  obtain ⟨leads, routed⟩ := chained g 0 reachable rfl
  exact ⟨q, compiled, offered, declared, leads (.buffer 0) (.hop rfl (.hop rfl .refl)), rfl,
    routed 0 rfl⟩

end QueryFlow
