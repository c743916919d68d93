import QueryFlow.Document
import QueryFlow.Proofs.Document.Numeric
import QueryFlow.Proofs.Plan.Opening
import QueryFlow.Proofs.Stream.Clean

/-!
# Plans of documents

A document that builds leaves nothing to go wrong but its files. The tables that it registers have
passed their row checks, and its nodes have passed the checks of the constructors.
-/

namespace QueryFlow

/-! ## Tables -/

def Table.Loaded (t : Table) : Prop :=
  ∃ rows : List Row, t.contents = .ok (rows.map .ok) ∧ ∀ r ∈ rows, t.schema.Fits r

theorem Table.ofRows_eq_ok {name : String} {schema : Schema} {rows : List Row} {t : Table} :
    ofRows name schema rows = .ok t ↔
      (∀ r ∈ rows, schema.admits r = true) ∧ ⟨name, schema, .ok (rows.map .ok)⟩ = t := by
  simp only [ofRows, check_eq_ok, Schema.checkRows_eq_ok, pure_eq_ok]

namespace Registry

def Loaded (tables : Registry) : Prop := ∀ t ∈ tables.tables, t.Loaded

theorem Loaded.register {tables : Registry} {t : Table} (loaded : tables.Loaded)
    (ht : t.Loaded) : (tables.register t).Loaded := by
  intro u mem
  rcases List.mem_cons.1 mem with rfl | old
  · exact ht
  · exact loaded u (List.mem_of_mem_filter old)

theorem mem_of_resolve {tables : Registry} {name : String} {t : Table}
    (h : tables.resolve name = .ok t) : t ∈ tables.tables := by
  unfold resolve at h
  split at h
  · rename_i u found
    cases h
    exact List.mem_of_find?_eq_some found
  · cases h

end Registry

theorem Document.loaded_registry {d : Document} (numeric : d.Numeric) {tables : Registry}
    (h : d.registry = .ok tables) : tables.Loaded := by
  have numbers := numeric.tables
  have start : Registry.empty.Loaded := List.forall_mem_nil _
  unfold registry at h
  generalize d.tables = ts at h numbers
  generalize Registry.empty = loaded at h start
  induction ts generalizing loaded with
  | nil =>
    cases h
    exact start
  | cons t ts ih =>
    obtain ⟨first, rest⟩ := List.forall_mem_cons.1 numbers
    simp only [List.foldlM_cons, bind_eq_ok, pure_eq_ok] at h
    obtain ⟨_, ⟨table, made, rfl⟩, h⟩ := h
    obtain ⟨admits, rfl⟩ := Table.ofRows_eq_ok.1 made
    refine ih rest _ h (start.register ?_)
    exact ⟨t.2.rows, rfl, fun r mem => ⟨admits r mem, first r mem⟩⟩

/-! ## Nodes -/

namespace Node

mutual

def readsFile : Node → Bool
  | values .. | scan _ => false
  | file .. => true
  | filter _ input => readsFile input
  | project _ input => readsFile input
  | union _ _ inputs => anyReadsFile inputs
  | join _ left right => readsFile left || readsFile right

def anyReadsFile : List Node → Bool
  | [] => false
  | n :: ns => readsFile n || anyReadsFile ns

end

def convention : Node → Convention
  | values _ _ c => c
  | _ => .physical

/-- What opening the tables of a plan comes to, of which only files do not open. -/
def opening (files : Bool) : Except Error Unit :=
  if files then .error (.unsupported "parquet file scan") else .ok ()

theorem opening_or (a b : Bool) : opening (a || b) = (opening a >>= fun _ => opening b) := by
  cases a <;> rfl

structure Makes (n : Node) (p : Plan) : Prop where
  typed : p.Typed
  convention : p.convention = n.convention
  opens : p.openTables = opening n.readsFile
  clean : n.readsFile = false → p.Clean

theorem forall₂_of_buildAll {tables : Registry} {R : Node → Plan → Prop} {ns : List Node}
    {ps : List Plan} (each : ∀ n ∈ ns, ∀ p, n.build tables = .ok p → R n p)
    (h : buildAll tables ns = .ok ps) : List.Forall₂ R ns ps := by
  induction ns generalizing ps with
  | nil =>
    cases h
    exact .nil
  | cons n ns ih =>
    obtain ⟨first, rest⟩ := List.forall_mem_cons.1 each
    simp only [buildAll, bind_eq_ok, pure_eq_ok] at h
    obtain ⟨p, hp, ps, hps, rfl⟩ := h
    exact .cons (first p hp) (ih rest hps)

section All

variable {ns : List Node} {ps : List Plan} (all : List.Forall₂ Makes ns ps)
include all

theorem typed_of_makesAll : ∀ p ∈ ps, p.Typed := by
  induction all with
  | nil => exact List.forall_mem_nil _
  | cons first _ ih => exact List.forall_mem_cons.2 ⟨first.typed, ih⟩

theorem opens_of_makesAll : Plan.openAllTables ps = opening (anyReadsFile ns) := by
  induction all with
  | nil => rfl
  | cons first _ ih => rw [Plan.openAllTables, anyReadsFile, first.opens, ih, opening_or]

theorem clean_of_makesAll (none : anyReadsFile ns = false) : ∀ p ∈ ps, p.Clean := by
  induction all with
  | nil => exact List.forall_mem_nil _
  | cons first _ ih =>
    obtain ⟨head, tail⟩ := Bool.or_eq_false_iff.1 none
    exact List.forall_mem_cons.2 ⟨first.clean head, ih tail⟩

end All

theorem makes_of_build {tables : Registry} (loaded : tables.Loaded) {n : Node}
    (numeric : n.Numeric) : ∀ p, n.build tables = .ok p → n.Makes p := by
  -- The induction is on the derivation and not on the node: it reaches all inputs of a union.
  induction numeric with
  | values rows =>
    intro p h
    simp only [build, check_eq_ok, Schema.checkRows_eq_ok, pure_eq_ok] at h
    obtain ⟨admits, rfl⟩ := h
    exact ⟨.values, rfl, rfl, fun _ => .values fun r mem => ⟨admits r mem, rows r mem⟩⟩
  | union _ ih =>
    intro p h
    simp only [build, bind_eq_ok] at h
    obtain ⟨ps, inputs, made⟩ := h
    obtain ⟨physical, accepts, rfl⟩ := Plan.makeUnion_eq_ok.1 made
    have all := forall₂_of_buildAll ih inputs
    exact ⟨.union (typed_of_makesAll all) physical accepts, rfl, opens_of_makesAll all,
      fun none => .union (clean_of_makesAll all none)⟩
  | scan =>
    intro p h
    simp only [build, bind_eq_ok, pure_eq_ok] at h
    obtain ⟨table, resolved, rfl⟩ := h
    obtain ⟨rows, opened, fit⟩ := loaded table (Registry.mem_of_resolve resolved)
    refine ⟨.scan, rfl, ?_, fun _ => .scan opened fit⟩
    rw [Plan.openTables, opened]
    rfl
  | file =>
    intro p h
    cases h
    refine ⟨.scan, rfl, rfl, ?_⟩
    intro none
    cases none
  | filter predicate _ ih =>
    intro p h
    simp only [build, bind_eq_ok] at h
    obtain ⟨q, input, made⟩ := h
    obtain ⟨physical, checked, rfl⟩ := Plan.makeFilter_eq_ok.1 made
    have inner := ih q input
    exact ⟨.filter inner.typed physical checked, rfl, inner.opens,
      fun none => .filter predicate (inner.clean none)⟩
  | project fields _ ih =>
    intro p h
    simp only [build, bind_eq_ok] at h
    obtain ⟨q, input, made⟩ := h
    obtain ⟨physical, columns, derived, rfl⟩ := Plan.makeProject_eq_ok.1 made
    have inner := ih q input
    exact ⟨.project inner.typed physical derived, rfl, inner.opens,
      fun none => .project fields (inner.clean none)⟩
  | join condition _ _ ihl ihr =>
    intro p h
    simp only [build, bind_eq_ok] at h
    obtain ⟨l, left, r, right, made⟩ := h
    obtain ⟨physicall, physicalr, checked, rfl⟩ := Plan.makeJoin_eq_ok.1 made
    have hl := ihl l left
    have hr := ihr r right
    refine ⟨.join hl.typed hr.typed physicall physicalr checked, rfl, ?_, ?_⟩
    · rw [Plan.openTables, hr.opens, hl.opens, readsFile, Bool.or_comm, opening_or]
    · intro none
      obtain ⟨nonel, noner⟩ := Bool.or_eq_false_iff.1 none
      exact .join condition (hl.clean nonel) (hr.clean noner)

end Node

theorem Document.makes_of_build {d : Document} (numeric : d.Numeric) {p : Plan}
    (h : d.build = .ok p) : d.plan.Makes p := by
  simp only [build, bind_eq_ok] at h
  obtain ⟨tables, registered, h⟩ := h
  exact Node.makes_of_build (loaded_registry numeric registered) numeric.plan p h

end QueryFlow
