import QueryFlow.Pipeline.Compile
import QueryFlow.Proofs.Results
import QueryFlow.Proofs.Schema

namespace QueryFlow

theorem Convention.checkPhysical_eq_ok {operator : String} {c : Convention} :
    c.checkPhysical operator = .ok () ↔ c = .physical := by
  cases c <;> simp [checkPhysical]

theorem getElem_mem_zip {α β : Type} {as : List α} {bs : List β} {i : Nat} (ha : i < as.length)
    (hb : i < bs.length) : (as[i], bs[i]) ∈ as.zip bs := by
  have bound : i < (as.zip bs).length := by
    rw [List.length_zip]
    exact Nat.lt_min.2 ⟨ha, hb⟩
  exact List.mem_iff_getElem.2 ⟨i, bound, List.getElem_zip⟩

namespace Plan

theorem checkConsumer_eq_ok {p : Plan} {consumer : Schema} :
    p.checkConsumer consumer = .ok () ↔
      p.convention = .physical ∧ consumer.accepts p.schema = true := by
  simp [checkConsumer, check_eq_ok, Convention.checkPhysical_eq_ok, Schema.checkAccepts_eq_ok]

/-- `Compiled consumer p q`: the plan `p` compiles to the pipeline `q` against a sink whose schema
is `consumer`. -/
inductive Compiled : Schema → Plan → Pipeline → Prop
  | values {consumer schema tuples} : consumer.accepts schema →
      Compiled consumer (.values schema tuples .physical) (.values tuples)
  | scan {consumer table items} : consumer.accepts table.schema → table.contents = .ok items →
      Compiled consumer (.scan table) (.scan items)
  | filter {consumer predicate input q} : consumer.accepts input.schema →
      Compiled input.schema input q →
      Compiled consumer (.filter predicate input) (.filter input.schema predicate q)
  | project {consumer schema fields input q} : consumer.accepts schema →
      Compiled input.schema input q →
      Compiled consumer (.project schema fields input) (.project input.schema fields q)
  | union {consumer schema all inputs branches} : consumer.accepts schema →
      inputs.length = branches.length →
      (∀ p q, (p, q) ∈ inputs.zip branches → Compiled consumer p q) →
      Compiled consumer (.union schema all inputs) (.union branches)
  | join {consumer condition left right l r} :
      consumer.accepts (left.schema.concat right.schema) →
      Compiled right.schema right r → Compiled left.schema left l →
      Compiled consumer (.join condition left right)
        (.build right.schema left.schema condition #[] r l)

mutual

theorem compiled_of_compile (p : Plan) :
    ∀ consumer q, p.compile consumer = .ok q → Compiled consumer p q := by
  intro consumer q h
  match p with
  | values schema tuples convention =>
    simp only [compile, bind_eq_ok, pure_eq_ok] at h
    obtain ⟨⟨⟩, checked, rfl⟩ := h
    obtain ⟨physical, accepts⟩ := checkConsumer_eq_ok.1 checked
    cases physical
    exact .values accepts
  | scan table =>
    simp only [compile, bind_eq_ok, pure_eq_ok] at h
    obtain ⟨⟨⟩, checked, items, opened, rfl⟩ := h
    obtain ⟨-, accepts⟩ := checkConsumer_eq_ok.1 checked
    exact .scan accepts opened
  | filter predicate input =>
    simp only [compile, bind_eq_ok, pure_eq_ok] at h
    obtain ⟨⟨⟩, checked, source, hi, rfl⟩ := h
    obtain ⟨-, accepts⟩ := checkConsumer_eq_ok.1 checked
    exact .filter accepts (compiled_of_compile input _ _ hi)
  | project schema fields input =>
    simp only [compile, bind_eq_ok, pure_eq_ok] at h
    obtain ⟨⟨⟩, checked, source, hi, rfl⟩ := h
    obtain ⟨-, accepts⟩ := checkConsumer_eq_ok.1 checked
    exact .project accepts (compiled_of_compile input _ _ hi)
  | union schema all inputs =>
    simp only [compile, bind_eq_ok, pure_eq_ok] at h
    obtain ⟨⟨⟩, checked, branches, hi, rfl⟩ := h
    obtain ⟨-, accepts⟩ := checkConsumer_eq_ok.1 checked
    obtain ⟨length, each⟩ := List.forall₂_iff_zip.1 (compiled_of_compileAll inputs _ _ hi)
    exact .union accepts length fun _ _ => each
  | join condition left right =>
    simp only [compile, bind_eq_ok, pure_eq_ok] at h
    obtain ⟨⟨⟩, checked, r, hr, l, hl, rfl⟩ := h
    obtain ⟨-, accepts⟩ := checkConsumer_eq_ok.1 checked
    exact .join accepts (compiled_of_compile right _ _ hr) (compiled_of_compile left _ _ hl)

theorem compiled_of_compileAll (ps : List Plan) : ∀ consumer qs,
    compileAll consumer ps = .ok qs → List.Forall₂ (Compiled consumer) ps qs := by
  intro consumer qs h
  match ps with
  | [] =>
    cases h
    exact .nil
  | p :: ps =>
    simp only [compileAll, bind_eq_ok, pure_eq_ok] at h
    obtain ⟨q, hp, qs, hps, rfl⟩ := h
    exact .cons (compiled_of_compile p _ _ hp) (compiled_of_compileAll ps _ _ hps)

end

theorem compileAll_eq_ok {consumer : Schema} {ps : List Plan} {qs : List Pipeline}
    (h : List.Forall₂ (fun p q => p.compile consumer = .ok q) ps qs) :
    compileAll consumer ps = .ok qs := by
  induction h with
  | nil => rfl
  | cons hp _ ih => simp [compileAll, hp, ih]

theorem Compiled.physical {consumer : Schema} {p : Plan} {q : Pipeline}
    (h : Compiled consumer p q) : p.convention = .physical := by
  cases h <;> rfl

theorem Compiled.accepts {consumer : Schema} {p : Plan} {q : Pipeline} (h : Compiled consumer p q) :
    consumer.accepts p.schema = true := by
  cases h <;> assumption

theorem Compiled.checkConsumer {consumer : Schema} {p : Plan} {q : Pipeline}
    (h : Compiled consumer p q) : p.checkConsumer consumer = .ok () :=
  checkConsumer_eq_ok.2 ⟨h.physical, h.accepts⟩

theorem Compiled.compile {consumer : Schema} {p : Plan} {q : Pipeline}
    (h : Compiled consumer p q) : p.compile consumer = .ok q := by
  have checked := h.checkConsumer
  induction h with
  | values => simp [Plan.compile, checked]
  | scan _ opened => simp [Plan.compile, checked, opened]
  | filter _ hi ih | project _ hi ih => simp [Plan.compile, checked, ih hi.checkConsumer]
  | union _ length each ih =>
    have inputs := compileAll_eq_ok (List.forall₂_iff_zip.2
      ⟨length, fun h => ih _ _ h (each _ _ h).checkConsumer⟩)
    simp [Plan.compile, checked, inputs]
  | join _ hr hl ihr ihl =>
    simp [Plan.compile, checked, ihr hr.checkConsumer, ihl hl.checkConsumer]

theorem Compiled.unique {consumer other : Schema} {p : Plan} {q q' : Pipeline}
    (h : Compiled consumer p q) (h' : Compiled other p q') : q = q' := by
  induction h generalizing other q' with
  | values =>
    cases h'
    rfl
  | scan _ opened =>
    cases h' with
    | scan _ opened' =>
      rw [Except.ok.inj (opened.symm.trans opened')]
  | filter _ _ ih =>
    cases h' with
    | filter _ input => rw [ih input]
  | project _ _ ih =>
    cases h' with
    | project _ input => rw [ih input]
  | @union _ _ _ inputs branches _ length _ ih =>
    cases h' with
    | @union _ _ _ _ branches' _ length' each =>
      congr 1
      refine List.ext_getElem (length.symm.trans length') ?_
      intro i bound bound'
      have place : i < inputs.length := Nat.lt_of_lt_of_eq bound length.symm
      refine ih inputs[i] branches[i] ?_ (each inputs[i] branches'[i] ?_)
      · exact getElem_mem_zip place bound
      · exact getElem_mem_zip place bound'
  | join _ _ _ ihr ihl =>
    cases h' with
    | join _ right left => rw [ihr right, ihl left]

theorem compile_eq_ok_iff {consumer : Schema} {p : Plan} {q : Pipeline} :
    p.compile consumer = .ok q ↔ Compiled consumer p q :=
  ⟨compiled_of_compile p consumer q, Compiled.compile⟩

theorem compileBranches_eq_ok {consumer schema : Schema} {all : Bool} {inputs : List Plan}
    {branches : List Pipeline} :
    compileBranches consumer schema all inputs = .ok branches ↔
      (union schema all inputs).compile consumer = .ok (.union branches) := by
  simp only [compileBranches, compile, bind_eq_ok, pure_eq_ok, Pipeline.union.injEq,
    exists_eq_right]

end Plan

end QueryFlow
