import QueryFlow.Proofs.Expr.Soundness
import QueryFlow.Proofs.Pipeline.Steps
import QueryFlow.Proofs.Plan.Built

/-!
# Admission of rows

Which rows a pipeline may offer, part way through: those of a schema to its consumer, and to each
sink between its operators those of the sink. Steps preserve this, whatever fails.
-/

namespace QueryFlow

def Burst.Admitted (schema : Schema) : Burst → Prop
  | quiet | failed _ => True
  | passed inlet r rest => inlet.schema.admits r = true ∧ rest.Admitted schema
  | row r rest => schema.admits r = true ∧ rest.Admitted schema

theorem Burst.Admitted.append {schema : Schema} {b c : Burst} (hb : b.Admitted schema)
    (hc : c.Admitted schema) : (b.append c).Admitted schema := by
  induction b with
  | quiet => exact hc
  | failed e => trivial
  | passed inlet r rest ih | row r rest ih => exact ⟨hb.1, ih hb.2⟩

theorem Burst.Admitted.bind {s t : Schema} {b : Burst} {f : Row → Burst} (hb : b.Admitted s)
    (hf : ∀ r, s.admits r = true → (f r).Admitted t) : (b.bind f).Admitted t := by
  induction b with
  | quiet | failed e => trivial
  | passed inlet r rest ih => exact ⟨hb.1, ih hb.2⟩
  | row r rest ih => exact (hf r hb.1).append (ih hb.2)

theorem Burst.Admitted.rows {schema : Schema} {b : Burst} (h : b.Admitted schema) :
    ∀ r ∈ b.rows, schema.admits r = true := by
  induction b with
  | quiet | failed e => exact List.forall_mem_nil _
  | passed inlet r rest ih => exact ih h.2
  | row r rest ih => exact List.forall_mem_cons.2 ⟨h.1, ih h.2⟩

namespace Pipeline

/-- `Gives s p`: all that the pipeline `p` offers its consumer is admitted by `s`. -/
inductive Gives : Schema → Pipeline → Prop
  | values {s pending} : (∀ r ∈ pending, s.admits r = true) → Gives s (.values pending)
  | scan {s pending} : (∀ r, .ok r ∈ pending → s.admits r = true) → Gives s (.scan pending)
  | filter {s schema predicate input} : s.accepts schema → Gives schema input →
      Gives s (.filter schema predicate input)
  | project {s schema fields columns input} :
      fields.mapM (fun f => f.column schema) = .ok columns → s.accepts ⟨columns⟩ →
      Gives schema input → Gives s (.project schema fields input)
  | union {s branches} : (∀ p ∈ branches, Gives s p) → Gives s (.union branches)
  | build {s rightSchema leftSchema condition collected right left} :
      s.accepts (leftSchema.concat rightSchema) →
      (∀ r ∈ collected.toList, rightSchema.admits r = true) →
      Gives rightSchema right → Gives leftSchema left →
      Gives s (.build rightSchema leftSchema condition collected right left)
  | probe {s rightSchema leftSchema condition collected left} :
      s.accepts (leftSchema.concat rightSchema) →
      (∀ r ∈ collected.toList, rightSchema.admits r = true) →
      Gives leftSchema left → Gives s (.probe leftSchema condition collected left)

theorem Gives.widen {s t : Schema} {p : Pipeline} (h : Gives s p) (wider : t.accepts s = true) :
    Gives t p := by
  induction h generalizing t with
  | values fits => exact .values fun r mem => Schema.admits_of_accepts wider (fits r mem)
  | scan fits => exact .scan fun r mem => Schema.admits_of_accepts wider (fits r mem)
  | filter accepts input _ => exact .filter (Schema.accepts_trans wider accepts) input
  | project derived accepts input _ =>
    exact .project derived (Schema.accepts_trans wider accepts) input
  | union _ ih => exact .union fun p mem => ih p mem wider
  | build accepts kept right left _ _ =>
    exact .build (Schema.accepts_trans wider accepts) kept right left
  | probe accepts kept left _ => exact .probe (Schema.accepts_trans wider accepts) kept left

/-! ## What the operators do with rows -/

theorem admitted_keep {s schema : Schema} {predicate : Expr} {r : Row}
    (accepts : s.accepts schema = true) (admits : schema.admits r = true) :
    (keep schema predicate r).Admitted s := by
  refine ⟨admits, ?_⟩
  rcases predicate.selects r with e | ⟨⟩ | ⟨⟩
  · trivial
  · trivial
  · exact ⟨Schema.admits_of_accepts accepts admits, trivial⟩

theorem admitted_compute {s schema : Schema} {fields : List Field} {columns : List Column} {r : Row}
    (derived : fields.mapM (fun f => f.column schema) = .ok columns)
    (accepts : s.accepts ⟨columns⟩ = true) (admits : schema.admits r = true) :
    (compute schema fields r).Admitted s := by
  refine ⟨admits, ?_⟩
  have sound := Field.sound_evalAll derived admits (fun _ _ _ => True.intro)
    (fun _ _ _ _ _ => True.intro)
  rcases sound with ⟨out, evaluated, fits, -⟩ | ⟨_, _, _, failed, -⟩
  · rw [evaluated]
    exact ⟨Schema.admits_of_accepts accepts fits, trivial⟩
  · rw [failed]
    trivial

theorem admitted_pair {s leftSchema rightSchema : Schema} {condition : Option Expr} {left : Row}
    {right : List Row} (accepts : s.accepts (leftSchema.concat rightSchema) = true)
    (hl : leftSchema.admits left = true) (hr : ∀ r ∈ right, rightSchema.admits r = true) :
    (pair condition left right).Admitted s := by
  induction right with
  | nil => trivial
  | cons r rs ih =>
    obtain ⟨admits, rest⟩ := List.forall_mem_cons.1 hr
    have joined : s.admits (left ++ r) = true :=
      Schema.admits_of_accepts accepts (Schema.admits_concat hl admits)
    cases condition with
    | none => exact ⟨joined, ih rest⟩
    | some c =>
      rw [pair]
      rcases c.selects (left ++ r) with e | ⟨⟩ | ⟨⟩
      · trivial
      · exact ih rest
      · exact ⟨joined, ih rest⟩

theorem Steps.gives {p q : Pipeline} {b : Burst} (h : Steps p b q) {s : Schema}
    (gives : Gives s p) : b.Admitted s ∧ Gives s q := by
  induction h generalizing s with
  | values =>
    cases gives with
    | values fits =>
      obtain ⟨first, rest⟩ := List.forall_mem_cons.1 fits
      exact ⟨⟨first, trivial⟩, .values rest⟩
  | item =>
    cases gives with
    | scan fits =>
      exact ⟨⟨fits _ List.mem_cons_self, trivial⟩,
        .scan fun r mem => fits r (List.mem_cons_of_mem _ mem)⟩
  | fault =>
    cases gives with
    | scan fits => exact ⟨trivial, .scan fun r mem => fits r (List.mem_cons_of_mem _ mem)⟩
  | filter _ ih =>
    cases gives with
    | filter accepts input =>
      obtain ⟨admitted, later⟩ := ih input
      exact ⟨admitted.bind fun r => admitted_keep accepts, .filter accepts later⟩
  | project _ ih =>
    cases gives with
    | project derived accepts input =>
      obtain ⟨admitted, later⟩ := ih input
      exact ⟨admitted.bind fun r => admitted_compute derived accepts,
        .project derived accepts later⟩
  | union _ _ ih =>
    cases gives with
    | union branches =>
      obtain ⟨-, first, rest⟩ := List.forall_mem_append.1 branches |>.imp_right
        List.forall_mem_cons.1
      obtain ⟨admitted, later⟩ := ih first
      exact ⟨admitted, .union (List.forall_mem_cons.2 ⟨later, rest⟩)⟩
  | collect _ ih =>
    cases gives with
    | build accepts kept right left =>
      obtain ⟨admitted, later⟩ := ih right
      refine ⟨admitted.bind fun r admits => ⟨admits, trivial⟩, .build accepts ?_ later left⟩
      -- The rows that the buffer keeps are among those that it is offered.
      rw [Array.toList_append, List.forall_mem_append]
      exact ⟨kept, admitted.rows⟩
  | turn =>
    cases gives with
    | build accepts kept right left => exact ⟨trivial, .probe accepts kept left⟩
  | probe _ ih =>
    cases gives with
    | probe accepts kept left =>
      obtain ⟨admitted, later⟩ := ih left
      exact ⟨admitted.bind fun r admits => ⟨admits, admitted_pair accepts admits kept⟩,
        .probe accepts kept later⟩

end Pipeline

theorem Plan.Compiled.gives {consumer : Schema} {p : Plan} {q : Pipeline}
    (h : Compiled consumer p q) (typed : p.Typed) (data : p.DataAdmitted) :
    Pipeline.Gives p.schema q := by
  induction h with
  | values => exact .values (data.tuples _ _ _ .root)
  | scan _ opened => exact .scan (data.items _ _ .root opened)
  | filter _ _ ih =>
    cases typed with
    | filter typed _ _ =>
      exact .filter (Schema.accepts_refl _) (ih typed (data.input (List.mem_singleton.2 rfl)))
  | project _ _ ih =>
    cases typed with
    | project typed _ derived =>
      exact .project derived (Schema.accepts_refl _)
        (ih typed (data.input (List.mem_singleton.2 rfl)))
  | union _ length _ ih =>
    cases typed with
    | union typed _ accepts =>
      refine .union fun q mem => ?_
      rw [← List.map_snd_zip (Nat.le_of_eq length.symm)] at mem
      obtain ⟨⟨p, q⟩, zipped, rfl⟩ := List.mem_map.1 mem
      have occurs := (List.of_mem_zip zipped).1
      exact (ih p q zipped (typed p occurs) (data.input occurs)).widen (accepts p occurs)
  | join _ _ _ ihr ihl =>
    cases typed with
    | join typedl typedr _ _ _ =>
      exact .build (Schema.accepts_refl _) nofun
        (ihr typedr (data.input (List.mem_cons_of_mem _ List.mem_cons_self)))
        (ihl typedl (data.input List.mem_cons_self))

end QueryFlow
