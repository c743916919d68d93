import QueryFlow.Proofs.Union.Schedule

/-!
# Unions taken apart

`branches_interleave`: in whatever order the branches of a union are stepped, a buffer that they
share gets an interleaving of what each branch gives alone; when all are done and no step has
failed, a permutation of what the union gives when it is driven as a whole.
-/

namespace QueryFlow

structure Engine.Fresh (g : Engine) (i : Nat) : Prop where
  holds : i < g.buffers.size
  empty : g.buffer i = .empty (g.schema (.buffer i)) .keep

namespace Engine.Fresh

variable {g : Engine} {i : Nat}

theorem keeps (fresh : g.Fresh i) : g.Keeps (.buffer i) i where
  route := rfl
  holds := fresh.holds
  policy := by rw [fresh.empty]; rfl

theorem rows (fresh : g.Fresh i) : (g.buffer i).rows.toList = [] := by
  rw [fresh.empty]
  rfl

end Engine.Fresh

theorem streamAll_of_forall₂ {qs : List Pipeline} {lists : List (List Row)}
    (h : List.Forall₂ (fun q l => q.stream = ⟨l, none⟩) qs lists) :
    Pipeline.streamAll qs = ⟨lists.flatten, none⟩ := by
  induction h with
  | nil => rfl
  | cons first _ ih =>
    rw [Pipeline.streamAll, first, ih]
    rfl

theorem streamAll_of_remainders {schedule : List Nat} {qs : List Pipeline}
    (done : ∀ q ∈ remainders schedule qs, q.step? = none) (succeeds : Succeeds schedule qs) :
    Pipeline.streamAll qs = ⟨(deliveries schedule qs).flatten, none⟩ := by
  apply streamAll_of_forall₂
  rw [List.forall₂_iff_get]
  refine ⟨List.length_mapIdx.symm, ?_⟩
  intro i bound bound'
  have place : qs[i]? = some qs[i] := List.getElem?_eq_getElem bound
  have last : (remainders schedule qs)[i]? = some (qs[i].after (schedule.count i)) := by
    rw [remainders, List.getElem?_mapIdx, place]
    rfl
  have ends := done _ (List.mem_of_getElem? last)
  have whole := Pipeline.stream_of_bursts qs[i] (schedule.count i) (succeeds i _ place)
  rw [(Pipeline.ends_of_step? _ ends).stream, Stream.append_nil] at whole
  simpa [deliveries] using whole

theorem branches_interleave {schema : Schema} {all : Bool} {inputs : List Plan} {g : Engine}
    {b : Nat} {qs : List Pipeline} (fresh : g.Fresh b)
    (compiled : Plan.compileBranches (g.schema (.buffer b)) schema all inputs = .ok qs)
    (schedule : List Nat) :
    let run := Engine.stepBranches schedule (Source.parts (.buffer b) qs) g
    ∃ lists, Interleaves lists (run.2.2.buffer b).rows.toList ∧ lists.length = inputs.length ∧
      (∀ i p, inputs[i]? = some p →
        (∃ q, p.compile (g.schema (.buffer b)) = .ok q) ∧
        ∃ l, lists[i]? = some l ∧
          ∀ (h : Engine) (c : Nat) (q : Pipeline), h.Fresh c →
            p.compile (h.schema (.buffer c)) = .ok q →
            ((h.steps (schedule.count i) (.pipe q (.buffer c))).buffer c).rows.toList = l) ∧
      ((∀ source ∈ run.2.1, (run.2.2.step source).1 = .ok .done) →
        (∀ r ∈ run.1, ∃ p, r = .ok p) →
        ∀ (h : Engine) (c : Nat) (q : Pipeline), h.Fresh c →
          (Plan.union schema all inputs).compile (h.schema (.buffer c)) = .ok q →
          let d := Source.drive (fun _ => none) Engine.push (.pipe q (.buffer c)) h
          d.result = .ok () ∧ (d.state.buffer c).rows.toList = lists.flatten ∧
            (run.2.2.buffer b).rows.toList.Perm (d.state.buffer c).rows.toList) := by
  intro run
  obtain ⟨kept, remaining, ⟨rows, interleaves, given⟩, succeed⟩ :=
    Engine.stepBranches_of_keeps fresh.keeps schedule qs
  rw [fresh.rows, List.nil_append] at given
  have whole := Plan.compile_eq_ok_iff.1 (Plan.compileBranches_eq_ok.1 compiled)
  obtain ⟨length, each⟩ : inputs.length = qs.length ∧
      ∀ p q, (p, q) ∈ inputs.zip qs → Plan.Compiled (g.schema (.buffer b)) p q := by
    cases whole with
    | union _ length each => exact ⟨length, each⟩
  refine ⟨deliveries schedule qs, ?_, ?_, ?_, ?_⟩
  · rw [given]
    exact interleaves
  · rw [deliveries, List.length_mapIdx, length]
  · intro i p input
    obtain ⟨place, rfl⟩ := List.getElem?_eq_some_iff.1 input
    have bound : i < qs.length := Nat.lt_of_lt_of_eq place length
    have rules := each _ _ (getElem_mem_zip place bound)
    refine ⟨⟨_, rules.compile⟩, qs[i].delivered (schedule.count i), ?_, ?_⟩
    · rw [deliveries, List.getElem?_mapIdx, List.getElem?_eq_getElem bound]
      rfl
    · intro h c q own alone
      -- Compiled for another buffer, the input has the same pipeline.
      rw [rules.unique (Plan.compile_eq_ok_iff.1 alone), Engine.rows_steps own.keeps, own.rows,
        List.nil_append]
  · intro done ok h c q own alone
    have ended : ∀ q ∈ remainders schedule qs, q.step? = none := by
      intro q mem
      have finished : (run.2.2.step (.pipe q (.buffer b))).1 = .ok .done := by
        apply done
        rw [remaining]
        exact List.mem_map_of_mem mem
      cases step : q.step? with
      | none => rfl
      | some front =>
        obtain ⟨_, stepped, -⟩ := Engine.step_of_keeps kept step
        rw [stepped] at finished
        cases h : front.1.stream.ending <;> simp [h] at finished
    have stream : q.stream = ⟨(deliveries schedule qs).flatten, none⟩ := by
      rw [(whole.unique (Plan.compile_eq_ok_iff.1 alone)).symm]
      exact streamAll_of_remainders ended (succeed ok)
    have driven : _ = q.stream.deliver (Engine.push (SinkId.buffer c)) h :=
      Source.drive_pipe (fun _ => rfl) q _ h
    rw [stream, Engine.deliver_of_keeps own.keeps] at driven
    obtain ⟨result, state⟩ := Prod.mk.inj driven
    have sequential := Engine.rows_keepRows own.holds (deliveries schedule qs).flatten
    rw [own.rows, List.nil_append, ← state] at sequential
    refine ⟨result, sequential, ?_⟩
    rw [given, sequential]
    exact interleaves.perm

/-- One join in two branches, stepped in turns and once more each after the end. -/
theorem branches_interleave_join :
    let ints : Schema := ⟨[⟨"n", .int, false⟩]⟩
    let table : Table := ⟨"t", ints, .ok [.ok [.int 1], .ok [.int 2]]⟩
    let pairs : Plan := .join none (.scan table) (.values ints [[.int 7]] .physical)
    let branch : Pipeline :=
      .build ints ints none #[] (.values [[.int 7]]) (.scan [.ok [.int 1], .ok [.int 2]])
    let g : Engine := ⟨#[.empty pairs.schema .keep], #[], false, ⟨0, 0, 0, 0⟩⟩
    let run := Engine.stepBranches [0, 1, 1, 0, 1, 1, 0, 1, 0, 0]
      (Source.parts (.buffer 0) [branch, branch]) g
    let d :=
      Source.drive (fun _ => none) Engine.push (.pipe (.union [branch, branch]) (.buffer 0)) g
    (run.2.2.buffer 0).rows =
        #[[.int 1, .int 7], [.int 2, .int 7], [.int 1, .int 7], [.int 2, .int 7]] ∧
      d.result = .ok () ∧
      (run.2.2.buffer 0).rows.toList.Perm (d.state.buffer 0).rows.toList := by
  intro ints table pairs branch g
  have fresh : g.Fresh 0 := ⟨Nat.one_pos, rfl⟩
  have compiled :
      Plan.compileBranches pairs.schema pairs.schema true [pairs, pairs] = .ok [branch, branch] :=
    rfl
  have shared := branches_interleave fresh compiled [0, 1, 1, 0, 1, 1, 0, 1, 0, 0]
  have rows : ((Engine.stepBranches [0, 1, 1, 0, 1, 1, 0, 1, 0, 0]
      (Source.parts (.buffer 0) [branch, branch]) g).2.2.buffer 0).rows =
      #[[.int 1, .int 7], [.int 2, .int 7], [.int 1, .int 7], [.int 2, .int 7]] := by
    decide +kernel
  have last : (Engine.stepBranches [0, 1, 1, 0, 1, 1, 0, 1, 0, 0]
      (Source.parts (.buffer 0) [branch, branch]) g).2.1 =
      Source.parts (.buffer 0) (.replicate 2 (.probe ints none #[[.int 7]] (.scan []))) :=
    rfl
  have succeeded : (Engine.stepBranches [0, 1, 1, 0, 1, 1, 0, 1, 0, 0]
      (Source.parts (.buffer 0) [branch, branch]) g).1.all Except.isOk = true := by
    decide +kernel
  -- The run is a variable from here on: to compare its parts would be to run it again.
  generalize Engine.stepBranches [0, 1, 1, 0, 1, 1, 0, 1, 0, 0]
    (Source.parts (.buffer 0) [branch, branch]) g = run at shared rows last succeeded ⊢
  obtain ⟨lists, -, -, -, permuted⟩ := shared
  have done : ∀ source ∈ run.2.1, (run.2.2.step source).1 = .ok .done := by
    rw [last]
    exact List.forall_mem_cons.2 ⟨rfl, List.forall_mem_singleton.2 rfl⟩
  have ok : ∀ r ∈ run.1, ∃ p, r = .ok p := by
    intro r mem
    cases r with
    | ok p => exact ⟨p, rfl⟩
    | error e => cases List.all_eq_true.1 succeeded _ mem
  obtain ⟨succeeds, -, perm⟩ :=
    permuted done ok g 0 _ fresh (Plan.compileBranches_eq_ok.1 compiled)
  exact ⟨rows, succeeds, perm⟩

end QueryFlow
