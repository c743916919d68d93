import QueryFlow.Proofs.Pipeline.Consumer

/-!
# Traces

The stream of a plan, cut up into what each step gives of it. The trace of a plan is defined by
recursion on the tree, and a run depends on the plan only through it: the rows, the end and the
number of steps come from the trace, whatever the consumer answers.
-/

namespace QueryFlow

namespace Stream

def ofItem : Item → Stream
  | .ok r => single r
  | .error e => failed e

def kept (t : Stream) : Stream := ⟨[], t.ending⟩

theorem flatMap_flatMapRows (f g : Row → Stream) (ending : Option Error) (rows : List Row) :
    (flatMapRows f ending rows).flatMap g = flatMapRows (fun r => (f r).flatMap g) ending rows := by
  induction rows with
  | nil => rfl
  | cons r rows ih => rw [flatMapRows, flatMap_append, ih, flatMapRows]

theorem flatMap_flatMap (f g : Row → Stream) (t : Stream) :
    (t.flatMap f).flatMap g = t.flatMap fun r => (f r).flatMap g :=
  flatMap_flatMapRows f g t.ending t.rows

end Stream

namespace Plan

mutual

/-- What each step gives, whether those before it fail or not. -/
def trace : Plan → List Stream
  | values _ tuples _ => tuples.map .single
  | scan table =>
    match table.contents with
    | .ok items => items.map .ofItem
    | .error _ => []
  | filter predicate input => (trace input).map (Stream.flatMap (Stream.selected predicate))
  | project _ fields input => (trace input).map (Stream.flatMap (Stream.computed fields))
  | union _ _ inputs => traceAll inputs
  | join condition left right =>
    (trace right).map Stream.kept ++ .nil :: (trace left).map
      (Stream.flatMap fun l => Stream.paired condition l ((trace right).flatMap Stream.rows))

def traceAll : List Plan → List Stream
  | [] => []
  | p :: ps => trace p ++ traceAll ps

end

theorem traceAll_append (ps qs : List Plan) : traceAll (ps ++ qs) = traceAll ps ++ traceAll qs := by
  induction ps with
  | nil => rfl
  | cons p ps ih => rw [List.cons_append, traceAll, traceAll, ih, List.append_assoc]

end Plan

namespace Pipeline

mutual

def trace : Pipeline → List Stream
  | values pending => pending.map .single
  | scan pending => pending.map .ofItem
  | filter _ predicate input => (trace input).map (Stream.flatMap (Stream.selected predicate))
  | project _ fields input => (trace input).map (Stream.flatMap (Stream.computed fields))
  | union branches => traceAll branches
  | build _ _ condition collected right left =>
    (trace right).map Stream.kept ++ .nil :: (trace left).map (Stream.flatMap fun l =>
      Stream.paired condition l (collected.toList ++ (trace right).flatMap Stream.rows))
  | probe _ condition collected left =>
    (trace left).map (Stream.flatMap fun l => Stream.paired condition l collected.toList)

def traceAll : List Pipeline → List Stream
  | [] => []
  | p :: ps => trace p ++ traceAll ps

end

theorem traceAll_of_nil {ps : List Pipeline} (h : ∀ p ∈ ps, p.trace = []) : traceAll ps = [] := by
  induction ps with
  | nil => rfl
  | cons p ps ih =>
    obtain ⟨hp, hps⟩ := List.forall_mem_cons.1 h
    rw [traceAll, hp, ih hps, List.nil_append]

theorem traceAll_append (ps qs : List Pipeline) :
    traceAll (ps ++ qs) = traceAll ps ++ traceAll qs := by
  induction ps with
  | nil => rfl
  | cons p ps ih => rw [List.cons_append, traceAll, traceAll, ih, List.append_assoc]

theorem Ends.trace {p : Pipeline} (h : Ends p) : p.trace = [] := by
  induction h with
  | values | scan => rfl
  | filter _ ih | project _ ih | probe _ ih => simp only [Pipeline.trace, ih, List.map_nil]
  | union _ ih => rw [Pipeline.trace, traceAll_of_nil ih]

theorem Steps.trace {p q : Pipeline} {b : Burst} (h : Steps p b q) :
    p.trace = b.stream :: q.trace := by
  induction h with
  | values | item | fault => rfl
  | filter _ ih =>
    simp only [Pipeline.trace, ih, List.map_cons, Burst.stream_bind, stream_keep]
  | project _ ih =>
    simp only [Pipeline.trace, ih, List.map_cons, Burst.stream_bind, stream_compute]
  | union ended _ ih =>
    simp only [Pipeline.trace, traceAll_append, traceAll, ih, List.cons_append,
      traceAll_of_nil fun p hp => (ended p hp).trace, List.nil_append]
  | collect _ ih =>
    simp only [Pipeline.trace, ih, stream_bind_store, Burst.rows_eq_stream, List.map_cons,
      List.flatMap_cons, Array.toList_append, List.append_assoc]
    rfl
  | turn ended =>
    simp only [Pipeline.trace, ended.trace, List.map_nil, List.flatMap_nil, List.append_nil]
    rfl
  | probe _ ih =>
    simp only [Pipeline.trace, ih, List.map_cons, Burst.stream_bind, stream_probeWith]

end Pipeline

theorem traceAll_eq {ps : List Plan} {qs : List Pipeline}
    (h : List.Forall₂ (fun p q => Pipeline.trace q = p.trace) ps qs) :
    Pipeline.traceAll qs = Plan.traceAll ps := by
  induction h with
  | nil => rfl
  | cons hp _ ih => rw [Pipeline.traceAll, Plan.traceAll, hp, ih]

theorem Plan.Compiled.trace {consumer : Schema} {p : Plan} {q : Pipeline}
    (h : Compiled consumer p q) : q.trace = p.trace := by
  induction h with
  | values => rfl
  | scan _ opened => simp only [Plan.trace, opened, Pipeline.trace]
  | filter _ _ ih | project _ _ ih => rw [Plan.trace, Pipeline.trace, ih]
  | union _ length _ ih =>
    rw [Plan.trace, Pipeline.trace]
    exact traceAll_eq (List.forall₂_iff_zip.2 ⟨length, fun h => ih _ _ h⟩)
  | join _ _ _ ihr ihl =>
    simp only [Plan.trace, Pipeline.trace, ihr, ihl, List.nil_append]

namespace Pipeline

theorem ends_of_trace {q : Pipeline} (trace : q.trace = []) : Ends q := by
  rcases step : q.step? with _ | ⟨b, rest⟩
  · exact ends_of_step? q step
  · rw [(steps_of_step? q b rest step).trace] at trace
    cases trace

theorem steps_of_trace {q : Pipeline} {t : Stream} {ts : List Stream} (trace : q.trace = t :: ts) :
    ∃ b rest, Steps q b rest ∧ b.stream = t ∧ rest.trace = ts := by
  rcases step : q.step? with _ | ⟨b, rest⟩
  · rw [(ends_of_step? q step).trace] at trace
    cases trace
  · have steps := steps_of_step? q b rest step
    rw [steps.trace] at trace
    obtain ⟨first, later⟩ := List.cons.inj trace
    exact ⟨b, rest, steps, first, later⟩

end Pipeline

/-! ## Runs of equal traces -/

namespace Consumer

variable {σ : Type} (c : Consumer σ) (stop : σ → Option Error)

theorem drive_of_trace {q q' : Pipeline} (same : q'.trace = q.trace) (s : σ) :
    ∃ tests, c.drive stop q' s = { c.drive stop q s with tests := tests } := by
  induction q using Pipeline.step_induction generalizing q' s with
  | ends q ends =>
    have ends' := Pipeline.ends_of_trace (same.trans ends.trace)
    refine ⟨0, ?_⟩
    rcases stops : stop s with _ | e
    · rw [drive_of_ends stops ends, drive_of_ends stops ends']
    · rw [drive_of_stop stops, drive_of_stop stops]
  | steps q b rest steps ih =>
    rcases stops : stop s with _ | e
    · obtain ⟨b', rest', steps', given, later⟩ :=
        Pipeline.steps_of_trace (same.trans steps.trace)
      have delivered := b'.deliver_stream c.push s
      rw [given, ← b.deliver_stream] at delivered
      rw [drive_of_steps stops steps, drive_of_steps stops steps']
      generalize b.deliver c.push s = d at delivered ⊢
      generalize b'.deliver c.push s = d' at delivered ⊢
      obtain ⟨result, tests, s⟩ := d
      obtain ⟨result', tests', s'⟩ := d'
      obtain ⟨rfl, rfl⟩ := Prod.mk.inj delivered
      rcases result' with e | ⟨⟩
      · exact ⟨tests', rfl⟩
      · obtain ⟨more, driven⟩ := ih later s'
        exact ⟨tests' + more, by simp only [driven]⟩
    · refine ⟨0, ?_⟩
      rw [drive_of_stop stops, drive_of_stop stops]

theorem run_of_trace {q q' : Pipeline} (same : q'.trace = q.trace) (s : σ) :
    ∃ tests, c.run stop q' s = { c.run stop q s with tests := tests } := by
  obtain ⟨tests, driven⟩ := c.drive_of_trace stop same s
  refine ⟨tests, ?_⟩
  unfold run
  rw [driven]
  generalize c.drive stop q s = d
  obtain ⟨e | ⟨⟩, steps, tests', t⟩ := d
  · rfl
  · rfl

theorem requests_of_trace {q q' : Pipeline} (same : q'.trace = q.trace) (s : σ) :
    c.requests stop q' s = c.requests stop q s := by
  obtain ⟨tests, ran⟩ := c.recorded.run_of_trace (fun t => stop t.1) same (s, [])
  rw [requests, ran, requests]

end Consumer

end QueryFlow
