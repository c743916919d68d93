import QueryFlow.Proofs.Engine.Effects

/-!
# Histories

What may happen on an engine between two runs. Whatever it is, sinks that exist stay, and what is
bound stays bound: a sink that leads to a buffer goes on leading to it.
-/

namespace QueryFlow

/-- One thing that is done with an engine. Runs may fail or be cancelled, and what is prepared or
stepped may be left where it is. -/
inductive Use
  | newBuffer (schema : Schema) (policy : Policy)
  | newLazySink (schema : Schema)
  | bind (lazySink : Nat) (target : SinkId)
  | push (sink : SinkId) (r : Row)
  | finish (sink : SinkId)
  | takeRows (buffer : Nat)
  | setCancelled (cancelled : Bool)
  | step (source : Source SinkId)
  | prepare (plan : Plan)
  | drivePrepared (options : RunOptions) (p : Prepared)
  | run (options : RunOptions) (entry : Entry)
  | execute (options : RunOptions) (plan : Plan)

def Use.perform (g : Engine) : Use → Engine
  | newBuffer schema policy => (g.newBuffer schema policy).2
  | newLazySink schema => (g.newLazySink schema).2
  | bind lazySink target => (g.bind lazySink target).2
  | push sink r => (g.push sink r).2
  | finish sink => (g.finish sink).2
  | takeRows buffer => (g.takeRows buffer).2
  | setCancelled cancelled => { g with cancelled := cancelled }
  | step source => (g.step source).2.2
  | prepare plan => (g.prepare plan).2
  | drivePrepared options p => (g.drivePrepared options p).2
  | run options entry => (g.run options entry).2
  | execute options plan => (g.execute options plan).2

namespace Engine

structure Kept (P : Engine → Prop) : Prop where
  push : ∀ g sink r, P g → P (push sink r g).2
  finish : ∀ g sink, P g → P (finish sink g).2
  flags : ∀ (g : Engine) cancelled profile, P g →
    P { g with cancelled := cancelled, profile := profile }

namespace Kept

variable {P : Engine → Prop} {g : Engine}

theorem step (kept : Kept P) (source : Source SinkId) (h : P g) : P (g.step source).2.2 := by
  unfold Engine.step
  rcases source.step? with _ | ⟨b, next, rest⟩
  · exact h
  · exact kept.flags _ _ _ (Source.deliver_keeps (fun r k => kept.push k next r) b g h)

theorem drive (kept : Kept P) (options : RunOptions) (source : Source SinkId) (terminal : SinkId)
    (h : P g) : P (g.drive options source terminal).2 := by
  have driven : P (source.drive options.stop Engine.push g).state :=
    Source.drive_keeps (fun next r k => kept.push k next r) source g h
  unfold Engine.drive
  generalize source.drive options.stop Engine.push g = d at driven
  have counted := kept.flags _ d.state.cancelled
    ((d.state.countFilters d.tests).countDrive d.steps).profile driven
  simp only
  split
  · exact counted
  · exact kept.finish _ terminal counted

theorem compilePlan (kept : Kept P) (plan : Plan) (next : SinkId) (h : P g) :
    P (g.compilePlan plan next).2 := by
  unfold Engine.compilePlan
  split
  · exact h
  · exact kept.flags g _ _ h

theorem run (kept : Kept P) (options : RunOptions) (entry : Entry) (h : P g) :
    P (g.run options entry).2 := by
  have compiled := kept.compilePlan entry.plan (.lazySink entry.sink) h
  unfold Engine.run
  split
  · exact h
  · generalize g.compilePlan entry.plan (.lazySink entry.sink) = c at compiled ⊢
    rcases c with ⟨e | source, k⟩
    · exact compiled
    · exact kept.drive options source _ compiled

theorem drivePrepared (kept : Kept P) (options : RunOptions) (p : Prepared) (h : P g) :
    P (g.drivePrepared options p).2 := by
  unfold Engine.drivePrepared
  split
  · exact h
  · exact kept.drive options _ _ h

end Kept

def afterUses (uses : List Use) (g : Engine) : Engine := uses.foldl Use.perform g

/-- `g.Extends h`: `h` has the sinks of `g`, with what was bound of them, and perhaps more. -/
structure Extends (g h : Engine) : Prop where
  lazySink : ∀ i, (g.lazySink i).isBound = true → h.lazySink i = g.lazySink i
  size : g.buffers.size ≤ h.buffers.size
  buffer : ∀ i, i < g.buffers.size →
    (h.buffer i).schema = (g.buffer i).schema ∧ (h.buffer i).policy = (g.buffer i).policy

variable {g h k : Engine}

namespace Extends

theorem refl (g : Engine) : g.Extends g := ⟨fun _ _ => rfl, Nat.le_refl _, fun _ _ => ⟨rfl, rfl⟩⟩

theorem trans (gh : g.Extends h) (hk : h.Extends k) : g.Extends k where
  lazySink i bound := by
    have same := gh.lazySink i bound
    rw [← same] at bound ⊢
    exact hk.lazySink i bound
  size := Nat.le_trans gh.size hk.size
  buffer i holds := by
    obtain ⟨schema, policy⟩ := gh.buffer i holds
    obtain ⟨schema', policy'⟩ := hk.buffer i (Nat.lt_of_lt_of_le holds gh.size)
    exact ⟨schema'.trans schema, policy'.trans policy⟩

theorem flags (g : Engine) (cancelled : Bool) (profile : Profile) :
    g.Extends { g with cancelled := cancelled, profile := profile } :=
  ⟨fun _ _ => rfl, Nat.le_refl _, fun _ _ => ⟨rfl, rfl⟩⟩

theorem changeBuffer (g : Engine) (b : Nat) {f : Buffer → Buffer}
    (stays : ∀ x, (f x).schema = x.schema ∧ (f x).policy = x.policy) :
    g.Extends (g.changeBuffer b f) where
  lazySink _ _ := rfl
  size := Nat.le_of_eq Array.size_modify.symm
  buffer i _ := by
    rw [buffer_changeBuffer]
    split
    · exact stays _
    · exact ⟨rfl, rfl⟩

theorem setLazySink {i : Nat} (unbound : (g.lazySink i).isBound = false) (l : LazySink) :
    g.Extends (g.setLazySink i l) where
  lazySink j bound := by
    have other : i ≠ j := by
      rintro rfl
      cases unbound.symm.trans bound
    rw [lazySink_setLazySink, if_neg fun both => other both.1]
  size := Nat.le_refl _
  buffer _ _ := ⟨rfl, rfl⟩

theorem newBuffer (g : Engine) (schema : Schema) (policy : Policy) :
    g.Extends (g.newBuffer schema policy).2 where
  lazySink _ _ := rfl
  size := Nat.le_of_lt (Nat.lt_of_lt_of_eq (Nat.lt_succ_self _) (Array.size_push _).symm)
  buffer i holds := by
    rw [buffer_newBuffer, if_neg (Nat.ne_of_lt holds)]
    exact ⟨rfl, rfl⟩

theorem newLazySink (g : Engine) (schema : Schema) : g.Extends (g.newLazySink schema).2 where
  lazySink i bound := by
    have other : i ≠ g.lazySinks.size := by
      rintro rfl
      simp [Engine.lazySink, LazySink.isBound, LazySink.unbound] at bound
    rw [lazySink_newLazySink, if_neg other]
  size := Nat.le_refl _
  buffer _ _ := ⟨rfl, rfl⟩

theorem bind (g : Engine) (i : Nat) (target : SinkId) : g.Extends (g.bind i target).2 := by
  rcases bind_cases g i target with ⟨e, refused⟩ | ⟨unbound, -, bound⟩
  · rw [refused]
    exact .refl g
  · rw [bound]
    exact .setLazySink (by rw [LazySink.isBound, unbound]; rfl) _

theorem push (g : Engine) (sink : SinkId) (r : Row) : g.Extends (push sink r g).2 := by
  unfold Engine.push
  rcases g.route sink with b | _ | _
  · simp only
    split
    · exact .refl g
    · have kept := changeBuffer g b (f := Buffer.keep r) fun _ => ⟨rfl, rfl⟩
      simp only
      split
      · exact kept.trans (.flags _ true _)
      · exact kept
  · exact .refl g
  · exact .refl g

theorem finish (g : Engine) (sink : SinkId) : g.Extends (finish sink g).2 := by
  unfold Engine.finish
  rcases g.route sink with b | _ | _
  · refine changeBuffer g b fun x => ?_
    unfold Buffer.finish
    split <;> exact ⟨rfl, rfl⟩
  · exact .refl g
  · exact .refl g

theorem kept (g : Engine) : Kept g.Extends where
  push h sink r sofar := sofar.trans (push h sink r)
  finish h sink sofar := sofar.trans (finish h sink)
  flags h cancelled profile sofar := sofar.trans (flags h cancelled profile)

theorem run (g : Engine) (options : RunOptions) (entry : Entry) :
    g.Extends (g.run options entry).2 :=
  (kept g).run options entry (refl g)

theorem prepare (g : Engine) (plan : Plan) : g.Extends (g.prepare plan).2 :=
  (kept g).compilePlan plan _ (newLazySink g plan.schema)

theorem attached (g : Engine) (schema : Schema) : g.Extends (g.attached schema) := by
  have fresh := (newBuffer g schema .keep).trans (.newLazySink _ schema)
  refine fresh.trans (.setLazySink ?_ _)
  exact congrArg LazySink.isBound (g.lazySink_extended schema)

theorem execute (g : Engine) (options : RunOptions) (plan : Plan) :
    g.Extends (g.execute options plan).2 := by
  have ran := (attached g plan.schema).trans (.run _ options ⟨plan, g.lazySinks.size⟩)
  rw [execute_run]
  generalize (g.attached plan.schema).run options ⟨plan, g.lazySinks.size⟩ = run at ran ⊢
  rcases run with ⟨e | steps, h⟩
  · exact ran
  · exact ran.trans (.changeBuffer h g.buffers.size fun _ => ⟨rfl, rfl⟩)

theorem perform (g : Engine) (use : Use) : g.Extends (use.perform g) := by
  cases use with
  | newBuffer schema policy => exact newBuffer g schema policy
  | newLazySink schema => exact newLazySink g schema
  | bind i target => exact bind g i target
  | push sink r => exact push g sink r
  | finish sink => exact finish g sink
  | takeRows buffer => exact changeBuffer g buffer fun _ => ⟨rfl, rfl⟩
  | setCancelled cancelled => exact flags g cancelled g.profile
  | step source => exact (kept g).step source (refl g)
  | prepare plan => exact prepare g plan
  | drivePrepared options p => exact (kept g).drivePrepared options p (refl g)
  | run options entry => exact run g options entry
  | execute options plan => exact execute g options plan

theorem afterUses (uses : List Use) (g : Engine) : g.Extends (g.afterUses uses) := by
  induction uses generalizing g with
  | nil => exact .refl g
  | cons use uses ih => exact (perform g use).trans (ih (use.perform g))

end Extends

theorem Keeps.later {sink : SinkId} {b : Nat} (keeps : g.Keeps sink b) (later : g.Extends h) :
    h.Keeps sink b where
  route := by
    have bound (i : Nat) (target : SinkId) (filled : (g.lazySink i).target = some target) :
        (h.lazySink i).target = some target := by
      rw [later.lazySink i (by rw [LazySink.isBound, filled]; rfl), filled]
    exact route_of_leads ((leads_of_route keeps.route).mono bound) trivial
  holds := Nat.lt_of_lt_of_le keeps.holds later.size
  policy := (later.buffer b keeps.holds).2.trans keeps.policy

end Engine

end QueryFlow
