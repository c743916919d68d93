import QueryFlow.Proofs.Engine.Sinks

/-!
# Engines that are reachable

The states of an engine that its operations lead to, in any order. A lazy sink that is bound leads
to a sink that accepts its rows, and so does a chain of them.
-/

namespace QueryFlow.Engine

/-- The engines that the operations on sinks lead to. What else a run does only counts, and anyone
may request cancellation. -/
inductive Reachable : Engine → Prop
  | initial : Reachable initial
  | newBuffer {g} (schema policy) : Reachable g → Reachable (g.newBuffer schema policy).2
  | newLazySink {g} (schema) : Reachable g → Reachable (g.newLazySink schema).2
  | bind {g} (i) {target} : Reachable g → g.Holds target → Reachable (g.bind i target).2
  | push {g} (sink r) : Reachable g → Reachable (push sink r g).2
  | finish {g} (sink) : Reachable g → Reachable (finish sink g).2
  | takeRows {g} (buffer) : Reachable g → Reachable (g.takeRows buffer).2
  | flags {g} (cancelled profile) : Reachable g →
      Reachable { g with cancelled := cancelled, profile := profile }

/-- `g.Leads a b`: what is pushed to `a` goes through `b`, after any number of lazy sinks. -/
inductive Leads (g : Engine) : SinkId → SinkId → Prop
  | refl {a} : Leads g a a
  | hop {i target b} : (g.lazySink i).target = some target → Leads g target b →
      Leads g (.lazySink i) b

structure Bounds (g : Engine) : Prop where
  holds : ∀ i target, (g.lazySink i).target = some target → g.Holds target
  accepts : ∀ i target, (g.lazySink i).target = some target →
    (g.schema target).accepts (g.lazySink i).schema = true

namespace Bounds

variable {g h : Engine}

theorem initial : Bounds initial where
  holds _ _ bound := by cases bound
  accepts _ _ bound := by cases bound

theorem same (bounds : Bounds g) (same : SameSinks g h) : Bounds h where
  holds i target bound := by
    rw [same.lazySink] at bound
    exact same.holds.2 (bounds.holds i target bound)
  accepts i target bound := by
    rw [same.lazySink] at bound ⊢
    rw [same.schema_eq]
    exact bounds.accepts i target bound

theorem newBuffer (bounds : Bounds g) (schema : Schema) (policy : Policy) :
    Bounds (g.newBuffer schema policy).2 where
  holds i target bound := by
    have held := bounds.holds i target bound
    cases target with
    | buffer j => exact Nat.lt_of_lt_of_eq (Nat.lt_succ_of_lt held) (Array.size_push _).symm
    | lazySink j => exact held
  accepts i target bound := by
    have held := bounds.holds i target bound
    have accepts := bounds.accepts i target bound
    cases target with
    | buffer j =>
      rw [Engine.schema, buffer_newBuffer, if_neg (Nat.ne_of_lt held)]
      exact accepts
    | lazySink j => exact accepts

theorem newLazySink (bounds : Bounds g) (schema : Schema) :
    Bounds (g.newLazySink schema).2 := by
  have old : ∀ i target, ((g.newLazySink schema).2.lazySink i).target = some target →
      (g.newLazySink schema).2.lazySink i = g.lazySink i ∧
        (g.lazySink i).target = some target := by
    intro i target bound
    rw [lazySink_newLazySink] at bound ⊢
    split at bound
    · cases bound
    · exact ⟨if_neg ‹_›, bound⟩
  refine ⟨?_, ?_⟩
  · intro i target bound
    have held := bounds.holds i target (old i target bound).2
    cases target with
    | buffer j => exact held
    | lazySink j => exact Nat.lt_of_lt_of_eq (Nat.lt_succ_of_lt held) (Array.size_push _).symm
  · intro i target bound
    obtain ⟨unchanged, before⟩ := old i target bound
    have held := bounds.holds i target before
    have accepts := bounds.accepts i target before
    rw [unchanged]
    cases target with
    | buffer j => exact accepts
    | lazySink j =>
      rw [Engine.schema, lazySink_newLazySink, if_neg (Nat.ne_of_lt held)]
      exact accepts

theorem schema_setTarget (i : Nat) (target sink : SinkId) :
    (g.setLazySink i { g.lazySink i with target := some target }).schema sink = g.schema sink := by
  cases sink with
  | buffer j => rfl
  | lazySink j =>
    rw [Engine.schema, Engine.schema, lazySink_setLazySink]
    split
    · rename_i h
      rw [h.1]
    · rfl

theorem holds_setLazySink (i : Nat) (l : LazySink) (sink : SinkId) :
    (g.setLazySink i l).Holds sink ↔ g.Holds sink := by
  cases sink with
  | buffer j => rfl
  | lazySink j => rw [Holds, Holds, setLazySink, Array.size_setIfInBounds]

theorem bind (bounds : Bounds g) (i : Nat) {target : SinkId} (holds : g.Holds target) :
    Bounds (g.bind i target).2 := by
  rcases bind_cases g i target with ⟨e, refused⟩ | ⟨-, accepts, bound⟩
  · rw [refused]
    exact bounds
  · rw [bound]
    refine ⟨?_, ?_⟩
    · intro j t slot
      rw [holds_setLazySink]
      rw [lazySink_setLazySink] at slot
      split at slot
      · cases slot
        exact holds
      · exact bounds.holds j t slot
    · intro j t slot
      rw [schema_setTarget]
      rw [lazySink_setLazySink] at slot ⊢
      split at slot
      · cases slot
        rw [if_pos ‹_›]
        exact accepts
      · rw [if_neg ‹_›]
        exact bounds.accepts j t slot

theorem leads (bounds : Bounds g) {a b : SinkId} (chain : g.Leads a b) :
    (g.schema b).accepts (g.schema a) = true := by
  induction chain with
  | refl => exact Schema.accepts_refl _
  | hop bound _ ih => exact Schema.accepts_trans ih (bounds.accepts _ _ bound)

end Bounds

theorem Reachable.bounds {g : Engine} (h : Reachable g) : Bounds g := by
  induction h with
  | initial => exact .initial
  | newBuffer schema policy _ ih => exact ih.newBuffer schema policy
  | newLazySink schema _ ih => exact ih.newLazySink schema
  | bind i _ holds ih => exact ih.bind i holds
  | push sink r _ ih => exact ih.same (sameSinks_push _ sink r)
  | finish sink _ ih => exact ih.same (sameSinks_finish _ sink)
  | takeRows buffer _ ih => exact ih.same (sameSinks_takeRows _ buffer)
  | flags cancelled profile _ ih => exact ih.same (.flags _ cancelled profile)

theorem leads_of_route {g : Engine} {hops : Nat} {sink : SinkId} {j : Nat}
    (route : g.routeWithin hops sink = .buffer j) : g.Leads sink (.buffer j) := by
  induction hops generalizing sink with
  | zero =>
    cases sink with
    | buffer i =>
      cases route
      exact .refl
    | lazySink i => cases route
  | succ hops ih =>
    cases sink with
    | buffer i =>
      cases route
      exact .refl
    | lazySink i =>
      rw [routeWithin] at route
      split at route
      · cases route
      · exact .hop ‹_› (ih route)

end QueryFlow.Engine
