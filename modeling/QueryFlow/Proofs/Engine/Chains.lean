import Mathlib.Data.Finset.Card
import QueryFlow.Proofs.Engine.Reachable

/-!
# Chains of lazy sinks

A lazy sink may be attached to any sink whose schema fits, so that chains can close into loops.
`chains_end`: every chain ends exactly if no bind was given a target that already led back to the
sink being bound; and then whatever is pushed to a lazy sink is pushed to the one end of its chain.
-/

namespace QueryFlow.Engine

def bindAll : List (Nat × SinkId) → Engine → Engine
  | [], g => g
  | (i, target) :: calls, g => bindAll calls (g.bind i target).2

/-- The sinks that hand nothing on: all but the lazy sinks that are bound. -/
def Final (g : Engine) : SinkId → Prop
  | .buffer _ => True
  | .lazySink i => (g.lazySink i).target = none

def Ends (g : Engine) (a : SinkId) : Prop := ∃ b, g.Leads a b ∧ g.Final b

/-- No bind that is accepted has a target that leads back to the sink being bound. -/
def ClosesNoLoop : List (Nat × SinkId) → Engine → Prop
  | [], _ => True
  | (i, target) :: calls, g =>
    ((g.bind i target).1 = .ok () → ¬ g.Leads target (.lazySink i)) ∧
      ClosesNoLoop calls (g.bind i target).2

variable {g h : Engine} {a b c : SinkId}

namespace Leads

theorem eq_of_final (chain : g.Leads a b) (final : g.Final a) : b = a := by
  cases chain with
  | refl => rfl
  | hop bound _ => cases final.symm.trans bound

theorem final_unique (hb : g.Leads a b) (finalb : g.Final b) (hc : g.Leads a c)
    (finalc : g.Final c) : b = c := by
  induction hb with
  | refl => exact (hc.eq_of_final finalb).symm
  | hop bound _ ih =>
    cases hc with
    | refl => cases finalc.symm.trans bound
    | hop bound' rest =>
      cases bound.symm.trans bound'
      exact ih finalb rest

theorem mono (later : ∀ i target, (g.lazySink i).target = some target →
    (h.lazySink i).target = some target) (chain : g.Leads a b) : h.Leads a b := by
  induction chain with
  | refl => exact .refl
  | hop bound _ ih => exact .hop (later _ _ bound) ih

theorem trans (first : g.Leads a b) (second : g.Leads b c) : g.Leads a c := by
  induction first with
  | refl => exact second
  | hop bound _ ih => exact .hop bound (ih second)

end Leads

/-! ## Routes -/

theorem routeWithin_succ {n : Nat} (short : g.routeWithin n a ≠ .endless) :
    g.routeWithin (n + 1) a = g.routeWithin n a := by
  induction n generalizing a with
  | zero =>
    cases a with
    | buffer i => rfl
    | lazySink i => exact absurd rfl short
  | succ n ih =>
    cases a with
    | buffer i => rfl
    | lazySink i =>
      rw [routeWithin, routeWithin]
      rw [routeWithin] at short
      cases bound : (g.lazySink i).target with
      | none => rfl
      | some target =>
        rw [bound] at short
        exact ih short

theorem routeWithin_add {n : Nat} (short : g.routeWithin n a ≠ .endless) (k : Nat) :
    g.routeWithin (n + k) a = g.routeWithin n a := by
  induction k with
  | zero => rfl
  | succ k ih => rw [← Nat.add_assoc, routeWithin_succ (ih ▸ short), ih]

theorem lt_of_bound {i : Nat} {target : SinkId} (bound : (g.lazySink i).target = some target) :
    i < g.lazySinks.size := by
  by_contra absent
  rw [lazySink, Array.getD_eq_getD_getElem?, Array.getElem?_eq_none (Nat.le_of_not_lt absent)]
    at bound
  cases bound

/-- A chain that takes `n` hops and no fewer passes `n` different lazy sinks: of each it takes
another number of hops to the end. -/
theorem exists_passed {n : Nat} (long : g.routeWithin n a = .endless)
    (short : g.routeWithin (n + 1) a ≠ .endless) :
    ∃ passed : Finset Nat, passed ⊆ Finset.range g.lazySinks.size ∧ passed.card = n ∧
      ∀ i ∈ passed, g.routeWithin (n + 1) (.lazySink i) ≠ .endless := by
  induction n generalizing a with
  | zero => exact ⟨∅, Finset.empty_subset _, rfl, by simp⟩
  | succ n ih =>
    cases a with
    | buffer i => cases long
    | lazySink i =>
      have longer := long
      rw [routeWithin] at long short
      cases bound : (g.lazySink i).target with
      | none =>
        rw [bound] at long
        cases long
      | some target =>
        simp only [bound] at long short
        obtain ⟨passed, within, card, shorter⟩ := ih long short
        have fresh : i ∉ passed := fun mem => shorter i mem longer
        refine ⟨insert i passed, ?_, ?_, ?_⟩
        · exact Finset.insert_subset (Finset.mem_range.2 (lt_of_bound bound)) within
        · rw [Finset.card_insert_of_notMem fresh, card]
        · intro j mem
          rcases Finset.mem_insert.1 mem with rfl | old
          · rw [routeWithin, bound]
            exact short
          · rw [routeWithin_succ (shorter j old)]
            exact shorter j old

theorem route_short {n : Nat} (short : g.routeWithin n a ≠ .endless) : g.route a ≠ .endless := by
  have enough {m : Nat} (short : g.routeWithin m a ≠ .endless) (few : m ≤ g.lazySinks.size + 1) :
      g.route a ≠ .endless := by
    obtain ⟨k, more⟩ := Nat.exists_eq_add_of_le few
    rw [route, more, routeWithin_add short]
    exact short
  induction n with
  | zero => exact enough short (Nat.zero_le _)
  | succ n ih =>
    by_cases long : g.routeWithin n a = .endless
    · obtain ⟨passed, within, card, -⟩ := exists_passed long short
      have bound := Finset.card_le_card within
      rw [card, Finset.card_range] at bound
      exact enough short (Nat.succ_le_succ bound)
    · exact ih long

theorem route_eq {n : Nat} (short : g.routeWithin n a ≠ .endless) :
    g.route a = g.routeWithin n a := by
  rw [← routeWithin_add short (g.lazySinks.size + 1), Nat.add_comm n]
  exact (routeWithin_add (route_short short) n).symm

def endRoute : SinkId → Route
  | .buffer j => .buffer j
  | .lazySink _ => .unbound

theorem routeWithin_of_leads (chain : g.Leads a b) (final : g.Final b) :
    ∃ n, g.routeWithin n a = endRoute b := by
  induction chain with
  | @refl b =>
    cases b with
    | buffer j => exact ⟨0, rfl⟩
    | lazySink i =>
      have unbound : (g.lazySink i).target = none := final
      exact ⟨1, by rw [routeWithin, unbound]; rfl⟩
  | hop bound _ ih =>
    obtain ⟨n, found⟩ := ih final
    exact ⟨n + 1, by rw [routeWithin, bound]; exact found⟩

theorem route_of_leads (chain : g.Leads a b) (final : g.Final b) : g.route a = endRoute b := by
  obtain ⟨n, found⟩ := routeWithin_of_leads chain final
  have short : g.routeWithin n a ≠ .endless := by
    rw [found]
    cases b <;> exact nofun
  rw [route_eq short, found]

theorem leads_of_routeWithin {n : Nat} (short : g.routeWithin n a ≠ .endless) : g.Ends a := by
  induction n generalizing a with
  | zero =>
    cases a with
    | buffer i => exact ⟨_, .refl, trivial⟩
    | lazySink i => exact absurd rfl short
  | succ n ih =>
    cases a with
    | buffer i => exact ⟨_, .refl, trivial⟩
    | lazySink i =>
      rw [routeWithin] at short
      cases bound : (g.lazySink i).target with
      | none => exact ⟨_, .refl, bound⟩
      | some target =>
        simp only [bound] at short
        obtain ⟨b, chain, final⟩ := ih short
        exact ⟨b, .hop bound chain, final⟩

theorem route_eq_endless_iff : g.route a = .endless ↔ ¬ g.Ends a := by
  constructor
  · rintro endless ⟨b, chain, final⟩
    rw [route_of_leads chain final] at endless
    cases b <;> cases endless
  · intro never
    by_contra short
    exact never (leads_of_routeWithin short)

/-! ## Binds -/

theorem target_bind {i : Nat} {target : SinkId} (accepted : (g.bind i target).1 = .ok ())
    (holds : i < g.lazySinks.size) :
    (g.lazySink i).target = none ∧
      ∀ j, ((g.bind i target).2.lazySink j).target =
        if i = j then some target else (g.lazySink j).target := by
  rcases bind_cases g i target with ⟨e, refused⟩ | ⟨unbound, -, bound⟩
  · rw [refused] at accepted
    cases accepted
  · refine ⟨unbound, fun j => ?_⟩
    rw [bound, lazySink_setLazySink]
    by_cases same : i = j
    · rw [if_pos ⟨same, holds⟩, if_pos same]
    · rw [if_neg fun h => same h.1, if_neg same]

theorem bind_of_refused {i : Nat} {target : SinkId} (refused : (g.bind i target).1 ≠ .ok ()) :
    (g.bind i target).2 = g := by
  rcases bind_cases g i target with ⟨e, same⟩ | ⟨-, -, bound⟩
  · rw [same]
  · rw [bound] at refused
    exact absurd rfl refused

theorem target_bindAll (calls : List (Nat × SinkId)) {i : Nat} {target : SinkId}
    (bound : (g.lazySink i).target = some target) :
    ((g.bindAll calls).lazySink i).target = some target := by
  induction calls generalizing g with
  | nil => exact bound
  | cons call calls ih =>
    obtain ⟨j, t⟩ := call
    apply ih
    rcases bind_cases g j t with ⟨e, same⟩ | ⟨unbound, -, filled⟩
    · rw [same]
      exact bound
    · have other : j ≠ i := by
        rintro rfl
        cases bound.symm.trans unbound
      rw [filled, lazySink_setLazySink, if_neg fun h => other h.1]
      exact bound

theorem size_bind (g : Engine) (i : Nat) (target : SinkId) :
    (g.bind i target).2.lazySinks.size = g.lazySinks.size := by
  rcases bind_cases g i target with ⟨e, same⟩ | ⟨-, -, bound⟩
  · rw [same]
  · rw [bound, setLazySink, Array.size_setIfInBounds]

theorem ends_bind {i : Nat} {target : SinkId} (accepted : (g.bind i target).1 = .ok ())
    (holds : i < g.lazySinks.size) (ends : ∀ a, g.Ends a)
    (apart : ¬ g.Leads target (.lazySink i)) (a : SinkId) : (g.bind i target).2.Ends a := by
  obtain ⟨unbound, targets⟩ := target_bind accepted holds
  have later : ∀ j t, (g.lazySink j).target = some t →
      ((g.bind i target).2.lazySink j).target = some t := by
    intro j t bound
    rw [targets, if_neg, bound]
    rintro rfl
    cases bound.symm.trans unbound
  have stays {b : SinkId} (final : g.Final b) (other : b ≠ .lazySink i) :
      (g.bind i target).2.Final b := by
    cases b with
    | buffer j => trivial
    | lazySink j =>
      rw [Final, targets, if_neg fun same => other (by rw [same])]
      exact final
  obtain ⟨b, chain, final⟩ := ends a
  by_cases here : b = .lazySink i
  · -- The chain of `a` now goes on from where it ended, along that of the target.
    subst here
    obtain ⟨c, rest, last⟩ := ends target
    have other : c ≠ .lazySink i := fun same => apart (same ▸ rest)
    have hop : ((g.bind i target).2.lazySink i).target = some target := by
      rw [targets, if_pos rfl]
    exact ⟨c, (chain.mono later).trans (.hop hop (rest.mono later)), stays last other⟩
  · exact ⟨b, chain.mono later, stays final here⟩

theorem leads_back {i : Nat} {target : SinkId} (bound : (g.lazySink i).target = some target)
    (loop : g.Leads target (.lazySink i)) (chain : g.Leads a b) (back : g.Leads a (.lazySink i)) :
    g.Leads b (.lazySink i) := by
  induction chain with
  | refl => exact back
  | hop next _ ih =>
    apply ih
    cases back with
    | refl =>
      cases bound.symm.trans next
      exact loop
    | hop next' rest =>
      cases next.symm.trans next'
      exact rest

theorem not_ends_of_loop {i : Nat} {target : SinkId} (bound : (g.lazySink i).target = some target)
    (loop : g.Leads target (.lazySink i)) : ¬ g.Ends (.lazySink i) := by
  rintro ⟨b, chain, final⟩
  have back := leads_back bound loop chain .refl
  obtain rfl := back.eq_of_final final
  cases bound.symm.trans final

theorem ends_bindAll_iff {calls : List (Nat × SinkId)}
    (among : ∀ call ∈ calls, call.1 < g.lazySinks.size) (ends : ∀ a, g.Ends a) :
    (∀ a, (g.bindAll calls).Ends a) ↔ ClosesNoLoop calls g := by
  induction calls generalizing g with
  | nil => exact ⟨fun _ => trivial, fun _ => ends⟩
  | cons call calls ih =>
    obtain ⟨i, target⟩ := call
    obtain ⟨holds, rest⟩ := List.forall_mem_cons.1 among
    rw [← size_bind g i target] at rest
    by_cases accepted : (g.bind i target).1 = .ok ()
    · by_cases loop : g.Leads target (.lazySink i)
      · obtain ⟨unbound, targets⟩ := target_bind accepted holds
        refine ⟨fun all => ?_, fun safe => absurd loop (safe.1 accepted)⟩
        have later : ∀ j t, ((g.bind i target).2.lazySink j).target = some t →
            ((g.bindAll ((i, target) :: calls)).lazySink j).target = some t :=
          fun j t => target_bindAll calls
        have grown : (g.bind i target).2.Leads target (.lazySink i) := by
          refine loop.mono fun j t bound => ?_
          rw [targets, if_neg, bound]
          rintro rfl
          cases bound.symm.trans unbound
        have bound := later i target (by rw [targets, if_pos rfl])
        exact absurd (all _) (not_ends_of_loop bound (grown.mono later))
      · have next := ih rest (ends_bind accepted holds ends loop)
        exact next.trans ⟨fun safe => ⟨fun _ => loop, safe⟩, And.right⟩
    · have next := ih rest (by rw [bind_of_refused accepted]; exact ends)
      exact next.trans ⟨fun safe => ⟨fun ok => absurd ok accepted, safe⟩, And.right⟩

/-! ## Pushes -/

/-- What is done to `a` is done to the sink `b` alone, which is the end of its chain. -/
def HandsTo (g : Engine) (a : SinkId) : SinkId → Prop
  | .buffer j =>
    (∀ r, push a r g = push (.buffer j) r g) ∧ finish a g = finish (.buffer j) g ∧
      ∀ k, k ≠ j → (∀ r, (push a r g).2.buffer k = g.buffer k) ∧
        (finish a g).2.buffer k = g.buffer k
  | .lazySink _ =>
    (∀ r, push a r g = (.error (.error (.unbound "lazy sink")), g)) ∧
      finish a g = (.error (.error (.unbound "lazy sink")), g)

theorem buffer_push_of_ne {j k : Nat} (other : k ≠ j) (r : Row) :
    (push (.buffer j) r g).2.buffer k = g.buffer k := by
  have changed : (g.changeBuffer j (Buffer.keep r)).buffer k = g.buffer k := by
    rw [buffer_changeBuffer, if_neg fun h => other h.1.symm]
  unfold push
  simp only [route, routeWithin]
  rcases (g.buffer j).refusal? with _ | e
  · simp only
    split
    · exact changed
    · exact changed
  · rfl

theorem handsTo_of_leads (chain : g.Leads a b) (final : g.Final b) : g.HandsTo a b := by
  have found := route_of_leads chain final
  cases b with
  | buffer j =>
    have pushed : ∀ r, push a r g = push (.buffer j) r g := by
      intro r
      unfold push
      rw [found]
      rfl
    have finished : finish a g = finish (.buffer j) g := by
      unfold finish
      rw [found]
      rfl
    refine ⟨pushed, finished, fun k other => ⟨fun r => ?_, ?_⟩⟩
    · rw [pushed]
      exact buffer_push_of_ne other r
    · rw [finished]
      show (g.changeBuffer j Buffer.finish).buffer k = g.buffer k
      rw [buffer_changeBuffer, if_neg fun h => other h.1.symm]
  | lazySink i =>
    refine ⟨fun r => ?_, ?_⟩
    · unfold push
      rw [found]
      rfl
    · unfold finish
      rw [found]
      rfl

theorem push_eq_endless_iff (r : Row) : (push a r g).1 = .error .endless ↔ ¬ g.Ends a := by
  rw [← route_eq_endless_iff]
  unfold push
  rcases g.route a with j | _ | _
  · simp only
    rcases (g.buffer j).refusal? with _ | e <;> simp
  · simp
  · simp

theorem chains_end {calls : List (Nat × SinkId)}
    (among : ∀ call ∈ calls, call.1 < g.lazySinks.size)
    (start : ∀ i, (g.lazySink i).target = none) :
    let h := g.bindAll calls
    ((∀ a, ∃ b, h.Leads a b ∧ h.Final b) ↔ ClosesNoLoop calls g) ∧
      (ClosesNoLoop calls g → ∀ a, ∃! b, h.Leads a b ∧ h.Final b ∧ h.HandsTo a b) ∧
      ∀ a r, (push a r h).1 = .error .endless ↔ ¬ ∃ b, h.Leads a b ∧ h.Final b := by
  have ends : ∀ a, g.Ends a := by
    intro a
    cases a with
    | buffer i => exact ⟨_, .refl, trivial⟩
    | lazySink i => exact ⟨_, .refl, start i⟩
  have loopless := ends_bindAll_iff among ends
  refine ⟨loopless, ?_, fun a r => push_eq_endless_iff r⟩
  intro safe a
  obtain ⟨b, chain, final⟩ := loopless.2 safe a
  refine ⟨b, ⟨chain, final, handsTo_of_leads chain final⟩, ?_⟩
  rintro c ⟨chain', final', -⟩
  exact chain'.final_unique final' chain final

theorem chains_end_row :
    let s : Schema := ⟨[⟨"n", .int, true⟩]⟩
    let lazy : LazySink := .unbound s
    let g : Engine := ⟨#[.empty s .keep], #[lazy, lazy, lazy], false, ⟨0, 0, 0, 0⟩⟩
    let calls : List (Nat × SinkId) :=
      [(2, .buffer 0), (1, .lazySink 2), (0, .lazySink 1), (2, .lazySink 0)]
    let h := g.bindAll calls
    ClosesNoLoop calls g ∧ h.Leads (.lazySink 0) (.buffer 0) ∧
      ∀ r, push (.lazySink 0) r h = push (.buffer 0) r h := by
  intro s lazy g calls h
  have start : ∀ i, (g.lazySink i).target = none
    | 0 | 1 | 2 | _ + 3 => rfl
  have ends := @chains_end g calls (by decide) start
  have targets : (h.lazySink 0).target = some (.lazySink 1) ∧
      (h.lazySink 1).target = some (.lazySink 2) ∧ (h.lazySink 2).target = some (.buffer 0) ∧
      h.lazySinks.size = 3 := by
    simp only [h, calls, g, lazy, s]
    decide
  obtain ⟨first, second, third, size⟩ := targets
  have chain : h.Leads (.lazySink 0) (.buffer 0) := .hop first (.hop second (.hop third .refl))
  have safe : ClosesNoLoop calls g := by
    refine ends.1.1 fun a => ?_
    match a with
    | .buffer i => exact ⟨.buffer i, .refl, trivial⟩
    | .lazySink 0 => exact ⟨.buffer 0, chain, trivial⟩
    | .lazySink 1 => exact ⟨.buffer 0, .hop second (.hop third .refl), trivial⟩
    | .lazySink 2 => exact ⟨.buffer 0, .hop third .refl, trivial⟩
    | .lazySink (i + 3) =>
      have final : (h.lazySink (i + 3)).target = none := by
        cases bound : (h.lazySink (i + 3)).target with
        | none => rfl
        | some target => exact absurd (lt_of_bound bound) (by omega)
      exact ⟨.lazySink (i + 3), .refl, final⟩
  obtain ⟨b, ⟨leads, final, hands⟩, -⟩ := ends.2.1 safe (.lazySink 0)
  obtain rfl := chain.final_unique trivial leads final
  exact ⟨safe, chain, hands.1⟩

/-- Two lazy sinks may be attached to each other, and then neither comes to an end. -/
theorem binds_close_loop :
    let s : Schema := ⟨[⟨"n", .int, true⟩]⟩
    let g : Engine := ⟨#[], #[.unbound s, .unbound s], false, ⟨0, 0, 0, 0⟩⟩
    let h := g.bindAll [(0, .lazySink 1), (1, .lazySink 0)]
    (∀ i, (g.lazySink i).target = none) ∧
      (¬ ∃ b, h.Leads (.lazySink 0) b ∧ h.Final b) ∧
      ∀ r, push (.lazySink 0) r h = (.error .endless, h) := by
  intro s g h
  have start : ∀ i, (g.lazySink i).target = none
    | 0 | 1 | _ + 2 => rfl
  have targets : (h.lazySink 0).target = some (.lazySink 1) ∧
      (h.lazySink 1).target = some (.lazySink 0) := by
    simp only [h, g, s]
    decide
  obtain ⟨first, second⟩ := targets
  have never : ¬ h.Ends (.lazySink 0) := not_ends_of_loop first (.hop second .refl)
  have endless := route_eq_endless_iff.2 never
  have pushed (r : Row) : push (.lazySink 0) r h = (.error .endless, h) := by
    unfold push
    rw [endless]
  exact ⟨start, never, pushed⟩

end QueryFlow.Engine
