import QueryFlow.Plan
import Mathlib.Data.List.Basic

/-!
# Explained plans

`explain_determines`: the explained text of a plan has one line for each node of the tree, in
pre-order and indented by its depth, and nothing of the tree is lost in it.
-/

namespace QueryFlow

/-- What can be seen of a plan: the shape of the tree, with the display of each node. -/
inductive Outline
  | node (display : String) (inputs : List Outline)

structure Line where
  depth : Nat
  display : String
  deriving DecidableEq

namespace Outline

mutual

def lines (depth : Nat) : Outline → List Line
  | node display inputs => ⟨depth, display⟩ :: linesAll (depth + 1) inputs

def linesAll (depth : Nat) : List Outline → List Line
  | [] => []
  | o :: os => lines depth o ++ linesAll depth os

end

mutual

def size : Outline → Nat
  | node _ inputs => sizeAll inputs + 1

def sizeAll : List Outline → Nat
  | [] => 0
  | o :: os => size o + sizeAll os

end

mutual

theorem length_lines (depth : Nat) (o : Outline) : (o.lines depth).length = o.size := by
  match o with
  | node display inputs => rw [lines, List.length_cons, size, length_linesAll]

theorem length_linesAll (depth : Nat) (os : List Outline) :
    (linesAll depth os).length = sizeAll os := by
  match os with
  | [] => rfl
  | o :: os => rw [linesAll, List.length_append, sizeAll, length_lines, length_linesAll]

end

mutual

theorem lines_add (k depth : Nat) (o : Outline) :
    o.lines (k + depth) = (o.lines depth).map fun l => ⟨k + l.depth, l.display⟩ := by
  match o with
  | node display inputs => rw [lines, lines, List.map_cons, Nat.add_assoc, linesAll_add]

theorem linesAll_add (k depth : Nat) (os : List Outline) :
    linesAll (k + depth) os = (linesAll depth os).map fun l => ⟨k + l.depth, l.display⟩ := by
  match os with
  | [] => rfl
  | o :: os => rw [linesAll, linesAll, List.map_append, lines_add, linesAll_add]

end

/-! ## From lines to trees -/

/-- The first of some lines, if there is one, is indented less than `depth`. -/
def Leaves (depth : Nat) (rest : List Line) : Prop := ∀ l ∈ rest.head?, l.depth < depth

theorem leaves_linesAll {depth : Nat} {rest : List Line} (os : List Outline)
    (leaves : Leaves depth rest) : Leaves (depth + 1) (linesAll depth os ++ rest) := by
  cases os with
  | nil => exact fun l mem => Nat.lt_succ_of_lt (leaves l mem)
  | cons o os =>
    obtain ⟨display, inputs⟩ := o
    rintro l ⟨⟩
    exact Nat.lt_succ_self depth

mutual

theorem lines_injective {depth : Nat} {rest rest' : List Line} (o o' : Outline)
    (leaves : Leaves (depth + 1) rest) (leaves' : Leaves (depth + 1) rest')
    (same : o.lines depth ++ rest = o'.lines depth ++ rest') : o = o' ∧ rest = rest' := by
  match o, o' with
  | node display inputs, node display' inputs' =>
    obtain ⟨head, tail⟩ := List.cons.inj same
    obtain ⟨rfl, rfl⟩ := linesAll_injective inputs inputs' leaves leaves' tail
    cases head
    exact ⟨rfl, rfl⟩

theorem linesAll_injective {depth : Nat} {rest rest' : List Line} (os os' : List Outline)
    (leaves : Leaves depth rest) (leaves' : Leaves depth rest')
    (same : linesAll depth os ++ rest = linesAll depth os' ++ rest') : os = os' ∧ rest = rest' := by
  match os, os' with
  | [], [] => exact ⟨rfl, same⟩
  -- What is left of the one list begins too far to the left for an input of the other.
  | [], node display inputs :: os' =>
    rw [show rest = _ from same] at leaves
    exact absurd (leaves _ rfl) (Nat.lt_irrefl depth)
  | node display inputs :: os, [] =>
    rw [show rest' = _ from same.symm] at leaves'
    exact absurd (leaves' _ rfl) (Nat.lt_irrefl depth)
  | o :: os, o' :: os' =>
    rw [linesAll, linesAll, List.append_assoc, List.append_assoc] at same
    obtain ⟨rfl, more⟩ := lines_injective o o' (leaves_linesAll os leaves)
      (leaves_linesAll os' leaves') same
    obtain ⟨rfl, rfl⟩ := linesAll_injective os os' leaves leaves' more
    exact ⟨rfl, rfl⟩

end

end Outline

/-! ## From texts to lines -/

namespace Line

def text (l : Line) : String := Plan.indentation l.depth ++ l.display ++ "\n"

structure Clear (l : Line) : Prop where
  whole : '\n' ∉ l.display.toList
  flush : ∃ c cs, l.display.toList = c :: cs ∧ c ≠ ' '

theorem toList_text (l : Line) :
    l.text.toList = List.replicate (2 * l.depth) ' ' ++ l.display.toList ++ ['\n'] := by
  simp only [text, Plan.indentation, String.toList_append, String.toList_ofList]
  rfl

variable {l l' : Line}

theorem Clear.newline_notMem (clear : l.Clear) :
    '\n' ∉ List.replicate (2 * l.depth) ' ' ++ l.display.toList := by
  intro mem
  rcases List.mem_append.1 mem with blank | shown
  · exact absurd (List.eq_of_mem_replicate blank) (by decide)
  · exact clear.whole shown

theorem Clear.takeWhile (clear : l.Clear) :
    (List.replicate (2 * l.depth) ' ' ++ l.display.toList).takeWhile (· == ' ') =
      List.replicate (2 * l.depth) ' ' := by
  obtain ⟨c, cs, display, other⟩ := clear.flush
  rw [List.takeWhile_append_of_pos, display, List.takeWhile_cons_of_neg, List.append_nil]
  · simpa using other
  · intro d blank
    rw [List.eq_of_mem_replicate blank]
    rfl

theorem Clear.eq_of_indented (clear : l.Clear) (clear' : l'.Clear)
    (same : List.replicate (2 * l.depth) ' ' ++ l.display.toList =
      List.replicate (2 * l'.depth) ' ' ++ l'.display.toList) : l = l' := by
  have blanks : List.replicate (2 * l.depth) ' ' = List.replicate (2 * l'.depth) ' ' := by
    rw [← clear.takeWhile, same, clear'.takeWhile]
  rw [blanks] at same
  have lengths := congrArg List.length blanks
  rw [List.length_replicate, List.length_replicate] at lengths
  obtain ⟨depth, display⟩ := l
  obtain ⟨depth', display'⟩ := l'
  obtain rfl : depth = depth' := Nat.eq_of_mul_eq_mul_left Nat.two_pos lengths
  obtain rfl : display = display' := String.toList_inj.1 (List.append_cancel_left same)
  rfl

theorem cut_unique {first first' more more' : List Char} (whole : '\n' ∉ first)
    (whole' : '\n' ∉ first') (same : first ++ '\n' :: more = first' ++ '\n' :: more') :
    first = first' ∧ more = more' := by
  rcases List.append_eq_append_iff.1 same with ⟨extra, rfl, later⟩ | ⟨extra, rfl, later⟩
  all_goals
    cases extra with
    | nil => simp_all
    | cons c cs =>
      obtain ⟨rfl, -⟩ := List.cons.inj later
      simp at whole whole'

theorem eq_of_texts {ls ls' : List Line} (clear : ∀ l ∈ ls, l.Clear) (clear' : ∀ l ∈ ls', l.Clear)
    (same : (ls.flatMap fun l => l.text.toList) = ls'.flatMap fun l => l.text.toList) :
    ls = ls' := by
  induction ls generalizing ls' with
  | nil =>
    cases ls' with
    | nil => rfl
    | cons l' ls' =>
      rw [List.flatMap_cons, toList_text] at same
      simp at same
  | cons l ls ih =>
    cases ls' with
    | nil =>
      rw [List.flatMap_cons, toList_text] at same
      simp at same
    | cons l' ls' =>
      obtain ⟨first, rest⟩ := List.forall_mem_cons.1 clear
      obtain ⟨first', rest'⟩ := List.forall_mem_cons.1 clear'
      rw [List.flatMap_cons, List.flatMap_cons, toList_text, toList_text, List.append_assoc,
        List.append_assoc _ ['\n'], List.singleton_append, List.singleton_append] at same
      obtain ⟨line, more⟩ := cut_unique first.newline_notMem first'.newline_notMem same
      rw [first.eq_of_indented first' line, ih rest rest' more]

theorem count_newline {ls : List Line} (clear : ∀ l ∈ ls, l.Clear) :
    (ls.flatMap fun l => l.text.toList).count '\n' = ls.length := by
  induction ls with
  | nil => rfl
  | cons l ls ih =>
    obtain ⟨first, rest⟩ := List.forall_mem_cons.1 clear
    rw [List.flatMap_cons, List.count_append, ih rest, toList_text, List.count_append,
      List.count_eq_zero_of_not_mem first.newline_notMem, List.length_cons]
    simp [Nat.add_comm]

end Line

/-! ## Plans -/

namespace Plan

mutual

def outline : Plan → Outline
  | p@(values ..) | p@(scan _) => .node p.display []
  | p@(filter _ input) => .node p.display [outline input]
  | p@(project _ _ input) => .node p.display [outline input]
  | p@(union _ _ inputs) => .node p.display (outlineAll inputs)
  | p@(join _ left right) => .node p.display [outline left, outline right]

def outlineAll : List Plan → List Outline
  | [] => []
  | p :: ps => outline p :: outlineAll ps

end

theorem outlineAll_eq_map (ps : List Plan) : outlineAll ps = ps.map outline := by
  induction ps with
  | nil => rfl
  | cons p ps ih => rw [outlineAll, ih, List.map_cons]

theorem outline_eq (p : Plan) : p.outline = .node p.display (p.inputs.map outline) := by
  cases p with
  | union schema all inputs => rw [outline, outlineAll_eq_map, Plan.inputs]
  | values | scan | filter | project | join => rfl

theorem display_flush (p : Plan) : ∃ c cs, p.display.toList = c :: cs ∧ c ≠ ' ' := by
  have begins {c : Char} {s : String} {cs : List Char} (other : c ≠ ' ')
      (shown : s.toList = c :: cs) (t u : String) :
      ∃ c cs, (s ++ t ++ u).toList = c :: cs ∧ c ≠ ' ' := by
    rw [String.append_assoc, String.toList_append, shown]
    exact ⟨c, _, rfl, other⟩
  cases p with
  | values | scan | filter | project => exact begins (by decide) rfl _ _
  | union schema all inputs =>
    cases all with
    | true => exact ⟨'U', _, show "Union(all)".toList = _ from rfl, by decide⟩
    | false => exact ⟨'U', _, show "Union(distinct)".toList = _ from rfl, by decide⟩
  | join condition left right =>
    cases condition with
    | some c => exact begins (by decide) rfl _ _
    | none => exact ⟨'N', _, show "NestedLoopJoin(cross)".toList = _ from rfl, by decide⟩

mutual

theorem toList_explain (k : Nat) (p : Plan) :
    (p.explain k).toList = (p.outline.lines k).flatMap fun l => l.text.toList := by
  match p with
  | values .. | scan _ =>
    simp [explain, outline, Outline.lines, Outline.linesAll, Line.text]
  | filter _ input | project _ _ input =>
    simp [explain, outline, Outline.lines, Outline.linesAll, Line.text, toList_explain _ input]
  | union _ _ inputs =>
    simp [explain, outline, Outline.lines, Line.text, toList_explainAll _ inputs]
  | join _ left right =>
    simp [explain, outline, Outline.lines, Outline.linesAll, Line.text, toList_explain _ left,
      toList_explain _ right]

theorem toList_explainAll (k : Nat) (ps : List Plan) :
    (explainAll k ps).toList =
      (Outline.linesAll k (outlineAll ps)).flatMap fun l => l.text.toList := by
  match ps with
  | [] => rfl
  | p :: ps =>
    simp [explainAll, outlineAll, Outline.linesAll, toList_explain _ p, toList_explainAll _ ps]

end

def OneLine (p : Plan) : Prop := ∀ l ∈ p.outline.lines 0, '\n' ∉ l.display.toList

mutual

theorem exists_of_mem_lines (k : Nat) (p : Plan) :
    ∀ l ∈ p.outline.lines k, ∃ q : Plan, l.display = q.display := by
  rw [outline_eq, Outline.lines, List.forall_mem_cons]
  refine ⟨⟨p, rfl⟩, ?_⟩
  match p with
  | values .. | scan _ => exact List.forall_mem_nil _
  | filter _ input | project _ _ input =>
    rw [inputs, List.map_singleton, Outline.linesAll, Outline.linesAll, List.append_nil]
    exact exists_of_mem_lines (k + 1) input
  | union _ _ inputs =>
    rw [Plan.inputs, ← outlineAll_eq_map]
    exact exists_of_mem_linesAll (k + 1) inputs
  | join _ left right =>
    rw [inputs, List.map_cons, List.map_singleton, Outline.linesAll, Outline.linesAll,
      Outline.linesAll, List.append_nil]
    exact List.forall_mem_append.2
      ⟨exists_of_mem_lines (k + 1) left, exists_of_mem_lines (k + 1) right⟩

theorem exists_of_mem_linesAll (k : Nat) (ps : List Plan) :
    ∀ l ∈ Outline.linesAll k (outlineAll ps), ∃ q : Plan, l.display = q.display := by
  match ps with
  | [] => exact List.forall_mem_nil _
  | p :: ps =>
    exact List.forall_mem_append.2 ⟨exists_of_mem_lines k p, exists_of_mem_linesAll k ps⟩

end

theorem OneLine.clear {p : Plan} (oneLine : p.OneLine) : ∀ l ∈ p.outline.lines 0, l.Clear := by
  intro l mem
  refine ⟨oneLine l mem, ?_⟩
  obtain ⟨q, shown⟩ := exists_of_mem_lines 0 p l mem
  rw [shown]
  exact q.display_flush

theorem explain_determines (p : Plan) :
    (∀ k, p.explain k = String.join ((p.outline.lines 0).map fun l =>
      String.ofList (List.replicate (2 * (k + l.depth)) ' ') ++ l.display ++ "\n")) ∧
    (p.OneLine →
      (p.explain 0).toList.count '\n' = p.outline.size ∧
      ∀ q : Plan, q.OneLine → p.explain 0 = q.explain 0 → p.outline = q.outline) := by
  refine ⟨fun k => ?_, fun oneLine => ⟨?_, fun q oneLine' same => ?_⟩⟩
  · refine String.toList_inj.1 ?_
    rw [toList_explain, String.toList_join, List.flatMap_map, ← Nat.add_zero k,
      Outline.lines_add, List.flatMap_map]
    rfl
  · rw [toList_explain, Line.count_newline oneLine.clear, Outline.length_lines]
  · have texts := congrArg String.toList same
    rw [toList_explain, toList_explain] at texts
    have lines := Line.eq_of_texts oneLine.clear oneLine'.clear texts
    have leaves : Outline.Leaves 1 [] := nofun
    exact (Outline.lines_injective p.outline q.outline leaves leaves
      (congrArg (· ++ []) lines)).1

theorem explain_determines_join :
    let ints : Schema := ⟨[⟨"n", .int, false⟩]⟩
    let both (n m : Int64) : Plan :=
      .union ints true [.filter (.isNull (.column 0)) (.values ints [[.int n]] .physical),
        .join none (.scan ⟨"t", ints, .ok []⟩) (.values ints [[.int m], [.int n]] .physical)]
    let text := "Union(all)\n  Filter($0 IS NULL)\n    Values(rows=1)\n" ++
      "  NestedLoopJoin(cross)\n    Scan(t)\n    Values(rows=2)\n"
    (both 1 2).OneLine ∧ (both 3 4).OneLine ∧ (both 1 2).explain 0 = text ∧
      text.toList.count '\n' = (both 1 2).outline.size ∧
      (both 1 2).outline = (both 3 4).outline := by
  intro ints both text
  have oneLine : (both 1 2).OneLine := by unfold OneLine; decide +kernel
  have oneLine' : (both 3 4).OneLine := by unfold OneLine; decide +kernel
  have shown : (both 1 2).explain 0 = text := by decide +kernel
  have shown' : (both 3 4).explain 0 = text := by decide +kernel
  obtain ⟨count, determined⟩ := (explain_determines (both 1 2)).2 oneLine
  have same := determined (both 3 4) oneLine' (shown.trans shown'.symm)
  exact ⟨oneLine, oneLine', shown, shown ▸ count, same⟩

end Plan

end QueryFlow
