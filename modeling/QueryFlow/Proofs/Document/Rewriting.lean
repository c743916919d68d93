import QueryFlow.Document.Writer
import QueryFlow.Proofs.Document.Parts
import QueryFlow.Proofs.Expr.Soundness
import QueryFlow.Proofs.Json.RoundTrip

/-!
# Trees written anew

What is read from a tree is written as another, with every member as an object and in a fixed order.
That tree is read as the same thing, is nested no deeper, and has a text that reads back.
-/

namespace QueryFlow

structure Fitting (n : Nat) (k : Json) : Prop where
  depth : k.depth < n
  written : k.Written

namespace Fitting

variable {n : Nat}

theorem text (pos : 0 < n) (s : String) : Fitting n (.ofString s) := ⟨pos, .text⟩

theorem bool (pos : 0 < n) (b : Bool) : Fitting n (.bool b) := ⟨pos, .bool⟩

theorem null (pos : 0 < n) : Fitting n .null := ⟨pos, .null⟩

theorem int (pos : 0 < n) {i : Int} (low : Int64.minValue.toInt ≤ i) (high : i < UInt64.size) :
    Fitting n (.ofInt i) := ⟨pos, .number (Json.scan_int low high)⟩

theorem members {ms : List (String × Json)} (pos : 0 < n) (all : ∀ m ∈ ms, Fitting n m.2) :
    (Json.ofMembers ms).depth ≤ n ∧ (Json.ofMembers ms).Written := by
  have shallow := Json.depth_ofMembers_le pos fun m mem => (all m mem).depth
  refine ⟨shallow, .object (fun m mem => ?_) fun m mem => ?_⟩
  · obtain ⟨m, -, rfl⟩ := List.mem_map.1 mem
    exact ⟨m.1, rfl⟩
  · obtain ⟨m, place, rfl⟩ := List.mem_map.1 mem
    exact (all m place).written

end Fitting

/-- `Rewrites read j x k`: a tree `k` for what the tree `j` is read as. -/
structure Rewrites {α : Type} (read : Json → Option α) (j : Json) (x : α) (k : Json) : Prop where
  reads : read k = some x
  depth : k.depth ≤ j.depth
  written : k.Written

theorem mapM_map_eq_some {α β : Type} {read : β → Option α} {write : α → β} {xs : List α}
    (all : ∀ x ∈ xs, read (write x) = some x) : (xs.map write).mapM read = some xs := by
  induction xs with
  | nil => rfl
  | cons x xs ih =>
    obtain ⟨first, rest⟩ := List.forall_mem_cons.1 all
    rw [List.map_cons, List.mapM_cons, first, ih rest]
    rfl

namespace Rewrites

variable {α : Type} {read : Json → Option α} {j k : Json} {x : α}

theorem fitting {n : Nat} (h : Rewrites read j x k) (inside : j.depth < n) : Fitting n k :=
  ⟨Nat.lt_of_le_of_lt h.depth inside, h.written⟩

theorem members {ms : List (String × Json)} (reads : read (.ofMembers ms) = some x)
    (pos : 0 < j.depth) (all : ∀ m ∈ ms, Fitting j.depth m.2) :
    Rewrites read j x (.ofMembers ms) where
  reads := reads
  depth := (Fitting.members pos all).1
  written := (Fitting.members pos all).2

theorem list {write : α → Json} {xs : List α} (h : j.list? read = some xs)
    (each : ∀ k x, x ∈ xs → read k = some x → Rewrites read k x (write x)) :
    Rewrites (Json.list? read) j xs (.array (xs.map write)) := by
  have each : ∀ x ∈ xs, ∃ k ∈ j.parts, Rewrites read k x (write x) := by
    intro x mem
    obtain ⟨k, place, found⟩ := Json.mem_parts_of_list? h x mem
    exact ⟨k, place, each k x mem found⟩
  refine ⟨?_, ?_, ?_⟩
  · refine mapM_map_eq_some fun x mem => ?_
    obtain ⟨k, -, again⟩ := each x mem
    exact again.reads
  · refine Json.depth_array_le (Json.depth_pos_of_list? h) fun i mem => ?_
    obtain ⟨x, place, rfl⟩ := List.mem_map.1 mem
    obtain ⟨k, part, again⟩ := each x place
    exact Nat.lt_of_le_of_lt again.depth (Json.depth_lt_of_mem_parts part)
  · refine .array fun i mem => ?_
    obtain ⟨x, place, rfl⟩ := List.mem_map.1 mem
    obtain ⟨k, -, again⟩ := each x place
    exact again.written

end Rewrites

/-! ## Columns -/

theorem DataType.ofJson?_name (r : Reading) (t : DataType) :
    ofJson? r (.ofString t.name) = some t := by cases t <;> rfl

theorem Convention.ofJson?_name (r : Reading) (c : Convention) :
    ofJson? r (.ofString c.name) = some c := by cases c <;> rfl

theorem Comparison.ofJson?_name (r : Reading) (op : Comparison) :
    ofJson? r (.ofString op.name) = some op := by cases op <;> rfl

namespace Column

theorem ofJson?_toJson (r : Reading) (c : Column) : ofJson? r c.toJson = some c := by
  have fields : c.toJson.fields? ["name", "data_type", "nullable"] =
      some [some (.ofString c.name), some (.ofString c.dataType.name), some (.bool c.nullable)] :=
    rfl
  simp only [ofJson?, fields, Option.bind_eq_bind, Option.bind_some, DataType.ofJson?_name]
  rfl

theorem rewrites {r : Reading} {j : Json} {c : Column} (h : ofJson? r j = some c) :
    Rewrites (ofJson? r) j c c.toJson := by
  obtain ⟨fs, fields, -⟩ := Option.bind_eq_some_iff.1 h
  have pos := Json.depth_pos_of_fields? fields
  refine .members (ofJson?_toJson r c) pos ?_
  simp only [List.forall_mem_cons]
  exact ⟨.text pos _, .text pos _, .bool pos _, List.forall_mem_nil _⟩

theorem rewrites_list {r : Reading} {j : Json} {cs : List Column} (h : listOfJson? r j = some cs) :
    Rewrites (listOfJson? r) j cs (listToJson cs) :=
  .list h fun _ _ _ => rewrites

end Column

/-! ## Values -/

namespace Value

def ReadsBack (v : Value) : Prop := ∀ d, v = .float d → d.ReadsBack

theorem int64?_toInt (n : Int64) : int64? (.ofInt n.toInt) = some n := by
  have inside : Int64.minValue.toInt ≤ n.toInt ∧ n.toInt ≤ Int64.maxValue.toInt :=
    ⟨Int64.minValue_le_toInt n, Int64.toInt_le n⟩
  simp only [int64?, Json.int?, Json.ofInt, Option.bind_eq_bind, Option.bind_some, if_pos inside,
    Int64.ofInt_toInt, Option.pure_def]

theorem byte?_toNat (b : UInt8) : byte? (.ofInt b.toNat) = some b := by
  have inside : (0 : Int) ≤ b.toNat ∧ (b.toNat : Int) < 256 :=
    ⟨Int.natCast_nonneg _, Int.ofNat_lt.2 b.toNat_lt⟩
  simp only [byte?, Json.int?, Json.ofInt, Option.bind_eq_bind, Option.bind_some, if_pos inside,
    Int.toNat_natCast, UInt8.ofNat_toNat, Option.pure_def]

theorem parts_ofJson? {r : Reading} {j : Json} {v : Value} (h : ofJson? r j = some v) :
    0 < j.depth ∧
      ∃ type constant, ofParts? type constant = some v ∧ ∀ k ∈ constant, k ∈ j.parts := by
  unfold ofJson? at h
  split at h
  · rename_i head constant
    obtain ⟨type, -, read⟩ := Option.bind_eq_some_iff.1 h
    refine ⟨Nat.succ_pos _, type, some constant, read, ?_⟩
    rintro _ ⟨⟩
    exact List.mem_cons_of_mem _ List.mem_cons_self
  · obtain ⟨fs, fields, h⟩ := Option.bind_eq_some_iff.1 h
    have part := Json.mem_parts_of_fields? fields
    split at h
    · simp only [Option.bind_eq_bind, Option.bind_eq_some_iff] at h
      obtain ⟨type, -, read⟩ := h
      exact ⟨Nat.succ_pos _, type, _, read, part _ (List.mem_cons_of_mem _ List.mem_cons_self)⟩
    · cases h
  · cases h

theorem depth_of_bytes {r : Reading} {j : Json} {bs : List UInt8}
    (h : ofJson? r j = some (.bytes bs)) : 1 < j.depth := by
  obtain ⟨-, type, constant, read, part⟩ := parts_ofJson? h
  unfold ofParts? at read
  split at read
  case h_7 k =>
    obtain ⟨items, list, -⟩ := Option.map_eq_some_iff.1 read
    have outer := Json.depth_lt_of_mem_parts (part k rfl)
    have inner := Json.depth_pos_of_list? list
    omega
  case h_8 => cases read
  case h_1 | h_2 => cases read
  all_goals
    obtain ⟨x, -, other⟩ := Option.map_eq_some_iff.1 read
    cases other

theorem rewrites {r : Reading} {j : Json} {v : Value} (h : ofJson? r j = some v)
    (back : v.ReadsBack) : Rewrites (ofJson? r) j v v.toJson := by
  obtain ⟨pos, -⟩ := parts_ofJson? h
  have named {k : Json} (reads : ofJson? r (.ofMembers [("t", .ofString v.typeName), ("v", k)]) =
      some v) (fits : Fitting j.depth k) :
      Rewrites (ofJson? r) j v (.ofMembers [("t", .ofString v.typeName), ("v", k)]) := by
    refine .members reads pos ?_
    simp only [List.forall_mem_cons]
    exact ⟨.text pos _, fits, List.forall_mem_nil _⟩
  cases v with
  | null =>
    refine .members rfl pos ?_
    exact List.forall_mem_singleton.2 (.text pos _)
  | bool b => exact named rfl (.bool pos b)
  | int n =>
    have high : n.toInt < UInt64.size :=
      Int.lt_of_le_of_lt (Int64.toInt_le n) (show Int64.maxValue.toInt < UInt64.size by decide)
    refine named ?_ (.int pos (Int64.minValue_le_toInt n) high)
    show int <$> int64? (.ofInt n.toInt) = _
    rw [int64?_toInt]
    rfl
  | float d =>
    have back := back d rfl
    have shape : toJson (.float d) =
        .ofMembers [("t", .ofString (typeName (.float d))), ("v", .number (some (.float d)))] := by
      simp [toJson, constantToJson?, back.isFinite]
    rw [shape]
    exact named rfl ⟨pos, .number back.scan⟩
  | string s => exact named rfl (.text pos s)
  | bytes bs =>
    have deep := depth_of_bytes h
    refine named ?_ ⟨?_, ?_⟩
    · show bytes <$> Json.list? byte? (.array (bs.map fun b => .ofInt b.toNat)) = _
      have read : Json.list? byte? (.array (bs.map fun b => .ofInt b.toNat)) = some bs :=
        mapM_map_eq_some fun b _ => byte?_toNat b
      rw [read]
      rfl
    · exact Nat.lt_of_le_of_lt (Json.depth_map_le (fun _ => Nat.le_refl 0) bs) deep
    · refine .array fun k mem => ?_
      obtain ⟨b, -, rfl⟩ := List.mem_map.1 mem
      exact .number (Json.scan_natCast (Nat.lt_trans b.toNat_lt (by decide)))

end Value

theorem Row.rewrites_list {r : Reading} {j : Json} {rows : List Row}
    (h : listOfJson? r j = some rows) (back : ∀ row ∈ rows, ∀ v ∈ row, v.ReadsBack) :
    Rewrites (listOfJson? r) j rows (listToJson rows) :=
  .list h fun _ row place read =>
    .list read fun _ v mem again => Value.rewrites again (back row place v mem)

/-! ## Expressions -/

namespace Expr

theorem listToJson_eq_map (es : List Expr) : listToJson es = es.map toJson := by
  induction es with
  | nil => rfl
  | cons e es ih => rw [listToJson, ih, List.map_cons]

theorem mem_literalsAll {es : List Expr} {e : Expr} (mem : e ∈ es) {v : Value}
    (literal : v ∈ e.literals) : v ∈ literalsAll es := by
  induction es with
  | nil => cases mem
  | cons f fs ih =>
    rw [literalsAll, List.mem_append]
    rcases List.mem_cons.1 mem with rfl | later
    · exact .inl literal
    · exact .inr (ih later)

theorem rewrites_only {levels : Nat} {key : Option String} {body k : Json} {name : String}
    {e : Expr} (reads : ofJson? levels (.ofMembers [(name, k)]) = some e)
    (depth : k.depth ≤ body.depth) (written : k.Written) :
    Rewrites (ofJson? levels) (.object [(key, body)]) e (.ofMembers [(name, k)]) := by
  have inside : body.depth < (Json.object [(key, body)]).depth :=
    Json.depth_lt_of_mem_parts List.mem_cons_self
  refine .members reads (Nat.succ_pos _) ?_
  exact List.forall_mem_singleton.2 ⟨Nat.lt_of_le_of_lt depth inside, written⟩

theorem rewrites {levels : Nat} {j : Json} {e : Expr} (h : ofJson? levels j = some e)
    (back : ∀ v ∈ e.literals, v.ReadsBack) : Rewrites (ofJson? levels) j e e.toJson := by
  induction levels generalizing j e with
  | zero => cases h
  | succ levels ih =>
    have operands {body : Json} {es : List Expr} (read : body.list? (ofJson? levels) = some es)
        (back : ∀ v ∈ literalsAll es, v.ReadsBack) :
        Rewrites (Json.list? (ofJson? levels)) body es (.array (listToJson es)) := by
      rw [listToJson_eq_map]
      exact .list read fun k e mem again => ih again fun v lit => back v (mem_literalsAll mem lit)
    unfold ofJson? at h
    split at h
    · rename_i body same
      cases same
      split at h
      · obtain ⟨n, number, h⟩ := Option.bind_eq_some_iff.1 h
        split at h <;> cases h
        rename_i inside
        refine rewrites_only ?_ (Nat.zero_le _) (.number (Json.scan_natCast inside.2))
        have again : (0 : Int) ≤ n.toNat ∧ n.toNat < UInt64.size :=
          ⟨Int.natCast_nonneg _, inside.2⟩
        simp only [ofJson?, Json.ofMembers, List.map_cons, List.map_nil, Json.int?, Json.ofInt,
          Option.bind_eq_bind, Option.bind_some, Int.toNat_natCast, Option.pure_def]
        exact if_pos again
      · obtain ⟨v, read, rfl⟩ := Option.map_eq_some_iff.1 h
        have value := Value.rewrites read (back v (List.mem_singleton.2 rfl))
        refine rewrites_only ?_ value.depth value.written
        show literal <$> Value.ofJson? .collected v.toJson = _
        rw [value.reads]
        rfl
      · obtain ⟨fs, fields, h⟩ := Option.bind_eq_some_iff.1 h
        have part := Json.mem_parts_of_fields? fields
        have pos := Json.depth_pos_of_fields? fields
        split at h
        · rename_i op left right
          simp only [List.forall_mem_cons] at part
          obtain ⟨-, partl, partr, -⟩ := part
          simp only [Option.bind_eq_bind, Option.bind_eq_some_iff, Option.pure_def,
            Option.some.injEq] at h
          obtain ⟨op, -, l, readl, r, readr, rfl⟩ := h
          obtain ⟨backl, backr⟩ := List.forall_mem_append.1 back
          have newl := ih readl backl
          have newr := ih readr backr
          have fits : ∀ m ∈ [("op", Json.ofString op.name), ("left", l.toJson),
              ("right", r.toJson)], Fitting body.depth m.2 := by
            simp only [List.forall_mem_cons]
            exact ⟨.text pos _, newl.fitting (Json.depth_lt_of_mem_parts (partl _ rfl)),
              newr.fitting (Json.depth_lt_of_mem_parts (partr _ rfl)), List.forall_mem_nil _⟩
          obtain ⟨depth, written⟩ := Fitting.members pos fits
          refine rewrites_only ?_ depth written
          show (do
            return Expr.compare (← Comparison.ofJson? .collected (.ofString op.name))
              (← ofJson? levels l.toJson) (← ofJson? levels r.toJson)) = _
          rw [Comparison.ofJson?_name, newl.reads, newr.reads]
          rfl
        · cases h
      · obtain ⟨es, read, rfl⟩ := Option.map_eq_some_iff.1 h
        have again := operands read back
        refine rewrites_only ?_ again.depth again.written
        show Expr.and <$> _ = _
        rw [again.reads]
        rfl
      · obtain ⟨es, read, rfl⟩ := Option.map_eq_some_iff.1 h
        have again := operands read back
        refine rewrites_only ?_ again.depth again.written
        show Expr.or <$> _ = _
        rw [again.reads]
        rfl
      · obtain ⟨e, read, rfl⟩ := Option.map_eq_some_iff.1 h
        have again := ih read back
        refine rewrites_only ?_ again.depth again.written
        show Expr.not <$> _ = _
        rw [again.reads]
        rfl
      · obtain ⟨e, read, rfl⟩ := Option.map_eq_some_iff.1 h
        have again := ih read back
        refine rewrites_only ?_ again.depth again.written
        show Expr.isNull <$> _ = _
        rw [again.reads]
        rfl
      · cases h
    · cases h

end Expr

namespace Field

theorem rewrites {j : Json} {f : Field} (h : ofJson? j = some f)
    (back : ∀ v ∈ f.expr.literals, v.ReadsBack) : Rewrites ofJson? j f f.toJson := by
  obtain ⟨fs, fields, h⟩ := Option.bind_eq_some_iff.1 h
  have part := Json.mem_parts_of_fields? fields
  have pos := Json.depth_pos_of_fields? fields
  split at h
  · simp only [List.forall_mem_cons] at part
    obtain ⟨expr, -⟩ := part
    simp only [Option.bind_eq_bind, Option.bind_eq_some_iff, Option.pure_def,
      Option.some.injEq] at h
    obtain ⟨e, read, name, -, rfl⟩ := h
    have again := Expr.rewrites read back
    refine .members ?_ pos ?_
    · show (do
        return Field.mk (← Expr.ofJson? nestingLimit e.toJson) (← Json.text? (.ofString name))) = _
      rw [again.reads]
      rfl
    · simp only [List.forall_mem_cons]
      exact ⟨again.fitting (Json.depth_lt_of_mem_parts (expr _ rfl)), .text pos _,
        List.forall_mem_nil _⟩
  · cases h

end Field

/-! ## Nodes -/

namespace Node

mutual

def constants : Node → List Value
  | values _ rows _ => rows.flatten
  | union _ _ inputs => constantsAll inputs
  | scan _ | file _ _ => []
  | filter predicate input => predicate.literals ++ constants input
  | project fields input => fields.flatMap (fun f => f.expr.literals) ++ constants input
  | join condition left right =>
    condition.elim [] Expr.literals ++ (constants left ++ constants right)

def constantsAll : List Node → List Value
  | [] => []
  | n :: ns => constants n ++ constantsAll ns

end

theorem listToJson_eq_map (ns : List Node) : listToJson ns = ns.map toJson := by
  induction ns with
  | nil => rfl
  | cons n ns ih => rw [listToJson, ih, List.map_cons]

theorem mem_constantsAll {ns : List Node} {n : Node} (mem : n ∈ ns) {v : Value}
    (constant : v ∈ n.constants) : v ∈ constantsAll ns := by
  induction ns with
  | nil => cases mem
  | cons m ms ih =>
    rw [constantsAll, List.mem_append]
    rcases List.mem_cons.1 mem with rfl | later
    · exact .inl constant
    · exact .inr (ih later)

theorem rewrites_condition {o : Option Json} {condition : Option Expr} {n : Nat} (pos : 0 < n)
    (h : condition? o = some condition) (inside : ∀ k ∈ o, k.depth < n)
    (back : ∀ v ∈ condition.elim [] Expr.literals, v.ReadsBack) :
    condition? (some ((condition.map Expr.toJson).getD .null)) = some condition ∧
      Fitting n ((condition.map Expr.toJson).getD .null) := by
  cases condition with
  | none => exact ⟨rfl, .null pos⟩
  | some e =>
    unfold condition? at h
    split at h
    · cases h
    · cases h
    · rename_i k _
      obtain ⟨e, read, same⟩ := Option.map_eq_some_iff.1 h
      cases same
      have again := Expr.rewrites read back
      refine ⟨?_, again.fitting (inside k rfl)⟩
      have present : condition? (some e.toJson) = some <$> Expr.ofJson? nestingLimit e.toJson := by
        cases e <;> rfl
      simp only [Option.map_some, Option.getD_some]
      rw [present, again.reads]
      rfl

theorem rewrites_rows {r : Reading} {o : Option Json} {rows : List Row} {n : Nat} (deep : 1 < n)
    (h : o.elim (some []) (Row.listOfJson? r) = some rows) (inside : ∀ k ∈ o, k.depth < n)
    (back : ∀ v ∈ rows.flatten, v.ReadsBack) :
    Row.listOfJson? r (Row.listToJson rows) = some rows ∧ Fitting n (Row.listToJson rows) := by
  cases o with
  | none =>
    cases h
    exact ⟨rfl, deep, .array (List.forall_mem_nil _)⟩
  | some k =>
    have again := Row.rewrites_list h fun row place v mem =>
      back v (List.mem_flatten.2 ⟨row, place, mem⟩)
    exact ⟨again.reads, again.fitting (inside k rfl)⟩

theorem rewrites {levels : Nat} {r : Reading} {j : Json} {n : Node}
    (h : ofJson? r levels j = some n) (back : ∀ v ∈ n.constants, v.ReadsBack) :
    Rewrites (ofJson? r levels) j n n.toJson := by
  induction levels generalizing r j n with
  | zero => cases h
  | succ levels ih =>
    simp only [ofJson?, Option.bind_eq_bind, Option.bind_eq_some_iff] at h
    obtain ⟨⟨op, body⟩, tagged, kind, -, h⟩ := h
    obtain ⟨parts, pos⟩ := parts_tagged? tagged
    have inside {names : List String} {fs : List (Option Json)}
        (fields : body.fields? names = some fs) : ∀ o ∈ fs, ∀ k ∈ o, k.depth < j.depth :=
      fun o mem k value =>
        Json.depth_lt_of_mem_parts (parts k (Json.mem_parts_of_fields? fields o mem k value))
    cases kind with
    | values =>
      obtain ⟨fs, fields, h⟩ := Option.bind_eq_some_iff.1 h
      have deep := inside fields
      split at h
      · simp only [List.forall_mem_cons] at deep
        obtain ⟨columns, rows, -⟩ := deep
        simp only [Option.bind_eq_some_iff, Option.pure_def, Option.some.injEq] at h
        obtain ⟨cs, readColumns, rs, readRows, convention, -, rfl⟩ := h
        have newColumns := Column.rewrites_list readColumns
        -- Rows that were left out are written as an empty list, no deeper than that of the columns.
        have enclosed := Json.depth_pos_of_list? readColumns
        have deep : 1 < j.depth := Nat.lt_of_le_of_lt enclosed (columns _ rfl)
        obtain ⟨rereadRows, newRows⟩ := rewrites_rows deep readRows rows back
        refine .members ?_ pos ?_
        · show (do
            return Node.values (← Column.listOfJson? .collected (Column.listToJson cs))
              (← Row.listOfJson? .collected (Row.listToJson rs))
              (← Convention.ofJson? .collected (.ofString convention.name))) = _
          rw [newColumns.reads, rereadRows, Convention.ofJson?_name]
          rfl
        · simp only [List.forall_mem_cons]
          exact ⟨.text pos _, newColumns.fitting (columns _ rfl), newRows, .text pos _,
            List.forall_mem_nil _⟩
      · cases h
    | union =>
      obtain ⟨fs, fields, h⟩ := Option.bind_eq_some_iff.1 h
      have deep := inside fields
      split at h
      · simp only [List.forall_mem_cons] at deep
        obtain ⟨columns, -, inputs, -⟩ := deep
        simp only [Option.bind_eq_some_iff, Option.pure_def, Option.some.injEq] at h
        obtain ⟨cs, readColumns, all, -, ns, readInputs, rfl⟩ := h
        have newColumns := Column.rewrites_list readColumns
        have newInputs : Rewrites (Json.list? (ofJson? .collected levels)) _ ns
            (.array (ns.map toJson)) :=
          .list readInputs fun k n mem read => ih read fun v const =>
            back v (mem_constantsAll mem const)
        rw [← listToJson_eq_map] at newInputs
        refine .members ?_ pos ?_
        · show (do
            return Node.union (← Column.listOfJson? .collected (Column.listToJson cs))
              (← some all)
              (← Json.list? (ofJson? .collected levels) (.array (listToJson ns)))) = _
          rw [newColumns.reads, newInputs.reads]
          rfl
        · simp only [List.forall_mem_cons]
          exact ⟨.text pos _, newColumns.fitting (columns _ rfl), .bool pos _,
            newInputs.fitting (inputs _ rfl), List.forall_mem_nil _⟩
      · cases h
    | scan =>
      obtain ⟨fs, fields, h⟩ := Option.bind_eq_some_iff.1 h
      split at h
      · simp only [Option.bind_eq_some_iff, Option.pure_def, Option.some.injEq] at h
        obtain ⟨name, -, rfl⟩ := h
        refine .members rfl pos ?_
        simp only [List.forall_mem_cons]
        exact ⟨.text pos _, .text pos _, List.forall_mem_nil _⟩
      · cases h
    | file =>
      obtain ⟨fs, fields, h⟩ := Option.bind_eq_some_iff.1 h
      have deep := inside fields
      split at h
      · simp only [List.forall_mem_cons] at deep
        obtain ⟨-, columns, -⟩ := deep
        simp only [Option.bind_eq_some_iff, Option.pure_def, Option.some.injEq] at h
        obtain ⟨path, -, cs, readColumns, rfl⟩ := h
        have newColumns := Column.rewrites_list readColumns
        refine .members ?_ pos ?_
        · show (do
            return Node.file (← some path)
              (← Column.listOfJson? .collected (Column.listToJson cs))) = _
          rw [newColumns.reads]
          rfl
        · simp only [List.forall_mem_cons]
          exact ⟨.text pos _, .text pos _, newColumns.fitting (columns _ rfl),
            List.forall_mem_nil _⟩
      · cases h
    | filter =>
      obtain ⟨fs, fields, h⟩ := Option.bind_eq_some_iff.1 h
      have deep := inside fields
      split at h
      · simp only [List.forall_mem_cons] at deep
        obtain ⟨predicate, input, -⟩ := deep
        simp only [Option.bind_eq_some_iff, Option.pure_def, Option.some.injEq] at h
        obtain ⟨e, readExpr, n, readInput, rfl⟩ := h
        obtain ⟨backExpr, backInput⟩ := List.forall_mem_append.1 back
        have newExpr := Expr.rewrites readExpr backExpr
        have newInput := ih readInput backInput
        refine .members ?_ pos ?_
        · show (do
            return Node.filter (← Expr.ofJson? nestingLimit e.toJson)
              (← ofJson? .collected levels n.toJson)) = _
          rw [newExpr.reads, newInput.reads]
          rfl
        · simp only [List.forall_mem_cons]
          exact ⟨.text pos _, newExpr.fitting (predicate _ rfl), newInput.fitting (input _ rfl),
            List.forall_mem_nil _⟩
      · cases h
    | project =>
      obtain ⟨fs, fields, h⟩ := Option.bind_eq_some_iff.1 h
      have deep := inside fields
      split at h
      · simp only [List.forall_mem_cons] at deep
        obtain ⟨fields, input, -⟩ := deep
        simp only [Option.bind_eq_some_iff, Option.pure_def, Option.some.injEq] at h
        obtain ⟨es, readFields, n, readInput, rfl⟩ := h
        obtain ⟨backFields, backInput⟩ := List.forall_mem_append.1 back
        have newFields : Rewrites (Json.list? Field.ofJson?) _ es (.array (es.map Field.toJson)) :=
          .list readFields fun k f mem read => Field.rewrites read fun v lit =>
            backFields v (List.mem_flatMap.2 ⟨f, mem, lit⟩)
        have newInput := ih readInput backInput
        refine .members ?_ pos ?_
        · show (do
            return Node.project (← Json.list? Field.ofJson? (.array (es.map Field.toJson)))
              (← ofJson? .collected levels n.toJson)) = _
          rw [newFields.reads, newInput.reads]
          rfl
        · simp only [List.forall_mem_cons]
          exact ⟨.text pos _, newFields.fitting (fields _ rfl), newInput.fitting (input _ rfl),
            List.forall_mem_nil _⟩
      · cases h
    | join =>
      obtain ⟨fs, fields, h⟩ := Option.bind_eq_some_iff.1 h
      have deep := inside fields
      split at h
      · simp only [List.forall_mem_cons] at deep
        obtain ⟨condition, left, right, -⟩ := deep
        simp only [Option.bind_eq_some_iff, Option.pure_def, Option.some.injEq] at h
        obtain ⟨c, readCondition, l, readLeft, r, readRight, rfl⟩ := h
        obtain ⟨backCondition, backInputs⟩ := List.forall_mem_append.1 back
        obtain ⟨backLeft, backRight⟩ := List.forall_mem_append.1 backInputs
        obtain ⟨rereadCondition, newCondition⟩ :=
          rewrites_condition pos readCondition condition backCondition
        have newLeft := ih readLeft backLeft
        have newRight := ih readRight backRight
        refine .members ?_ pos ?_
        · show (do
            return Node.join (← condition? (some ((c.map Expr.toJson).getD .null)))
              (← ofJson? .collected levels l.toJson) (← ofJson? .collected levels r.toJson)) = _
          rw [rereadCondition, newLeft.reads, newRight.reads]
          rfl
        · simp only [List.forall_mem_cons]
          exact ⟨.text pos _, newCondition, newLeft.fitting (left _ rfl),
            newRight.fitting (right _ rfl), List.forall_mem_nil _⟩
      · cases h

end Node

end QueryFlow
