import Mathlib.Logic.Relation
import QueryFlow.Proofs.Document.Alike
import QueryFlow.Proofs.Document.Nesting
import QueryFlow.Proofs.Json.RoundTrip

/-!
# Documents spelled anew

`parse_of_respells`: what a document means does not depend on how its objects are written. The order
of members, unknown members and defaults that are written out change neither the document that is
read nor that none is.
-/

namespace QueryFlow

open Json (Members)

variable {n : Nat} {ms ms' : Members}

/-! ## Structures -/

theorem Column.reads_of_alike (alike : Alike (n + 1) (Place.column.slots ms) ms ms') :
    Place.column.Reads n (.object ms) (.object ms') := by
  intro r
  refine alike.bind_fields rfl _ ?_
  rintro _ _ (_ | ⟨name, _ | ⟨dataType, _ | ⟨nullable, _ | _⟩⟩⟩)
  have nullables := nullable.read (fun o => o.elim (some true) Json.bool?)
    (fun _ _ same => same.bool) (by simp [Json.bool?])
  rcases name.required rfl with ⟨rfl, rfl⟩ | ⟨name, name', rfl, rfl, names⟩
  · rfl
  rcases dataType.required rfl with ⟨rfl, rfl⟩ | ⟨dataType, dataType', rfl, rfl, types⟩
  · rfl
  simp only [names.text, DataType.ofJson?, types.name, nullables]

theorem Value.reads_of_alike (alike : Alike (n + 1) (Place.value.slots ms) ms ms') :
    Place.value.Reads n (.object ms) (.object ms') := by
  intro r
  refine alike.bind_fields rfl _ ?_
  rintro _ _ (_ | ⟨type, _ | ⟨constant, _ | _⟩⟩)
  rcases type.required rfl with ⟨rfl, rfl⟩ | ⟨type, type', rfl, rfl, types⟩
  · rfl
  have constants (type : Option DataType) := constant.read (ofParts? type)
    (fun _ _ same => same.parts type) (by simp)
  simp only [types.name, constants]

theorem Column.list_of_reads {j k : Json} (same : (Place.list .column).Reads n j k) (r : Reading) :
    listOfJson? r j = listOfJson? r k :=
  same _ fun _ _ same => same r

theorem Row.list_of_reads {j k : Json} (same : (Place.list (.list .value)).Reads n j k)
    (r : Reading) : listOfJson? r j = listOfJson? r k :=
  same _ fun _ _ same => same _ fun _ _ same => same r

theorem Row.optional_of_same {o o' : Option Json} {r : Reading}
    (rows : Slot.Same n ⟨"rows", .list (.list .value), [.array []]⟩ o o') :
    o.elim (some []) (listOfJson? r) = o'.elim (some []) (listOfJson? r) :=
  rows.read (fun o => o.elim (some []) (listOfJson? r)) (fun _ _ same => list_of_reads same r)
    (by simp [listOfJson?, Json.list?])

theorem TableSpec.reads_of_alike (alike : Alike (n + 1) (Place.table.slots ms) ms ms') :
    Place.table.Reads n (.object ms) (.object ms') := by
  refine alike.bind_fields rfl _ ?_
  rintro _ _ (_ | ⟨columns, _ | ⟨rows, _ | _⟩⟩)
  rcases columns.required rfl with ⟨rfl, rfl⟩ | ⟨columns, columns', rfl, rfl, lists⟩
  · rfl
  simp only [Column.list_of_reads lists, Row.optional_of_same rows]

theorem Comparison.reads_of_alike (alike : Alike (n + 1) (Place.comparison.slots ms) ms ms') :
    Place.comparison.Reads n (.object ms) (.object ms') := by
  intro levels
  cases levels with
  | zero => simp only [Expr.ofJson?]
  | succ levels =>
    refine alike.bind_fields rfl _ ?_
    rintro _ _ (_ | ⟨op, _ | ⟨left, _ | ⟨right, _ | _⟩⟩⟩)
    rcases op.required rfl with ⟨rfl, rfl⟩ | ⟨op, op', rfl, rfl, ops⟩
    · rfl
    rcases left.required rfl with ⟨rfl, rfl⟩ | ⟨left, left', rfl, rfl, lefts⟩
    · rfl
    rcases right.required rfl with ⟨rfl, rfl⟩ | ⟨right, right', rfl, rfl, rights⟩
    · rfl
    simp only [ofJson?, ops.name, lefts.1, rights.1]

theorem Field.reads_of_alike (alike : Alike (n + 1) (Place.field.slots ms) ms ms') :
    Place.field.Reads n (.object ms) (.object ms') := by
  refine alike.bind_fields rfl _ ?_
  rintro _ _ (_ | ⟨expr, _ | ⟨name, _ | _⟩⟩)
  rcases expr.required rfl with ⟨rfl, rfl⟩ | ⟨expr, expr', rfl, rfl, exprs⟩
  · rfl
  rcases name.required rfl with ⟨rfl, rfl⟩ | ⟨name, name', rfl, rfl, names⟩
  · rfl
  simp only [exprs.1, names.text]

namespace Node

theorem condition?_of_reads {j k : Json} (same : Place.expression.Reads n j k) :
    condition? (some j) = condition? (some k) := by
  obtain ⟨reads, null⟩ := same
  by_cases missing : j = .null
  · rw [missing, null.1 missing]
  · have given {i : Json} (given : i ≠ .null) :
        condition? (some i) = some <$> Expr.ofJson? nestingLimit i := by
      cases i with
      | null => exact absurd rfl given
      | bool | number | text | array | object => rfl
    rw [given missing, given (mt null.2 missing), reads]

theorem ofFields?_congr {kind : Kind} {os os' : List (Option Json)}
    (all : Slot.SameAll n kind.slots os os') (levels : Nat) :
    ofFields? levels kind os = ofFields? levels kind os' := by
  cases kind with
  | values =>
    rcases all with _ | ⟨columns, _ | ⟨rows, _ | ⟨convention, _ | _⟩⟩⟩
    rcases columns.required rfl with ⟨rfl, rfl⟩ | ⟨columns, columns', rfl, rfl, lists⟩
    · rfl
    have conventions := convention.read
      (fun o => o.elim (some .physical) (Convention.ofJson? .collected))
      (fun _ _ same => by simp only [Option.elim, Convention.ofJson?, same.name]) (by decide)
    simp only [ofFields?, Column.list_of_reads lists, Row.optional_of_same rows, conventions]
  | union =>
    rcases all with _ | ⟨columns, _ | ⟨all, _ | ⟨inputs, _ | _⟩⟩⟩
    rcases columns.required rfl with ⟨rfl, rfl⟩ | ⟨columns, columns', rfl, rfl, lists⟩
    · rfl
    rcases inputs.required rfl with ⟨rfl, rfl⟩ | ⟨inputs, inputs', rfl, rfl, nodes⟩
    · rfl
    have flags := all.read (fun o => o.elim (some true) Json.bool?)
      (fun _ _ same => same.bool) (by simp [Json.bool?])
    simp only [ofFields?, Column.list_of_reads lists, flags,
      nodes (ofJson? .collected levels) fun _ _ same => same .collected levels]
  | scan =>
    rcases all with _ | ⟨table, _ | _⟩
    rcases table.required rfl with ⟨rfl, rfl⟩ | ⟨table, table', rfl, rfl, names⟩
    · rfl
    simp only [ofFields?, names.text]
  | file =>
    rcases all with _ | ⟨path, _ | ⟨columns, _ | _⟩⟩
    rcases path.required rfl with ⟨rfl, rfl⟩ | ⟨path, path', rfl, rfl, names⟩
    · rfl
    rcases columns.required rfl with ⟨rfl, rfl⟩ | ⟨columns, columns', rfl, rfl, lists⟩
    · rfl
    simp only [ofFields?, names.text, Column.list_of_reads lists]
  | filter =>
    rcases all with _ | ⟨predicate, _ | ⟨input, _ | _⟩⟩
    rcases predicate.required rfl with ⟨rfl, rfl⟩ | ⟨predicate, predicate', rfl, rfl, exprs⟩
    · rfl
    rcases input.required rfl with ⟨rfl, rfl⟩ | ⟨input, input', rfl, rfl, nodes⟩
    · rfl
    simp only [ofFields?, exprs.1, nodes .collected]
  | project =>
    rcases all with _ | ⟨fields, _ | ⟨input, _ | _⟩⟩
    rcases fields.required rfl with ⟨rfl, rfl⟩ | ⟨fields, fields', rfl, rfl, lists⟩
    · rfl
    rcases input.required rfl with ⟨rfl, rfl⟩ | ⟨input, input', rfl, rfl, nodes⟩
    · rfl
    simp only [ofFields?, lists Field.ofJson? fun _ _ same => same, nodes .collected]
  | join =>
    rcases all with _ | ⟨condition, _ | ⟨left, _ | ⟨right, _ | _⟩⟩⟩
    rcases left.required rfl with ⟨rfl, rfl⟩ | ⟨left, left', rfl, rfl, lefts⟩
    · rfl
    rcases right.required rfl with ⟨rfl, rfl⟩ | ⟨right, right', rfl, rfl, rights⟩
    · rfl
    have conditions := condition.read condition? (fun _ _ => condition?_of_reads)
      (by simp [condition?])
    simp only [ofFields?, conditions, lefts .collected, rights .collected]

theorem reads_of_alike (alike : Alike (n + 1) (Place.node.slots ms) ms ms') :
    Place.node.Reads n (.object ms) (.object ms') := by
  intro r levels
  cases levels with
  | zero => rfl
  | succ levels =>
    have kinds : kind? r ms = kind? r ms' := by
      unfold kind?
      have op := alike.members _ List.mem_cons_self
      generalize Json.member? "op" ms = found at op ⊢
      generalize Json.member? "op" ms' = found' at op ⊢
      cases op with
      | none => rfl
      | some op =>
        exact op.read (fun o => o.bind (Kind.ofJson? r)) (fun _ _ same => same.kind r) (by simp)
    rw [ofJson?_object, ofJson?_object, ← kinds]
    rcases named : kind? r ms with _ | kind
    · rfl
    rw [Place.slots, kind?_collected named] at alike
    exact alike.tail.bind_fields rfl _ fun os os' all => ofFields?_congr all levels

end Node

/-! ## Tables -/

namespace Document

theorem putTable_comm {name name' : String} (other : name ≠ name') (t t' : TableSpec)
    (tables : List (String × TableSpec)) :
    putTable name t (putTable name' t' tables) = putTable name' t' (putTable name t tables) := by
  have asymm {s t : String} : s < t → ¬ t < s := String.lt_asymm
  have trans {s t u : String} : s < t → t < u → s < u := String.lt_trans
  have total {s t : String} : ¬ s < t → ¬ t < s → s = t := fun above below =>
    String.le_antisymm (String.not_lt.1 below) (String.not_lt.1 above)
  induction tables with
  | nil => grind [putTable]
  | cons u us ih => grind [putTable]

theorem tables_perm (perm : ms.Perm ms') (distinct : ms.Distinct) :
    tablesOfJson? (.object ms) = tablesOfJson? (.object ms') := by
  simp only [tablesOfJson?, List.foldlM_eq_foldl]
  refine perm.foldl_eq' ?_ _
  rintro ⟨key, j⟩ mem ⟨key', j'⟩ mem' tables
  rcases tables with _ | tables
  · rfl
  rcases key with _ | name <;> rcases key' with _ | name'
  · rfl
  · cases TableSpec.ofJson? j' <;> rfl
  · cases TableSpec.ofJson? j <;> rfl
  by_cases same : name = name'
  · subst same
    rw [distinct.eq_of_mem mem mem']
  rcases TableSpec.ofJson? j with _ | t <;> rcases TableSpec.ofJson? j' with _ | t'
  · rfl
  · rfl
  · rfl
  · exact congrArg some (putTable_comm (Ne.symm same) t' t tables)

variable {before after : Members} {key : Option String} {k k' : Json}

theorem tables_of_known (same : TableSpec.ofJson? k = TableSpec.ofJson? k') :
    tablesOfJson? (.object (before ++ (key, k) :: after)) =
      tablesOfJson? (.object (before ++ (key, k') :: after)) := by
  simp only [tablesOfJson?, List.foldlM_append, List.foldlM_cons, same]

theorem tables_of_unknown
    (unknown : ∀ s ∈ Place.tables.slots (before ++ (key, k) :: after), key ≠ some s.name) :
    tablesOfJson? (.object (before ++ (key, k) :: after)) =
      tablesOfJson? (.object (before ++ (key, k') :: after)) := by
  have nameless : key = none := by
    rcases key with _ | name
    · rfl
    · refine absurd rfl (unknown ⟨name, .table, []⟩ ?_)
      exact List.mem_filterMap.2 ⟨_, List.mem_append_right _ List.mem_cons_self, rfl⟩
  have rejected (i : Json) : tablesOfJson? (.object (before ++ (none, i) :: after)) = none := by
    rw [tablesOfJson?, List.foldlM_append]
    exact Option.bind_eq_none_iff.2 fun tables _ => rfl
  rw [nameless, rejected, rejected]

theorem plan_of_respells {j k : Json} (respells : Respells 1 .node j k)
    (reads : Place.node.Reads 1 j k) : planOfJson? j = planOfJson? k := by
  rw [planOfJson?, planOfJson?, respells.sound, reads]
  rcases read : Node.ofJson? .direct nestingLimit k with _ | node
  · rw [ite_self, ite_self]
  · have fits : 1 + j.depth ≤ nestingLimit ↔ 1 + k.depth ≤ nestingLimit :=
      respells.fits_iff ⟨_, _, node, (reads ..).trans read⟩
    have room : j.depth < nestingLimit ↔ k.depth < nestingLimit := by omega
    simp only [room]

theorem reads_of_alike (alike : Alike (n + 1) (Place.document.slots ms) ms ms') :
    Place.document.Reads n (.object ms) (.object ms') := by
  rintro rfl
  refine alike.bind_fields rfl _ ?_
  rintro _ _ (_ | ⟨tables, _ | ⟨plan, _ | _⟩⟩)
  have tables := tables.read (fun o => o.elim (some []) tablesOfJson?) (fun _ _ same => same)
    (by simp [tablesOfJson?])
  cases plan with
  | refl =>
    rename_i plan
    cases plan <;> simp only [tables]
  | changed respells reads => simp only [tables, plan_of_respells respells reads]
  | written default => cases default

end Document

theorem Place.reads_of_alike {place : Place} (structured : place.structured = true)
    (alike : Alike (n + 1) (place.slots ms) ms ms') : place.Reads n (.object ms) (.object ms') := by
  cases place with
  | document => exact Document.reads_of_alike alike
  | table => exact TableSpec.reads_of_alike alike
  | column => exact Column.reads_of_alike alike
  | value => exact Value.reads_of_alike alike
  | node => exact Node.reads_of_alike alike
  | comparison => exact Comparison.reads_of_alike alike
  | field => exact Field.reads_of_alike alike
  | tables | expression | list | leaf => cases structured

/-! ## Other parts -/

theorem Json.eq_or_crowded (perm : ms.Perm ms') : ms = ms' ∨ 1 < ms.length ∧ 1 < ms'.length := by
  rw [← perm.length_eq, and_self]
  match ms with
  | [] => exact .inl perm.nil_eq
  | [_] => exact .inl (List.perm_singleton.1 perm.symm).symm
  | _ :: _ :: _ => exact .inr (Nat.succ_lt_succ (Nat.succ_pos _))

theorem Json.alone_or_crowded (before after : Members) :
    (before = [] ∧ after = []) ∨ ∀ m, 1 < (before ++ m :: after).length := by
  rw [← List.length_eq_zero_iff, ← List.length_eq_zero_iff, or_iff_not_imp_left]
  intro more m
  rw [List.length_append, List.length_cons]
  omega

theorem Json.SameLeaf.of_perm (perm : ms.Perm ms') : SameLeaf (.object ms) (.object ms') := by
  rcases eq_or_crowded perm with rfl | ⟨crowded, crowded'⟩
  · exact .refl
  · refine .object (fun r => ?_) ?_
    · rw [r.name?_of_crowded crowded, r.name?_of_crowded crowded']
    · rw [← List.length_eq_zero_iff, perm.length_eq, List.length_eq_zero_iff]

theorem Json.SameLeaf.member {before after : Members} {key : Option String} {k k' : Json}
    (same : SameLeaf k k') :
    SameLeaf (.object (before ++ (key, k) :: after)) (.object (before ++ (key, k') :: after)) := by
  refine .object (fun r => ?_) (by simp)
  rcases alone_or_crowded before after with ⟨rfl, rfl⟩ | crowded
  · cases same with
    | refl | array => rfl
    | @object i i' _ empty =>
      rcases i with _ | _
      · rw [empty.1 rfl]
      · rcases i' with _ | _
        · cases empty.2 rfl
        · rfl
  · rw [r.name?_of_crowded (crowded _), r.name?_of_crowded (crowded _)]

theorem Json.SameLeaf.item {before after : List Json} {k k' : Json} (same : SameLeaf k k') :
    SameLeaf (.array (before ++ k :: after)) (.array (before ++ k' :: after)) :=
  .array (mapM_replace (by simp only [Value.byte?, same.int]))

theorem Expr.reads_of_perm (perm : ms.Perm ms') :
    Place.expression.Reads n (.object ms) (.object ms') := by
  refine ⟨fun levels => ?_, by simp⟩
  rcases Json.eq_or_crowded perm with rfl | ⟨crowded, crowded'⟩
  · rfl
  · rw [ofJson?_of_crowded crowded, ofJson?_of_crowded crowded']

theorem Expr.ofJson?_of_unknown {ms : Members} {levels : Nat} {key : Option String} {k : Json}
    (unknown : ∀ s ∈ Place.expression.slots ms, key ≠ some s.name) :
    ofJson? levels (.object [(key, k)]) = none := by
  cases levels with
  | zero => simp only [ofJson?]
  | succ levels =>
    rcases key with _ | name
    · simp only [ofJson?]
    simp only [Place.slots, List.forall_mem_cons, ne_eq, Option.some.injEq] at unknown
    simp [ofJson?, unknown]

theorem Expr.reads_of_unknown {before after : Members} {key : Option String} {k k' : Json}
    (unknown : ∀ s ∈ Place.expression.slots (before ++ (key, k) :: after), key ≠ some s.name) :
    Place.expression.Reads n (.object (before ++ (key, k) :: after))
      (.object (before ++ (key, k') :: after)) := by
  refine ⟨fun levels => ?_, by simp⟩
  rcases Json.alone_or_crowded before after with ⟨rfl, rfl⟩ | crowded
  · exact (ofJson?_of_unknown unknown).trans (ofJson?_of_unknown unknown).symm
  · rw [ofJson?_of_crowded (crowded _), ofJson?_of_crowded (crowded _)]

theorem Expr.reads_of_known {before after : Members} {s : Slot} {k k' : Json}
    (known : s ∈ Place.expression.slots (before ++ (some s.name, k) :: after))
    (reads : s.place.Reads (n + 1) k k') :
    Place.expression.Reads n (.object (before ++ (some s.name, k) :: after))
      (.object (before ++ (some s.name, k') :: after)) := by
  refine ⟨fun levels => ?_, by simp⟩
  rcases Json.alone_or_crowded before after with ⟨rfl, rfl⟩ | crowded
  · cases levels with
    | zero => simp only [ofJson?]
    | succ levels =>
      simp only [Place.slots, List.mem_cons, List.not_mem_nil, or_false] at known
      rcases known with rfl | rfl | rfl | rfl | rfl | rfl | rfl
      · simp only [List.nil_append, ofJson?, reads.int]
      · simp only [List.nil_append, ofJson?, reads .collected]
      · exact reads (levels + 1)
      · simp only [List.nil_append, ofJson?, reads (ofJson? levels) fun _ _ same => same.1 levels]
      · simp only [List.nil_append, ofJson?, reads (ofJson? levels) fun _ _ same => same.1 levels]
      · simp only [List.nil_append, ofJson?, reads.1]
      · simp only [List.nil_append, ofJson?, reads.1]
  · rw [ofJson?_of_crowded (crowded _), ofJson?_of_crowded (crowded _)]

/-! ## The whole -/

theorem Place.structured_of_default {place : Place} {s : Slot} {k : Json}
    (known : s ∈ place.slots ms) (default : k ∈ s.defaults) : place.structured = true := by
  cases place with
  | document | table | column | value | node | comparison | field => rfl
  | tables =>
    obtain ⟨_, rfl⟩ := slot_of_tables known
    cases default
  | expression =>
    revert known
    simp only [slots, List.mem_cons, List.not_mem_nil, or_false]
    rintro (rfl | rfl | rfl | rfl | rfl | rfl | rfl) <;> cases default
  | list | leaf => cases known

theorem Respells.reads {place : Place} {j k : Json} (h : Respells n place j k) :
    place.Reads n j k := by
  induction h with
  | @permute n place ms ms' perm distinct =>
    cases place with
    | tables => exact Document.tables_perm perm distinct
    | expression => exact Expr.reads_of_perm perm
    | list => exact fun _ _ => rfl
    | leaf => exact .of_perm perm
    | document | table | column | value | node | comparison | field =>
      exact Place.reads_of_alike rfl (.of_perm perm)
  | add structured unknown _ _ => exact Place.reads_of_alike structured (.of_add _ unknown)
  | write known default absent =>
    exact Place.reads_of_alike (Place.structured_of_default known default)
      (.of_write known default absent)
  | @known n place before s k k' after known respells ih =>
    cases place with
    | tables =>
      obtain ⟨_, rfl⟩ := Place.slot_of_tables known
      exact Document.tables_of_known ih
    | expression => exact Expr.reads_of_known known ih
    | list | leaf => cases known
    | document | table | column | value | node | comparison | field =>
      exact Place.reads_of_alike rfl (.of_known known respells ih)
  | @unknown n place before key k k' after unknown _ ih =>
    cases place with
    | tables => exact Document.tables_of_unknown unknown
    | expression => exact Expr.reads_of_unknown unknown
    | list => exact fun _ _ => rfl
    | leaf => exact .member ih
    | document | table | column | value | node | comparison | field =>
      exact Place.reads_of_alike rfl (.of_unknown unknown)
  | @item n place inner before k k' after items _ ih =>
    cases place with
    | list =>
      cases items
      exact fun read same => mapM_replace (same _ _ ih)
    | leaf =>
      cases items
      exact .item ih
    | tables => rfl
    | expression => exact ⟨fun levels => by simp only [Expr.ofJson?], by simp⟩
    | document | table | column | value | node | comparison | field => cases items

theorem Document.ofJson?_of_eqvGen {j j' : Json}
    (respells : Relation.EqvGen (Respells 0 .document) j j') : ofJson? j = ofJson? j' := by
  induction respells with
  | rel j k h => exact h.reads rfl
  | refl => rfl
  | symm _ _ _ ih => exact ih.symm
  | trans _ _ _ _ _ ih ih' => exact ih.trans ih'

theorem Document.parse_of_respells {text text' : String} {j j' : Json}
    (written : Json.parse? text = some j) (written' : Json.parse? text' = some j')
    (respells : Relation.EqvGen (Respells 0 .document) j j') :
    (∃ d, parse text = .ok d ∧ parse text' = .ok d) ∨
      ∃ m m', parse text = .error (.planDocument m) ∧ parse text' = .error (.planDocument m') := by
  have reads := ofJson?_of_eqvGen respells
  simp only [parse, written, written', Option.bind_eq_bind, Option.bind_some, ← reads]
  cases ofJson? j with
  | none => exact .inr ⟨_, _, rfl, rfl⟩
  | some d => exact .inl ⟨d, rfl, rfl⟩

theorem Document.parse_of_respells_values :
    let text := "\x7b\"plan\":\x7b\"op\":\"values\",\"columns\":[]\x7d\x7d"
    let text' := "\x7b\"plan\":\x7b\"note\":\x7b\x7d,\"rows\":[],\"columns\":[]," ++
      "\"op\":\"values\"\x7d\x7d"
    ∃ j j' d, Json.parse? text = some j ∧ Json.parse? text' = some j' ∧
      Relation.EqvGen (Respells 0 .document) j j' ∧ parse text = .ok d ∧ parse text' = .ok d := by
  intro text text'
  let op : Option String × Json := (some "op", .ofString "values")
  let columns : Option String × Json := (some "columns", .array [])
  let rows : Option String × Json := (some "rows", .array [])
  let note : Option String × Json := (some "note", .object [])
  let spelled (ms : Members) : Json := .object [(some "plan", .object ms)]
  have reads {ms : Members} {t : String} (shown : (spelled ms).compact = t)
      (named : ∀ m ∈ ms, ∃ key, m.1 = some key) (plain : ∀ m ∈ ms, m.2.Written) :
      Json.parse? t = some (spelled ms) :=
    shown ▸ Json.parse?_compact (.object (by simp) (by simpa using .object named plain))
  have empty : (Json.array []).Written ∧ (Json.object []).Written :=
    ⟨.array (List.forall_mem_nil _), .object (List.forall_mem_nil _) (List.forall_mem_nil _)⟩
  have written : Json.parse? text = some (spelled [op, columns]) :=
    reads (by decide +kernel) (by simp [op, columns])
      (by simpa [op, columns] using ⟨.text, empty.1⟩)
  have written' : Json.parse? text' = some (spelled [note, rows, columns, op]) :=
    reads (by decide +kernel) (by simp [note, rows, columns, op])
      (by simpa [note, rows, columns, op] using ⟨empty.2, empty.1, .text⟩)
  have inside {ms ms' : Members} (h : Respells 1 .node (.object ms) (.object ms')) :
      Relation.EqvGen (Respells 0 .document) (spelled ms) (spelled ms') :=
    .rel _ _ (@Respells.known 0 .document [] ⟨"plan", .node, []⟩ _ _ [] (by simp [Place.slots]) h)
  have turned : Respells 1 .node (.object [op, columns]) (.object [columns, op]) :=
    .permute (.swap ..) (by unfold Members.Distinct; decide)
  have filled : Respells 1 .node (.object [columns, op]) (.object [rows, columns, op]) :=
    @Respells.write 1 .node _ ⟨"rows", .list (.list .value), [.array []]⟩ _
      (.tail _ (.tail _ (.head _))) List.mem_cons_self (by decide)
  have noted : Respells 1 .node (.object [rows, columns, op])
      (.object [note, rows, columns, op]) :=
    .add rfl (by decide) rfl (by unfold Json.Fits; decide)
  have respells := (inside turned).trans _ _ _ ((inside filled).trans _ _ _ (inside noted))
  have accepted : (parse text).toOption.isSome = true := by decide +kernel
  rcases parse_of_respells written written' respells with ⟨d, read, read'⟩ | ⟨_, _, rejected, -⟩
  · exact ⟨_, _, d, written, written', respells, read, read'⟩
  · rw [rejected] at accepted
    cases accepted

end QueryFlow
