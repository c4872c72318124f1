import Worklist.Filter.Wire
import Worklist.Proofs.Json.Complete
import Worklist.Proofs.Steps

/-!
# Filters in wire form

A clause is written as an object that has its field, operator, values and dynamic mark as members,
in any order. A value that is the decimal form of a number of 64 bits may stand there as the bare
number. However a list of clauses is laid out, reading the text gives back the clauses.
-/

set_option autoImplicit false

namespace Worklist

open Json (Document Fault Laid Numeric Token Tree)

/-! ## Values -/

/-- How a value of a clause may be written: as a text, or as a number if it is one of 64 bits in
decimal form. -/
inductive WritesValue : String → Tree → Prop where
  | text (s : String) : WritesValue s (.text (.ok s))
  | whole {n : Int} (wide : Number.isInt64 n = true) :
      WritesValue (Number.decimal n) (.number (.ok (.ofWhole n)))

/-- The document of a value is complete. -/
theorem isComplete_of_writesValue (s : String) (t : Tree) (h : WritesValue s t) :
    t.isComplete = true := by
  cases h <;> rfl

/-- A value is read as it was before it was written. -/
theorem exists_readValue (s : String) (t : Tree) (h : WritesValue s t) :
    ∃ v, WireClause.readValue t = .ok v ∧ v.normalize = s := by
  cases h with
  | text => exact ⟨.text s, rfl, rfl⟩
  | whole wide =>
    rename_i n
    refine ⟨.int n, ?_, rfl⟩
    by_cases negative : n < 0
    · rw [Numeric.ofWhole, if_pos negative]
      rfl
    · have range := Number.isInt64_iff.mp wide
      have same : (n.natAbs : Int) = n := by omega
      rw [Numeric.ofWhole, if_neg negative]
      show (if (n.natAbs : Int) ≤ Number.maxInt64 then _ else _) = _
      rw [same, if_pos range.2]
      rfl

/-- A closed list is read item by item. -/
theorem asList_closed {α : Type} (read : Tree → Except Fault α) (items : List Tree) :
    (Tree.list items .closed).asList read = items.mapM read := by
  show (items.mapM read >>= fun values => Tree.raise? none >>= fun _ => pure values) = _
  cases items.mapM read <;> rfl

/-- Documents that write texts are read as values that are normalized to these texts. -/
theorem exists_readValues {values : List String} {ts : List Tree}
    (h : List.Forall₂ WritesValue values ts) :
    ∃ vs, WireClause.readValues (.list ts .closed) = .ok vs ∧
      vs.map FilterValue.normalize = values := by
  obtain ⟨vs, hvs, back⟩ := exists_mapM_of_forall₂ (k := id)
    exists_readValue h
  rw [List.map_id] at back
  exact ⟨vs, (asList_closed _ ts).trans hvs, back⟩

/-! ## Members -/

/-- The object with some members. -/
def objectOf (members : List (String × Tree)) : Tree :=
  .object (members.map fun m => (.ok m.1, m.2)) .closed

namespace WireClause

/-- What a member of an object tells of a clause. -/
inductive Tells (w : WireClause) : String → Tree → Prop where
  | field {t : Tree} (h : FieldKey.ofTree t = .ok w.field) : Tells w "field" t
  | operator {t : Tree} (h : t.asText = .ok w.operator) : Tells w "operator" t
  | values {t : Tree} (h : readValues t = .ok w.values) : Tells w "values" t
  | dynamic {t : Tree} (h : t.asBoolean = .ok w.dynamic) : Tells w "dynamic" t

/-- What is known of a clause once the members with some keys have been met. -/
def known (w : WireClause) (met : List String) : Draft where
  field? := if "field" ∈ met then some w.field else none
  operator? := if "operator" ∈ met then some w.operator else none
  values? := if "values" ∈ met then some w.values else none
  dynamic? := if "dynamic" ∈ met then some w.dynamic else none

/-- A member that is met for the first time makes known what it tells. -/
theorem take_known {w : WireClause} {key : String} {t : Tree} (tells : Tells w key t)
    {met : List String} (new : key ∉ met) :
    (known w met).take key t = .ok (known w (key :: met)) := by
  cases tells with
  | field h => simp [Draft.take, known, Json.takeField, new, h]
  | operator h => simp [Draft.take, known, Json.takeField, new, h]
  | values h => simp [Draft.take, known, Json.takeField, new, h]
  | dynamic h => simp [Draft.take, known, Json.takeField, new, h]

/-- Members with different keys make known what each of them tells. -/
theorem foldlM_known {w : WireClause} {members : List (String × Tree)}
    (tells : ∀ m ∈ members, Tells w m.1 m.2) (met : List String)
    (new : (members.map Prod.fst ++ met).Nodup) :
    (members.map fun m => (Except.ok m.1, m.2)).foldlM
        (fun (d : Draft) m => do d.take (← m.1) m.2) (known w met) =
      .ok (known w ((members.map Prod.fst).reverse ++ met)) := by
  -- The keys that are met grow with each member, so the draft is known for any keys met before.
  induction members generalizing met with
  | nil => rfl
  | cons m members ih =>
    obtain ⟨first, rest⟩ := List.forall_mem_cons.mp tells
    rw [List.map_cons, List.cons_append, List.nodup_cons] at new
    have unmet : m.1 ∉ met := fun old => new.1 (List.mem_append_right _ old)
    have onward := ih rest (m.1 :: met)
      (List.perm_middle.nodup_iff.mpr (List.nodup_cons.mpr new))
    rw [List.map_cons, List.foldlM_cons]
    show ((known w met).take m.1 m.2 >>= _) = _
    rw [take_known first unmet]
    show List.foldlM _ (known w (m.1 :: met)) _ = _
    rw [onward, List.map_cons, List.reverse_cons, List.append_assoc]
    rfl

/-- The keys of a clause. -/
def keys : List String :=
  ["field", "operator", "values", "dynamic"]

/-- A draft that has met all keys of a clause is finished as that clause. -/
theorem finish_known {w : WireClause} {met : List String} (all : ∀ key ∈ keys, key ∈ met) :
    (known w met).finish = .ok w := by
  have field : "field" ∈ met := all _ (by decide)
  have operator : "operator" ∈ met := all _ (by decide)
  have values : "values" ∈ met := all _ (by decide)
  have dynamic : "dynamic" ∈ met := all _ (by decide)
  unfold known Draft.finish
  rw [if_pos field, if_pos operator, if_pos values, if_pos dynamic]
  rfl

/-- An object with every key of a clause once, in any order, is read as the clause that its members
tell of. -/
theorem read_object {w : WireClause} {members : List (String × Tree)}
    (tells : ∀ m ∈ members, Tells w m.1 m.2) (order : (members.map Prod.fst).Perm keys) :
    read (objectOf members) = .ok w := by
  have new : (members.map Prod.fst ++ []).Nodup := by
    rw [List.append_nil]
    exact order.nodup_iff.mpr (by decide)
  have folded := foldlM_known tells [] new
  have all : ∀ key ∈ keys, key ∈ (members.map Prod.fst).reverse ++ [] := by
    intro key hkey
    rw [List.append_nil, List.mem_reverse]
    exact order.mem_iff.mpr hkey
  unfold read objectOf
  dsimp only
  have start : ({} : Draft) = known w [] := by
    simp [known]
  rw [start, folded]
  exact finish_known all

end WireClause

/-! ## Clauses -/

namespace Clause

/-- The members of the object of a clause. -/
def members (c : Clause) (values : List Tree) : List (String × Tree) :=
  [("field", .text (.ok c.field.text)), ("operator", .text (.ok c.operator.code)),
    ("values", .list values .closed), ("dynamic", .boolean c.dynamic)]

/-- How a clause may be written: as an object with its members in any order. -/
inductive Writes (c : Clause) : Tree → Prop where
  | object {values : List Tree} {members : List (String × Tree)}
      (each : List.Forall₂ WritesValue c.values values)
      (order : members.Perm (c.members values)) :
      Writes c (objectOf members)

/-- Whether clauses are written in a text: as a list, with blanks and escapes as JSON allows. -/
def Written (clauses : List Clause) (s : String) : Prop :=
  ∃ documents, List.Forall₂ Writes clauses documents ∧
    Laid s.toList (Tree.list documents .closed).tokens

/-- Whether a clause is marked as dynamic if its field is custom, as every clause that is built from
values is. -/
def IsMarked (c : Clause) : Prop :=
  c.field.isCustom = true → c.dynamic = true

/-- A clause that is made from values is marked as dynamic if its field is a custom one. -/
theorem isMarked_ofValues (field : FieldKey) (operator : Operator) (values : List FilterValue) :
    (ofValues field operator values).IsMarked :=
  id

/-- A clause on a custom field stays dynamic whatever mark it is given. -/
theorem isMarked_withDynamic (c : Clause) (dynamic : Bool) : (c.withDynamic dynamic).IsMarked := by
  intro custom
  show (dynamic || c.field.isCustom) = true
  rw [Bool.or_eq_true]
  exact Or.inr custom

/-- The document of a clause is complete. -/
theorem isComplete_of_writes (c : Clause) (t : Tree) (h : c.Writes t) : t.isComplete = true := by
  cases h with
  | object each order =>
    rename_i values members
    have whole : Tree.membersComplete (members.map fun m => (.ok m.1, m.2)) = true := by
      apply (Tree.membersComplete_iff _).mpr
      intro m hm
      obtain ⟨n, hn, rfl⟩ := List.mem_map.mp hm
      have listed := order.mem_iff.mp hn
      simp only [Clause.members, List.mem_cons, List.not_mem_nil, or_false] at listed
      rcases listed with rfl | rfl | rfl | rfl
      · rfl
      · rfl
      · exact Tree.itemsComplete_of_forall₂ isComplete_of_writesValue each
      · rfl
    exact whole

/-- A clause is read and resolved as it was before it was written. -/
theorem exists_read_of_writes {c : Clause} {t : Tree}
    (readable : FieldKey.parse c.field.text = c.field) (marked : c.IsMarked) (h : c.Writes t) :
    ∃ w, WireClause.read t = .ok w ∧ w.resolve = .inl c := by
  cases h with
  | object each order =>
    rename_i values members
    obtain ⟨vs, hvs, back⟩ := exists_readValues each
    have tells : ∀ m ∈ members,
        WireClause.Tells ⟨c.field, c.operator.code, vs, c.dynamic⟩ m.1 m.2 := by
      intro m hm
      have listed := order.mem_iff.mp hm
      simp only [Clause.members, List.mem_cons, List.not_mem_nil, or_false] at listed
      rcases listed with rfl | rfl | rfl | rfl
      · exact .field (congrArg Except.ok readable)
      · exact .operator rfl
      · exact .values hvs
      · exact .dynamic rfl
    have same : (ofValues c.field c.operator vs).withDynamic c.dynamic = c := by
      have dynamic : (c.dynamic || c.field.isCustom) = c.dynamic := by
        cases custom : c.field.isCustom with
        | false => exact Bool.or_false _
        | true => rw [marked custom, Bool.or_true]
      unfold ofValues withDynamic
      dsimp only
      rw [dynamic, back]
    refine ⟨_, WireClause.read_object tells (order.map Prod.fst), ?_⟩
    unfold WireClause.resolve
    dsimp only
    rw [Operator.ofCode?_code]
    exact congrArg Sum.inl same

/-- Clauses that are all known are kept as they are. -/
theorem known_map_inl (clauses : List Clause) : known (clauses.map .inl) = clauses := by
  simp [known]

/-- Clauses that are all known leave no notices. -/
theorem notices_map_inl (clauses : List Clause) : notices (clauses.map .inl) = [] := by
  simp [notices]

/-- A text of clauses is parsed as these clauses, in their order, and without a notice. -/
theorem parse_written {clauses : List Clause} {s : String} (few : clauses.length ≤ maxFilters)
    (small : s.utf8ByteSize ≤ maxFilterBytes)
    (readable : ∀ c ∈ clauses, FieldKey.parse c.field.text = c.field)
    (marked : ∀ c ∈ clauses, c.IsMarked) (written : Written clauses s) :
    Clause.parse s = .ok (clauses, []) := by
  obtain ⟨documents, each, laid⟩ := written
  have complete : (Tree.list documents .closed).isComplete = true :=
    Tree.itemsComplete_of_forall₂ isComplete_of_writes each
  have stated : List.Forall₂
      (fun c t => (FieldKey.parse c.field.text = c.field ∧ c.IsMarked) ∧ c.Writes t)
      clauses documents :=
    (List.forall₂_and_left _ _).mpr ⟨fun c hc => ⟨readable c hc, marked c hc⟩, each⟩
  obtain ⟨ws, hws, resolved⟩ := exists_mapM_of_forall₂ (g := WireClause.resolve) (k := Sum.inl)
    (fun _ _ h => exists_read_of_writes h.1.1 h.1.2 h.2) stated
  have length : ws.length = clauses.length := by
    have same := congrArg List.length resolved
    rw [List.length_map, List.length_map] at same
    exact same
  unfold Clause.parse
  rw [if_neg (Nat.not_lt.mpr small), Json.readDocument_laid _ complete laid, asList_closed, hws]
  dsimp only
  rw [if_neg (by omega), resolved, known_map_inl, notices_map_inl]

/-- A clause on an attribute. -/
def subjectClause : Clause :=
  (ofValues (.plain "subject") .notContains [.text "a \"b\"\n"]).withDynamic false

/-- A clause on a custom field. -/
def customClause : Clause :=
  (ofValues (.custom (-7)) .untilDaysAgo [.int (-12), .text "1"]).withDynamic false

/-- Documents of the two clauses, the second one with its members in the opposite order. -/
def sampleDocuments : List Tree :=
  [objectOf (subjectClause.members [.text (.ok "a \"b\"\n")]),
    objectOf (customClause.members [.number (.ok (.ofWhole (-12))), .text (.ok "1")]).reverse]

/-- The text of these documents. -/
def sampleText : String :=
  "[\x7b\"field\":\"subject\",\"operator\":\"!~\",\"values\":[\"a \\\"b\\\"\\n\"]," ++
    "\"dynamic\":false\x7d,\x7b\"dynamic\":true,\"values\":[-12,\"1\"]," ++
    "\"operator\":\"<t-\",\"field\":\"cf_-7\"\x7d]"

/-- The sample text writes two clauses. -/
theorem written_sampleText : Written [subjectClause, customClause] sampleText := by
  have spelled : sampleText.toList =
      (Tree.list sampleDocuments .closed).tokens.flatMap Token.write := by
    decide +kernel
  refine ⟨sampleDocuments, .cons ?first (.cons ?second .nil), ?laid⟩
  case first => exact .object (.cons (.text "a \"b\"\n") .nil) (.refl _)
  case second =>
    have number : WritesValue (Number.decimal (-12)) (.number (.ok (.ofWhole (-12)))) :=
      .whole (by decide)
    exact .object (.cons number (.cons (.text "1") .nil)) (List.reverse_perm _)
  case laid =>
    rw [spelled]
    exact Json.laid_write (by decide +kernel)

/-- The sample text is within the limits, and it is parsed as the two clauses that it writes,
without a notice. -/
theorem parse_written_sampleText :
    [subjectClause, customClause].length ≤ maxFilters ∧
      sampleText.utf8ByteSize ≤ maxFilterBytes ∧
      (∀ c ∈ [subjectClause, customClause], FieldKey.parse c.field.text = c.field) ∧
      (∀ c ∈ [subjectClause, customClause], c.IsMarked) ∧
      Written [subjectClause, customClause] sampleText ∧
      Clause.parse sampleText = .ok ([subjectClause, customClause], []) := by
  have few : [subjectClause, customClause].length ≤ maxFilters := by decide
  have small : sampleText.utf8ByteSize ≤ maxFilterBytes := by decide +kernel
  have readable : ∀ c ∈ [subjectClause, customClause],
      FieldKey.parse c.field.text = c.field := by
    decide +kernel
  have marked : ∀ c ∈ [subjectClause, customClause], c.IsMarked :=
    List.forall_mem_cons.mpr ⟨isMarked_withDynamic _ _,
      List.forall_mem_singleton.mpr (isMarked_withDynamic _ _)⟩
  exact ⟨few, small, readable, marked, written_sampleText,
    parse_written few small readable marked written_sampleText⟩

end Clause

end Worklist
