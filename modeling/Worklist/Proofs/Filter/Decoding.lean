import Worklist.Filter.Wire
import Worklist.Proofs.Json.Members

/-!
# Clauses in a document

Which documents stand for which clauses, apart from how they are read. A clause stands as an object
or as a list. In the object `field` and `operator` are called once; `values` and the dynamic mark
are called once at most; anything else is skipped. A list has the same four items in order, and the
last two may be missing. The reader accepts these documents and no others.
-/

set_option autoImplicit false

namespace Worklist

open Json (FieldIs Fills Sets Tree givenAs keyed)

/-- The documents that stand for a value of a clause. A whole number beyond 64 bits stands for the
nearest floating-point number. -/
inductive FilterValue.StandsAs : FilterValue → Tree → Prop where
  | text (s : String) : StandsAs (.text s) (.text (.ok s))
  | natural {n : Nat} (narrow : (n : Int) ≤ Number.maxInt64) :
      StandsAs (.int n) (.number (.ok (.natural n)))
  | beyond {n : Nat} (wide : ¬ (n : Int) ≤ Number.maxInt64) :
      StandsAs (.float (.finite ((Number.Binary64.nearest false n 1).getD default)))
        (.number (.ok (.natural n)))
  | negative (n : Int) : StandsAs (.int n) (.number (.ok (.negative n)))
  | real (x : Number.Binary64) : StandsAs (.float (.finite x)) (.number (.ok (.real x)))

namespace WireClause

/-- The documents that stand for the values of a clause. -/
def ValuesStandAs (values : List FilterValue) (t : Tree) : Prop :=
  ∃ items, t = .list items .closed ∧ List.Forall₂ FilterValue.StandsAs values items

/-- The names of the members of a clause that mean something. -/
def names : List String :=
  ["field", "operator", "values", "dynamic", "is_dynamic_field"]

/-- Whether the members of an object are those of a clause. -/
structure Describes (w : WireClause) (members : List (String × Tree)) : Prop where
  field : ∃ s, givenAs ["field"] members = [.text (.ok s)] ∧ FieldKey.parse s = w.field
  operator : givenAs ["operator"] members = [.text (.ok w.operator)]
  values : givenAs ["values"] members = [] ∧ w.values = [] ∨
    ∃ t, givenAs ["values"] members = [t] ∧ ValuesStandAs w.values t
  /-- The mark has two names, of which one may be used. -/
  dynamic : givenAs ["dynamic", "is_dynamic_field"] members = [] ∧ w.dynamic = false ∨
    givenAs ["dynamic", "is_dynamic_field"] members = [.boolean w.dynamic]
  /-- What is skipped breaks off nowhere. -/
  others : ∀ m ∈ members, m.1 ∉ names → m.2.skippedFault? = none

/-- The documents that stand for a clause. -/
inductive StandsAs : WireClause → Tree → Prop where
  | object {w : WireClause} {members : List (String × Tree)} (own : w.Describes members) :
      StandsAs w (.object (keyed members) .closed)
  | two (s operator : String) :
      StandsAs ⟨FieldKey.parse s, operator, [], false⟩
        (.list [.text (.ok s), .text (.ok operator)] .closed)
  | three (s operator : String) {values : List FilterValue} {t : Tree}
      (own : ValuesStandAs values t) :
      StandsAs ⟨FieldKey.parse s, operator, values, false⟩
        (.list [.text (.ok s), .text (.ok operator), t] .closed)
  | four (s operator : String) {values : List FilterValue} {t : Tree}
      (own : ValuesStandAs values t) (dynamic : Bool) :
      StandsAs ⟨FieldKey.parse s, operator, values, dynamic⟩
        (.list [.text (.ok s), .text (.ok operator), t, .boolean dynamic] .closed)

/-! ## Fields -/

/-- A value is read from exactly the documents that it stands as. -/
theorem readValue_eq_ok_iff {t : Tree} {v : FilterValue} :
    readValue t = .ok v ↔ v.StandsAs t := by
  constructor
  · intro h
    obtain ⟨kept, same, own⟩ := bind_eq_ok_iff.mp h
    rw [(Tree.keep_eq_ok_iff.mp same).2] at own
    split at own
    case h_1 n =>
      split_ifs at own with narrow
      · exact Except.ok.inj own ▸ .natural narrow
      · exact Except.ok.inj own ▸ .beyond narrow
    case h_2 n => exact Except.ok.inj own ▸ .negative n
    case h_3 x => exact Except.ok.inj own ▸ .real x
    case h_4 s => exact Except.ok.inj own ▸ .text s
    case h_5 => cases own
  · intro h
    cases h with
    | natural narrow => exact if_pos narrow
    | beyond wide => exact if_neg wide
    | _ => rfl

/-- Values are read from exactly the documents that they stand as together. -/
theorem readValues_eq_ok_iff {t : Tree} {values : List FilterValue} :
    readValues t = .ok values ↔ ValuesStandAs values t := by
  unfold readValues ValuesStandAs
  simp only [Tree.asList_eq_ok_iff, readValue_eq_ok_iff]
  exact exists_congr fun items => and_congr_right fun _ => ⟨List.Forall₂.flip, List.Forall₂.flip⟩

/-- The key of a field is read from the texts that parse as it, and from nothing else. -/
theorem ofTree_eq_ok_iff {t : Tree} {key : FieldKey} :
    FieldKey.ofTree t = .ok key ↔ ∃ s, t = .text (.ok s) ∧ FieldKey.parse s = key := by
  unfold FieldKey.ofTree
  simp only [bind_eq_ok_iff, Tree.asText_eq_ok_iff]
  exact exists_congr fun s => and_congr_right fun _ => ⟨Except.ok.inj, congrArg Except.ok⟩

/-! ## Objects -/

/-- What taking up one member does to each field of a draft. -/
theorem take_eq_ok_iff {d next : Draft} {m : String × Tree} :
    d.take m.1 m.2 = .ok next ↔
      Sets (fun t key => FieldKey.ofTree t = .ok key) ["field"] m d.field? next.field? ∧
      Sets (fun t s => t.asText = .ok s) ["operator"] m d.operator? next.operator? ∧
      Sets (fun t values => readValues t = .ok values) ["values"] m d.values? next.values? ∧
      Sets (fun t b => t.asBoolean = .ok b) ["dynamic", "is_dynamic_field"] m d.dynamic?
        next.dynamic? ∧
      (m.1 ∉ names → m.2.skippedFault? = none) := by
  obtain ⟨field?, operator?, values?, dynamic?⟩ := d
  obtain ⟨field', operator', values', dynamic'⟩ := next
  unfold Draft.take
  split_ifs with field operator values dynamic
  · rw [Json.takeField_bind_eq_ok_iff (List.mem_singleton.mpr field)]
    simp [Json.sets_of_not_mem, names, field]
  · rw [Json.takeField_bind_eq_ok_iff (List.mem_singleton.mpr operator)]
    simp [Json.sets_of_not_mem, names, operator, and_left_comm]
  · rw [Json.takeField_bind_eq_ok_iff (List.mem_singleton.mpr values)]
    simp [Json.sets_of_not_mem, names, values, and_left_comm]
  · rw [Json.takeField_bind_eq_ok_iff (List.mem_pair.mpr dynamic)]
    simp [Json.sets_of_not_mem, names, field, operator, values, dynamic, and_comm, and_assoc]
  · obtain ⟨mark, second⟩ := not_or.mp dynamic
    rw [Tree.skip_bind_eq_ok_iff]
    simp [Json.sets_of_not_mem, names, field, operator, values, mark, second, and_comm, and_assoc,
      and_left_comm]

/-- What taking up members one after the other does to each field of a draft. -/
theorem foldlM_take_eq_ok_iff {members : List (String × Tree)} {d d' : Draft} :
    members.foldlM (fun (d : Draft) (m : String × Tree) => d.take m.1 m.2) d = .ok d' ↔
      Fills (fun t key => FieldKey.ofTree t = .ok key) ["field"] members d.field? d'.field? ∧
      Fills (fun t s => t.asText = .ok s) ["operator"] members d.operator? d'.operator? ∧
      Fills (fun t values => readValues t = .ok values) ["values"] members d.values? d'.values? ∧
      Fills (fun t b => t.asBoolean = .ok b) ["dynamic", "is_dynamic_field"] members d.dynamic?
        d'.dynamic? ∧
      ∀ m ∈ members, m.1 ∉ names → m.2.skippedFault? = none := by
  induction members generalizing d with
  | nil =>
    constructor
    · rintro ⟨⟩
      exact ⟨rfl, rfl, rfl, rfl, by simp⟩
    · obtain ⟨field?, operator?, values?, dynamic?⟩ := d'
      rintro ⟨rfl, rfl, rfl, rfl, -⟩
      rfl
  | cons m members ih =>
    rw [List.foldlM_cons, bind_eq_ok_iff]
    simp only [take_eq_ok_iff, ih, List.forall_mem_cons]
    constructor
    · rintro ⟨next, ⟨field, operator, values, dynamic, skipped⟩, field', operator', values',
        dynamic', rest⟩
      exact ⟨⟨_, field, field'⟩, ⟨_, operator, operator'⟩, ⟨_, values, values'⟩,
        ⟨_, dynamic, dynamic'⟩, skipped, rest⟩
    · rintro ⟨⟨f, field, field'⟩, ⟨o, operator, operator'⟩, ⟨v, values, values'⟩,
        ⟨y, dynamic, dynamic'⟩, skipped, rest⟩
      exact ⟨⟨f, o, v, y⟩, ⟨field, operator, values, dynamic, skipped⟩, field', operator', values',
        dynamic', rest⟩

/-- A clause is finished if its field and its operator have been met; the rest may be missing. -/
theorem finish_eq_ok_iff {d : Draft} {w : WireClause} :
    d.finish = .ok w ↔ d.field? = some w.field ∧ d.operator? = some w.operator ∧
      d.values?.getD [] = w.values ∧ d.dynamic?.getD false = w.dynamic := by
  obtain ⟨field?, operator?, values?, dynamic?⟩ := d
  obtain ⟨field, operator, values, dynamic⟩ := w
  cases field? with
  | none => exact iff_of_false (by rintro ⟨⟩) (by rintro ⟨⟨⟩, -⟩)
  | some own =>
    cases operator? with
    | none => exact iff_of_false (by rintro ⟨⟩) (by rintro ⟨-, ⟨⟩, -⟩)
    | some code =>
      show Except.ok (WireClause.mk own code (values?.getD []) (dynamic?.getD false)) = _ ↔ _
      simp only [Except.ok.injEq, WireClause.mk.injEq, Option.some.injEq]

/-- The members of an object are read as a clause if they are those of the clause. -/
theorem exists_draft_iff {members : List (String × Tree)} {w : WireClause} :
    (∃ d, members.foldlM (fun (d : Draft) (m : String × Tree) => d.take m.1 m.2) {} = .ok d ∧
      d.finish = .ok w) ↔ w.Describes members := by
  simp only [foldlM_take_eq_ok_iff, Json.fills_none_iff, finish_eq_ok_iff, ofTree_eq_ok_iff,
    Tree.asText_eq_ok_iff, readValues_eq_ok_iff, Tree.asBoolean_eq_ok_iff]
  constructor
  · rintro ⟨⟨field?, operator?, values?, dynamic?⟩, ⟨field, operator, values, dynamic, others⟩, rfl,
      rfl, values', dynamic'⟩
    refine ⟨?field, ?operator, ?values, ?dynamic, others⟩
    case field =>
      cases field with
      | given one own =>
        obtain ⟨s, rfl, parsed⟩ := own
        exact ⟨s, one, parsed⟩
    case operator =>
      cases operator with
      | given one own => exact own ▸ one
    case values =>
      cases values with
      | absent missing => exact .inl ⟨missing, values'.symm⟩
      | given one own => exact .inr ⟨_, one, values' ▸ own⟩
    case dynamic =>
      cases dynamic with
      | absent missing => exact .inl ⟨missing, dynamic'.symm⟩
      | given one own => exact .inr (dynamic' ▸ own ▸ one)
  · rintro ⟨⟨s, field, parsed⟩, operator, values, dynamic, others⟩
    have field' : FieldIs (fun t key => ∃ s, t = .text (.ok s) ∧ FieldKey.parse s = key) ["field"]
        members (some w.field) := .given field ⟨s, rfl, parsed⟩
    have operator' : FieldIs (fun t s => t = .text (.ok s)) ["operator"] members
        (some w.operator) := .given operator rfl
    have values' : ∃ values?, FieldIs (fun t values => ValuesStandAs values t) ["values"] members
        values? ∧ values?.getD [] = w.values := by
      rcases values with ⟨missing, empty⟩ | ⟨t, one, own⟩
      · exact ⟨none, .absent missing, empty.symm⟩
      · exact ⟨some w.values, .given one own, rfl⟩
    have dynamic' : ∃ dynamic?, FieldIs (fun t b => t = .boolean b) ["dynamic", "is_dynamic_field"]
        members dynamic? ∧ dynamic?.getD false = w.dynamic := by
      rcases dynamic with ⟨missing, unmarked⟩ | one
      · exact ⟨none, .absent missing, unmarked.symm⟩
      · exact ⟨some w.dynamic, .given one rfl, rfl⟩
    obtain ⟨values?, values, sameValues⟩ := values'
    obtain ⟨dynamic?, dynamic, sameDynamic⟩ := dynamic'
    exact ⟨⟨some w.field, some w.operator, values?, dynamic?⟩,
      ⟨field', operator', values, dynamic, others⟩, rfl, rfl, sameValues, sameDynamic⟩

/-! ## Documents -/

/-- A list is read as a clause if its items are those of the clause. -/
theorem ofItems_eq_ok_iff {items : List Tree} {ending : Json.ListEnd} {w : WireClause} :
    ofItems items ending = .ok w ↔ w.StandsAs (.list items ending) := by
  constructor
  · intro h
    unfold ofItems at h
    split at h
    case h_1 => exact absurd h (Tree.tooShort_ne_ok ending 0 listShape w)
    case h_2 field rest =>
      obtain ⟨key, own, h⟩ := bind_eq_ok_iff.mp h
      obtain ⟨s, rfl, rfl⟩ := ofTree_eq_ok_iff.mp own
      split at h
      case h_1 => exact absurd h (Tree.tooShort_ne_ok ending 1 listShape w)
      case h_2 operator rest =>
        obtain ⟨code, own, h⟩ := bind_eq_ok_iff.mp h
        rw [Tree.asText_eq_ok_iff.mp own]
        split at h
        case h_1 =>
          obtain ⟨u, closes, same⟩ := bind_eq_ok_iff.mp h
          rw [Tree.fault?_listEnd_eq_none_iff.mp (Tree.raise?_eq_ok_iff.mp closes),
            ← Except.ok.inj same]
          exact .two s code
        case h_2 values rest =>
          obtain ⟨list, ownValues, h⟩ := bind_eq_ok_iff.mp h
          have stand := readValues_eq_ok_iff.mp ownValues
          split at h
          case h_1 =>
            obtain ⟨u, closes, same⟩ := bind_eq_ok_iff.mp h
            rw [Tree.fault?_listEnd_eq_none_iff.mp (Tree.raise?_eq_ok_iff.mp closes),
              ← Except.ok.inj same]
            exact .three s code stand
          case h_2 dynamic rest =>
            obtain ⟨mark, ownMark, h⟩ := bind_eq_ok_iff.mp h
            obtain ⟨u, ends, same⟩ := bind_eq_ok_iff.mp h
            obtain ⟨rfl, rfl⟩ := Tree.endOfItems_eq_ok_iff.mp ends
            rw [Tree.asBoolean_eq_ok_iff.mp ownMark, ← Except.ok.inj same]
            exact .four s code stand mark
  · intro h
    cases h with
    | two s operator => rfl
    | three s operator own =>
      show (readValues _ >>= _) = _
      rw [readValues_eq_ok_iff.mpr own]
      rfl
    | four s operator own dynamic =>
      show (readValues _ >>= _) = _
      rw [readValues_eq_ok_iff.mpr own]
      rfl

/-- The reader of a clause accepts the documents that stand for one. -/
theorem read_eq_ok_iff {t : Tree} {w : WireClause} : read t = .ok w ↔ w.StandsAs t := by
  unfold read
  split
  case h_1 members ending =>
    refine Json.readObject_eq_ok_iff.trans ⟨?_, fun h => ?_⟩
    · rintro ⟨rfl, plain, d, rfl, folded⟩
      exact .object (exists_draft_iff.mp ⟨d, folded⟩)
    · cases h with
      | object own =>
        obtain ⟨d, folded⟩ := exists_draft_iff.mpr own
        exact ⟨rfl, _, d, rfl, folded⟩
  case h_2 items ending => exact ofItems_eq_ok_iff
  case h_3 noObject noList =>
    refine iff_of_false (Tree.mismatch_ne_ok t _ w) fun h => ?_
    cases h with
    | object own => exact noObject _ _ rfl
    | _ => exact noList _ _ rfl

end WireClause

end Worklist
