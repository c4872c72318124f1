import Mathlib.Tactic.SplitIfs
import Worklist.Json.Reader
import Worklist.Proofs.Steps

/-!
# What readers accept

When a reader has a value for a document, said of the document: it is a text, a truth value, a
closed list whose items are read, or a closed object with texts for keys. An object is read member
by member. A field of what is read takes the value of the one member that is called by its name; two
such members are refused.
-/

set_option autoImplicit false

namespace Worklist.Json

namespace Tree

/-- Raising a fault succeeds if there is none. -/
theorem raise?_eq_ok_iff {fault? : Option Fault} {u : Unit} :
    raise? fault? = .ok u ↔ fault? = none := by
  cases fault? with
  | none => exact iff_of_true rfl rfl
  | some f => exact iff_of_false (by rintro ⟨⟩) (by rintro ⟨⟩)

/-- A mismatch is never a success. -/
theorem mismatch_ne_ok {α : Type} (t : Tree) (expected : String) (a : α) :
    t.mismatch expected ≠ .ok a := by
  unfold mismatch
  split <;> rintro ⟨⟩

/-- Skipping a document before going on succeeds if the document has no fault to be skipped over. -/
theorem skip_bind_eq_ok_iff {δ : Type} {t : Tree} {d d' : δ} :
    (do
      t.skip
      pure d) = .ok d' ↔ t.skippedFault? = none ∧ d' = d := by
  unfold skip
  rw [bind_eq_ok_iff]
  simp only [raise?_eq_ok_iff, exists_const]
  refine and_congr_right fun _ => ⟨fun h => (Except.ok.inj h).symm, ?_⟩
  rintro rfl
  rfl

/-- Keeping a document succeeds with that document if it has no fault within its room. -/
theorem keep_eq_ok_iff {room : Nat} {t t' : Tree} :
    t.keep room = .ok t' ↔ t.keptFault? room = none ∧ t' = t := by
  unfold keep
  rw [bind_eq_ok_iff]
  constructor
  · rintro ⟨u, raised, same⟩
    exact ⟨raise?_eq_ok_iff.mp raised, (Except.ok.inj same).symm⟩
  · rintro ⟨free, rfl⟩
    exact ⟨(), raise?_eq_ok_iff.mpr free, rfl⟩

/-- Keeping a document before going on succeeds if the document has no fault within its room. -/
theorem keep_bind_eq_ok_iff {δ : Type} {room : Nat} {t : Tree} {d d' : δ} :
    (do
      let _ ← t.keep room
      pure d) = .ok d' ↔ t.keptFault? room = none ∧ d' = d := by
  rw [bind_eq_ok_iff]
  simp only [keep_eq_ok_iff]
  constructor
  · rintro ⟨kept, ⟨free, -⟩, same⟩
    exact ⟨free, (Except.ok.inj same).symm⟩
  · rintro ⟨free, rfl⟩
    exact ⟨t, ⟨free, rfl⟩, rfl⟩

/-- A text is read from the document that is this text only. -/
theorem asText_eq_ok_iff {t : Tree} {s : String} : t.asText = .ok s ↔ t = .text (.ok s) := by
  unfold asText
  split
  case h_1 value => simp
  case h_2 other => exact iff_of_false (mismatch_ne_ok t _ s) (other _)

/-- A truth value is read from the document that is this truth value only. -/
theorem asBoolean_eq_ok_iff {t : Tree} {b : Bool} : t.asBoolean = .ok b ↔ t = .boolean b := by
  unfold asBoolean
  split
  case h_1 own => simp
  case h_2 other => exact iff_of_false (mismatch_ne_ok t _ b) (other _)

/-- A list has no fault at its end if it is closed. -/
theorem fault?_listEnd_eq_none_iff {ending : ListEnd} :
    ending.fault? = none ↔ ending = .closed := by
  cases ending <;> simp [ListEnd.fault?]

/-- A list has no fault after its last item if it is closed. -/
theorem faultAfterLast?_eq_none_iff {ending : ListEnd} :
    ending.faultAfterLast? = none ↔ ending = .closed := by
  cases ending <;> simp [ListEnd.faultAfterLast?]

/-- An object has no fault at its end if it is closed. -/
theorem fault?_objectEnd_eq_none_iff {ending : ObjectEnd} :
    ending.fault? = none ↔ ending = .closed := by
  cases ending <;> simp [ObjectEnd.fault?]

/-- A list of values is read from a closed list whose items are read as these values. -/
theorem asList_eq_ok_iff {α : Type} {read : Tree → Except Fault α} {t : Tree} {values : List α} :
    t.asList read = .ok values ↔
      ∃ items, t = .list items .closed ∧ List.Forall₂ (fun t v => read t = .ok v) items values := by
  unfold asList
  split
  case h_1 items ending =>
    show (items.mapM read >>= fun values => raise? ending.fault? >>= fun _ => pure values) = _ ↔ _
    rw [bind_eq_ok_iff]
    constructor
    · rintro ⟨own, each, h⟩
      obtain ⟨u, closes, same⟩ := bind_eq_ok_iff.mp h
      rw [raise?_eq_ok_iff, fault?_listEnd_eq_none_iff] at closes
      rw [closes, ← Except.ok.inj same]
      exact ⟨items, rfl, mapM_eq_ok_iff.mp each⟩
    · rintro ⟨own, same, each⟩
      cases same
      exact ⟨values, mapM_eq_ok_iff.mpr each, rfl⟩
  case h_2 other =>
    exact iff_of_false (mismatch_ne_ok t _ values) fun ⟨items, same, _⟩ => other _ _ same

/-- A name is read from a text, or from the only key of an object, if it is one of those known. -/
theorem asVariant_eq_ok_iff {α : Type} {known : List String} {ofName? : String → Option α}
    {t : Tree} {a : α} : t.asVariant known ofName? = .ok a ↔
      ∃ s, ofName? s = some a ∧ (t = .text (.ok s) ∨ t = .object [(.ok s, .null)] .closed) := by
  unfold Tree.asVariant
  constructor
  · intro h
    dsimp only at h
    split at h
    case h_1 value =>
      obtain ⟨s, rfl, own⟩ := bind_eq_ok_iff.mp h
      split at own
      · cases own
        exact ⟨s, ‹_›, .inl rfl⟩
      · cases own
    case h_3 key value rest ending =>
      rw [bind_eq_ok_iff] at h
      obtain ⟨s, rfl, h⟩ := h
      rw [bind_eq_ok_iff] at h
      obtain ⟨variant, own, h⟩ := h
      split at h
      case h_1 =>
        split at own
        · cases own
          split at h
          · cases h
            exact ⟨s, ‹_›, .inr rfl⟩
          · cases h
          · cases h
        · cases own
      case h_2 =>
        obtain ⟨u, empty, -⟩ := bind_eq_ok_iff.mp h
        exact absurd empty (Tree.mismatch_ne_ok value "unit" u)
    all_goals cases h
  · rintro ⟨s, own, rfl | rfl⟩
    · dsimp only
      rw [bind_eq_ok_iff]
      exact ⟨s, rfl, by rw [own]⟩
    · dsimp only
      rw [bind_eq_ok_iff]
      exact ⟨s, rfl, bind_eq_ok_iff.mpr ⟨a, by rw [own], rfl⟩⟩

/-- A list that is too short is never a success. -/
theorem tooShort_ne_ok {α : Type} (ending : ListEnd) (length : Nat) (expected : String) (a : α) :
    tooShort ending length expected ≠ .ok a := by
  unfold tooShort
  split <;> rintro ⟨⟩

/-- Items come to their end if none is left and the list is closed. -/
theorem endOfItems_eq_ok_iff {beyond : List Tree} {ending : ListEnd} {u : Unit} :
    endOfItems beyond ending = .ok u ↔ beyond = [] ∧ ending = .closed := by
  unfold endOfItems
  cases beyond with
  | nil =>
    rw [if_pos List.isEmpty_nil, raise?_eq_ok_iff, faultAfterLast?_eq_none_iff]
    exact (and_iff_right rfl).symm
  | cons t rest => exact iff_of_false (by rintro ⟨⟩) (by rintro ⟨⟨⟩, -⟩)

end Tree

/-- A text has a value for a reader if it is one document, with nothing behind it, that has. -/
theorem readDocument_eq_ok_iff {α : Type} {read : Tree → Except Fault α} {s : String} {a : α} :
    readDocument read s = .ok a ↔ ∃ t, Document.read s = ⟨t, false⟩ ∧ read t = .ok a := by
  unfold readDocument
  dsimp only
  obtain ⟨t, followed⟩ := Document.read s
  rw [bind_eq_ok_iff]
  cases followed with
  | true =>
    constructor
    · rintro ⟨value, -, ⟨⟩⟩
    · rintro ⟨t', ⟨⟩, -⟩
  | false =>
    constructor
    · rintro ⟨value, own, same⟩
      exact ⟨t, rfl, Except.ok.inj same ▸ own⟩
    · rintro ⟨t', same, own⟩
      cases same
      exact ⟨a, own, rfl⟩

/-! ## Members -/

/-- Members whose keys are texts. -/
def keyed (members : List (String × Tree)) : List (MemberKey × Tree) :=
  members.map fun m => (.ok m.1, m.2)

/-- The values of the members that are called by one of some names, in order. -/
def givenAs (names : List String) (members : List (String × Tree)) : List Tree :=
  (members.filter fun m => names.contains m.1).map Prod.snd

/-- A member with one of the names is given first. -/
theorem givenAs_cons_of_mem {names : List String} {key : String} (h : key ∈ names) (t : Tree)
    (members : List (String × Tree)) :
    givenAs names ((key, t) :: members) = t :: givenAs names members := by
  simp [givenAs, h]

/-- A member with another name is not among those given. -/
theorem givenAs_cons_of_not_mem {names : List String} {key : String} (h : key ∉ names) (t : Tree)
    (members : List (String × Tree)) :
    givenAs names ((key, t) :: members) = givenAs names members := by
  simp [givenAs, h]

/-- What members are read step by step as: every key is a text, and each step has an outcome. -/
theorem foldlM_members_eq_ok_iff {δ : Type} {take : δ → String → Tree → Except Fault δ}
    {members : List (MemberKey × Tree)} {d d' : δ} :
    members.foldlM (fun d (m : MemberKey × Tree) => do take d (← m.1) m.2) d = .ok d' ↔
      ∃ plain, members = keyed plain ∧
        plain.foldlM (fun d (m : String × Tree) => take d m.1 m.2) d = .ok d' := by
  induction members generalizing d with
  | nil =>
    constructor
    · intro h
      exact ⟨[], rfl, h⟩
    · rintro ⟨plain, same, h⟩
      rw [keyed, eq_comm, List.map_eq_nil_iff] at same
      rwa [same] at h
  | cons m members ih =>
    obtain ⟨key, t⟩ := m
    rw [List.foldlM_cons, bind_eq_ok_iff]
    constructor
    · rintro ⟨next, first, rest⟩
      obtain ⟨name, rfl, taken⟩ := bind_eq_ok_iff.mp first
      obtain ⟨plain, rfl, onward⟩ := ih.mp rest
      refine ⟨(name, t) :: plain, rfl, ?_⟩
      rw [List.foldlM_cons]
      exact bind_eq_ok_iff.mpr ⟨next, taken, onward⟩
    · rintro ⟨plain, same, h⟩
      cases plain with
      | nil => cases same
      | cons n plain =>
        obtain ⟨head, tail⟩ := List.cons.inj same
        cases head
        obtain ⟨next, taken, onward⟩ := bind_eq_ok_iff.mp h
        exact ⟨next, taken, ih.mpr ⟨plain, tail, onward⟩⟩

/-- An object is read as what its members are read as if it is closed. -/
theorem readObject_eq_ok_iff {α δ : Type} {take : δ → String → Tree → Except Fault δ} {start : δ}
    {finish : δ → Except Fault α} {members : List (MemberKey × Tree)} {ending : ObjectEnd} {a : α} :
    (do
      let d ← members.foldlM (fun d (m : MemberKey × Tree) => do take d (← m.1) m.2) start
      Tree.raise? ending.fault?
      finish d) = .ok a ↔
      ending = .closed ∧ ∃ plain d, members = keyed plain ∧
        plain.foldlM (fun d (m : String × Tree) => take d m.1 m.2) start = .ok d ∧
        finish d = .ok a := by
  rw [bind_eq_ok_iff]
  constructor
  · rintro ⟨d, folded, h⟩
    obtain ⟨u, closes, own⟩ := bind_eq_ok_iff.mp h
    obtain ⟨plain, same, taken⟩ := foldlM_members_eq_ok_iff.mp folded
    exact ⟨Tree.fault?_objectEnd_eq_none_iff.mp (Tree.raise?_eq_ok_iff.mp closes), plain, d, same,
      taken, own⟩
  · rintro ⟨rfl, plain, d, same, taken, own⟩
    exact ⟨d, foldlM_members_eq_ok_iff.mpr ⟨plain, same, taken⟩, own⟩

/-! ## Fields -/

section Fields

variable {α : Type} (stands : Tree → α → Prop) (names : List String)

/-- Whether a member takes a field that is called by one of some names from one value to another.
The field is empty before a member that is called so, and has the member's value after it. -/
def Sets (m : String × Tree) (slot next : Option α) : Prop :=
  if m.1 ∈ names then slot = none ∧ ∃ value, stands m.2 value ∧ next = some value
  else next = slot

/-- Whether members one after the other take a field from one value to another. -/
def Fills : List (String × Tree) → Option α → Option α → Prop
  | [], slot, filled => filled = slot
  | m :: members, slot, filled =>
    ∃ next, Sets stands names m slot next ∧ Fills members next filled

/-- The value of a field in an object: that of the only member that is called so, or none. -/
inductive FieldIs (members : List (String × Tree)) : Option α → Prop where
  | absent (missing : givenAs names members = []) : FieldIs members none
  | given {t : Tree} {value : α} (one : givenAs names members = [t]) (own : stands t value) :
      FieldIs members (some value)

variable {stands names}

/-- A member with another name leaves a slot as it is. -/
theorem sets_of_not_mem {m : String × Tree} {slot next : Option α} (other : m.1 ∉ names) :
    Sets stands names m slot next ↔ next = slot := by
  unfold Sets
  rw [if_neg other]

/-- Taking up a member that is called by a name of a field sets the field. -/
theorem takeField_bind_eq_ok_iff {δ : Type} {read : Tree → Except Fault α} {name : String}
    {m : String × Tree} {slot : Option α} {set : Option α → δ} {d : δ} (named : m.1 ∈ names) :
    (do
      let value ← takeField name slot read m.2
      pure (set value)) = .ok d ↔
      ∃ next, Sets (fun t value => read t = .ok value) names m slot next ∧ d = set next := by
  unfold takeField Sets
  simp only [bind_eq_ok_iff, if_pos named]
  refine exists_congr fun next => and_congr ?taken ⟨fun h => (Except.ok.inj h).symm, ?set⟩
  case taken =>
    cases slot with
    | some value => exact iff_of_false (by rintro ⟨⟩) (by rintro ⟨⟨⟩, -⟩)
    | none =>
      show (read m.2 >>= fun value => pure (some value)) = _ ↔ _
      rw [bind_eq_ok_iff]
      constructor
      · rintro ⟨value, own, same⟩
        exact ⟨rfl, value, own, (Except.ok.inj same).symm⟩
      · rintro ⟨-, value, own, rfl⟩
        exact ⟨value, own, rfl⟩
  case set => exact fun h => congrArg Except.ok h.symm

/-- A field that has its value keeps it, and no further member is called so. -/
theorem fills_some_iff {members : List (String × Tree)} {value : α} {filled : Option α} :
    Fills stands names members (some value) filled ↔
      givenAs names members = [] ∧ filled = some value := by
  induction members with
  | nil => exact ⟨fun same => ⟨rfl, same⟩, And.right⟩
  | cons m members ih =>
    unfold Fills Sets
    split_ifs with named
    · rw [givenAs_cons_of_mem named]
      exact iff_of_false (by rintro ⟨next, ⟨⟨⟩, -⟩, -⟩) (by rintro ⟨⟨⟩, -⟩)
    · rw [exists_eq_left, ih, givenAs_cons_of_not_mem named]

/-- An empty field is filled with its value in the object. -/
theorem fills_none_iff {members : List (String × Tree)} {filled : Option α} :
    Fills stands names members none filled ↔ FieldIs stands names members filled := by
  induction members with
  | nil =>
    constructor
    · rintro rfl
      exact .absent rfl
    · rintro (missing | ⟨⟨⟩, own⟩)
      rfl
  | cons m members ih =>
    unfold Fills Sets
    split_ifs with named
    · have first := givenAs_cons_of_mem named m.2 members
      constructor
      · rintro ⟨next, ⟨-, value, own, rfl⟩, rest⟩
        obtain ⟨missing, rfl⟩ := fills_some_iff.mp rest
        exact .given (missing ▸ first) own
      · rintro (missing | ⟨one, own⟩)
        · cases first.symm.trans missing
        · obtain ⟨same, missing⟩ := List.cons.inj (first.symm.trans one)
          rw [← same] at own
          exact ⟨_, ⟨rfl, _, own, rfl⟩, fills_some_iff.mpr ⟨missing, rfl⟩⟩
    · have same := givenAs_cons_of_not_mem named m.2 members
      rw [exists_eq_left, ih]
      constructor
      · rintro (missing | ⟨one, own⟩)
        · exact .absent (same.trans missing)
        · exact .given (same.trans one) own
      · rintro (missing | ⟨one, own⟩)
        · exact .absent (same.symm.trans missing)
        · exact .given (same.symm.trans one) own

end Fields

end Worklist.Json
