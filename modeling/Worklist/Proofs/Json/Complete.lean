import Mathlib.Data.List.Forall2
import Worklist.Json.Reader
import Worklist.Proofs.Json.Spelling

/-!
# Complete documents

A document in which nothing breaks off consists of tokens, one after the other. Wherever a value may
stand, reading its tokens puts it there and goes on behind it, so a text in which the tokens of a
document are laid out is read as that document.
-/

set_option autoImplicit false

namespace Worklist.Json

/-! ## Tokens of a document -/

namespace Tree

mutual

/-- Whether nothing breaks off in a document. -/
def isComplete : Tree → Bool
  | .list items ending => ending matches .closed && itemsComplete items
  | .object members ending => ending matches .closed && membersComplete members
  | .broken _ _ => false
  | _ => true

/-- Whether nothing breaks off in the items of a list. -/
def itemsComplete : List Tree → Bool
  | [] => true
  | t :: rest => t.isComplete && itemsComplete rest

/-- Whether nothing breaks off in the members of an object, and every key has a value. -/
def membersComplete : List (MemberKey × Tree) → Bool
  | [] => true
  | (_, t) :: rest => t.isComplete && membersComplete rest

end

mutual

/-- The tokens of a complete document. -/
def tokens : Tree → List Token
  | .null => [.null]
  | .boolean b => [.boolean b]
  | .number value => [.number value]
  | .text value => [.text value]
  | .list [] _ => [.openList, .closeList]
  | .list (t :: rest) _ => .openList :: (t.tokens ++ (furtherItems rest ++ [.closeList]))
  | .object [] _ => [.openObject, .closeObject]
  | .object ((key, t) :: rest) _ =>
    .openObject :: .text key :: .colon :: (t.tokens ++ (furtherMembers rest ++ [.closeObject]))
  | .broken _ _ => []

/-- The tokens of the items that follow the first one. -/
def furtherItems : List Tree → List Token
  | [] => []
  | t :: rest => .comma :: (t.tokens ++ furtherItems rest)

/-- The tokens of the members that follow the first one. -/
def furtherMembers : List (MemberKey × Tree) → List Token
  | [] => []
  | (key, t) :: rest => .comma :: .text key :: .colon :: (t.tokens ++ furtherMembers rest)

end

/-- Documents that are complete one by one are complete together. -/
theorem itemsComplete_of_forall₂ {α : Type} {r : α → Tree → Prop}
    (each : ∀ a t, r a t → t.isComplete = true) {as : List α} {items : List Tree}
    (h : List.Forall₂ r as items) : itemsComplete items = true := by
  induction h with
  | nil => rfl
  | cons head _ ih =>
    rw [itemsComplete, each _ _ head, ih]
    rfl

/-- The members of an object are complete if each of their documents is. -/
theorem membersComplete_iff (members : List (MemberKey × Tree)) :
    membersComplete members = true ↔ ∀ m ∈ members, m.2.isComplete = true := by
  induction members with
  | nil => simp [membersComplete]
  | cons m rest ih => simp [membersComplete, ih]

end Tree

/-! ## Reading -/

/-- The document after a complete value. -/
def settled (t : Tree) (frames : List Frame) (rest : List Token) : Document :=
  match settleValue t frames with
  | .inl t => ⟨t, !rest.isEmpty⟩
  | .inr frames => grow .afterValue frames rest

/-- Whether a value may come next. -/
inductive Awaits : Place → List Frame → Prop where
  | value (frames : List Frame) : Awaits .value frames
  | firstItem (items : List Tree) (frames : List Frame) : Awaits .firstItem (.list items :: frames)
  | nextItem (items : List Tree) (frames : List Frame) : Awaits .nextItem (.list items :: frames)

/-- Where a value is awaited, a token that is one by itself is settled at once. -/
theorem grow_leaf {place : Place} {frames : List Frame} {token : Token} {t : Tree}
    (awaits : Awaits place frames) (leaf : token.leaf? = some t) (rest : List Token) :
    grow place frames (token :: rest) = settled t frames rest := by
  cases awaits <;> cases token <;> cases leaf <;> rfl

/-- Where a value is awaited, an opening bracket begins a list. -/
theorem grow_openList {place : Place} {frames : List Frame} (awaits : Awaits place frames)
    (rest : List Token) :
    grow place frames (.openList :: rest) = grow .firstItem (.list [] :: frames) rest := by
  cases awaits <;> rfl

/-- Where a value is awaited, an opening brace begins an object. -/
theorem grow_openObject {place : Place} {frames : List Frame} (awaits : Awaits place frames)
    (rest : List Token) :
    grow place frames (.openObject :: rest) = grow .firstKey (.object [] :: frames) rest := by
  cases awaits <;> rfl

open Worklist.Json.Tree

-- By recursion on the document. What is open around a value is the same before and behind it, so
-- the frames and the rest are arbitrary in each statement.
mutual

/-- Where a value may stand, the tokens of a complete document are read as that document. -/
theorem grow_tokens (t : Tree) (complete : t.isComplete = true) {place : Place}
    {frames : List Frame} (awaits : Awaits place frames) (rest : List Token) :
    grow place frames (t.tokens ++ rest) = settled t frames rest := by
  cases t with
  | null | boolean | number | text => exact grow_leaf awaits rfl rest
  | list items ending =>
    simp only [isComplete, Bool.and_eq_true] at complete
    obtain ⟨closes, whole⟩ := complete
    cases ending <;> try cases closes
    cases items with
    | nil =>
      rw [Tree.tokens, List.cons_append, grow_openList awaits]
      rfl
    | cons t items =>
      simp only [itemsComplete, Bool.and_eq_true] at whole
      rw [Tree.tokens, List.cons_append, grow_openList awaits, List.append_assoc, List.append_assoc,
        grow_tokens t whole.1 (.firstItem [] frames)]
      exact grow_furtherItems items whole.2 [t] frames rest
  | object members ending =>
    simp only [isComplete, Bool.and_eq_true] at complete
    obtain ⟨closes, whole⟩ := complete
    cases ending <;> try cases closes
    cases members with
    | nil =>
      rw [Tree.tokens, List.cons_append, grow_openObject awaits]
      rfl
    | cons m members =>
      obtain ⟨key, t⟩ := m
      simp only [membersComplete, Bool.and_eq_true] at whole
      rw [Tree.tokens, List.cons_append, grow_openObject awaits, List.cons_append,
        List.cons_append, List.append_assoc, List.append_assoc]
      show grow .value (.member [] key :: frames) _ = _
      rw [grow_tokens t whole.1 (.value _)]
      exact grow_furtherMembers members whole.2 [(key, t)] frames rest
  | broken => cases complete

/-- The further items of a list are read behind those that are done. -/
theorem grow_furtherItems (items : List Tree) (complete : itemsComplete items = true)
    (done : List Tree) (frames : List Frame) (rest : List Token) :
    grow .afterValue (.list done :: frames) (furtherItems items ++ ([.closeList] ++ rest)) =
      settled (.list (done.reverse ++ items) .closed) frames rest := by
  cases items with
  | nil =>
    rw [List.append_nil]
    rfl
  | cons t items =>
    simp only [itemsComplete, Bool.and_eq_true] at complete
    rw [furtherItems, List.cons_append, List.append_assoc]
    show grow .nextItem (.list done :: frames) _ = _
    rw [grow_tokens t complete.1 (.nextItem done frames)]
    have onward := grow_furtherItems items complete.2 (t :: done) frames rest
    rw [List.reverse_cons, List.append_assoc] at onward
    exact onward

/-- The further members of an object are read behind those that are done. -/
theorem grow_furtherMembers (members : List (MemberKey × Tree))
    (complete : membersComplete members = true) (done : List (MemberKey × Tree))
    (frames : List Frame) (rest : List Token) :
    grow .afterValue (.object done :: frames)
        (furtherMembers members ++ ([.closeObject] ++ rest)) =
      settled (.object (done.reverse ++ members) .closed) frames rest := by
  cases members with
  | nil =>
    rw [List.append_nil]
    rfl
  | cons m members =>
    obtain ⟨key, t⟩ := m
    simp only [membersComplete, Bool.and_eq_true] at complete
    rw [furtherMembers, List.cons_append, List.cons_append, List.cons_append, List.append_assoc]
    show grow .value (.member done key :: frames) _ = _
    rw [grow_tokens t complete.1 (.value _)]
    have onward := grow_furtherMembers members complete.2 ((key, t) :: done) frames rest
    rw [List.reverse_cons, List.append_assoc] at onward
    exact onward

end

/-! ## Laying out -/

/-- Whether tokens may stand behind a value. -/
structure Trails (rest : List Token) : Prop where
  follows : ∀ t ∈ rest.head?, t.followsValue = true
  chain : rest.IsChain Token.MayPrecede

/-- The end of a text may follow a value. -/
theorem trails_nil : Trails [] :=
  ⟨fun _ none => absurd none (by simp), .nil⟩

/-- A token that is no number may stand before any tokens. -/
theorem isChain_cons_of_not_number {t : Token} {rest : List Token} (h : t.isNumber = false)
    (chain : rest.IsChain Token.MayPrecede) : (t :: rest).IsChain Token.MayPrecede :=
  List.isChain_cons.mpr ⟨fun _ _ number => absurd number (by simp [h]), chain⟩

/-- A key with its colon may stand before any value. -/
theorem isChain_member (key : MemberKey) {value : List Token}
    (chain : value.IsChain Token.MayPrecede) :
    (.text key :: .colon :: value).IsChain Token.MayPrecede :=
  isChain_cons_of_not_number rfl (isChain_cons_of_not_number rfl chain)

/-- Tokens may follow a value if their first one may. -/
theorem trails_cons {t : Token} {rest : List Token} (follows : t.followsValue = true)
    (chain : rest.IsChain Token.MayPrecede) : Trails (t :: rest) := by
  have noNumber : t.isNumber = false := by
    cases t <;> cases follows <;> rfl
  exact ⟨fun u first => Option.some.inj first ▸ follows, isChain_cons_of_not_number noNumber chain⟩

-- From the end of a text to its start: what stands behind a value is known to fit when the value is
-- put in front of it.
mutual

/-- The tokens of a value may stand in front of what may stand behind a value. -/
theorem isChain_tokens (t : Tree) {rest : List Token} (trails : Trails rest) :
    (t.tokens ++ rest).IsChain Token.MayPrecede := by
  cases t with
  | number => exact List.isChain_cons.mpr ⟨fun u first _ => trails.follows u first, trails.chain⟩
  | null | boolean | text => exact isChain_cons_of_not_number rfl trails.chain
  | list items ending =>
    have closed : Trails ([.closeList] ++ rest) := trails_cons rfl trails.chain
    cases items with
    | nil => exact isChain_cons_of_not_number rfl closed.chain
    | cons t items =>
      rw [Tree.tokens, List.cons_append, List.append_assoc, List.append_assoc]
      exact isChain_cons_of_not_number rfl (isChain_tokens t (trails_furtherItems items closed))
  | object members ending =>
    have closed : Trails ([.closeObject] ++ rest) := trails_cons rfl trails.chain
    cases members with
    | nil => exact isChain_cons_of_not_number rfl closed.chain
    | cons m members =>
      obtain ⟨key, t⟩ := m
      have value := isChain_tokens t (trails_furtherMembers members closed)
      rw [Tree.tokens, List.cons_append, List.cons_append, List.cons_append, List.append_assoc,
        List.append_assoc]
      exact isChain_cons_of_not_number rfl (isChain_member key value)
  | broken => exact trails.chain

/-- Further items may stand behind a value. -/
theorem trails_furtherItems (items : List Tree) {rest : List Token} (trails : Trails rest) :
    Trails (furtherItems items ++ rest) := by
  cases items with
  | nil => exact trails
  | cons t items =>
    rw [furtherItems, List.cons_append, List.append_assoc]
    exact trails_cons rfl (isChain_tokens t (trails_furtherItems items trails))

/-- Further members may stand behind a value. -/
theorem trails_furtherMembers (members : List (MemberKey × Tree)) {rest : List Token}
    (trails : Trails rest) : Trails (furtherMembers members ++ rest) := by
  cases members with
  | nil => exact trails
  | cons m members =>
    obtain ⟨key, t⟩ := m
    have value := isChain_tokens t (trails_furtherMembers members trails)
    rw [furtherMembers, List.cons_append, List.cons_append, List.cons_append, List.append_assoc]
    exact trails_cons rfl (isChain_member key value)

end

/-- A text in which the tokens of a complete document are laid out is read as that document. -/
theorem Document.read_laid {s : String} {t : Tree} (complete : t.isComplete = true)
    (laid : Laid s.toList t.tokens) : Document.read s = ⟨t, false⟩ := by
  have chain := isChain_tokens t trails_nil
  have whole := grow_tokens t complete (.value []) []
  rw [List.append_nil] at chain whole
  unfold Document.read
  rw [tokens_laid laid chain, whole]
  rfl

/-- Nothing follows a complete document, so what is read from its text is what its tree says. -/
theorem readDocument_laid {α : Type} (read : Tree → Except Fault α) {s : String} {t : Tree}
    (complete : t.isComplete = true) (laid : Laid s.toList t.tokens) :
    readDocument read s = read t := by
  unfold readDocument
  rw [Document.read_laid complete laid]
  dsimp only
  cases read t <;> rfl

/-- The text of a tree, without blanks. -/
def Tree.write (t : Tree) : String :=
  String.ofList (t.tokens.flatMap Token.write)

/-- The text of a tree is read as the tree. -/
theorem Document.read_write {t : Tree} (complete : t.isComplete = true)
    (writable : ∀ token ∈ t.tokens, token.isWritable = true) :
    Document.read t.write = ⟨t, false⟩ := by
  refine Document.read_laid complete ?_
  rw [Tree.write, String.toList_ofList]
  exact laid_write writable

end Worklist.Json
