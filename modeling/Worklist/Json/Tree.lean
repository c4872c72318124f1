import Worklist.Json.Token

/-!
# Documents that may break off

The tree of a JSON text as far as it can be read from the left. Where the form of the text is wrong
the tree breaks off: the value at that place, or the end of the list or object around it, records
what is wrong, and everything outside of it is `cut`. So one tree answers for every reader: a reader
that meets a wrong type in front of the break never sees the break.
-/

set_option autoImplicit false

namespace Worklist.Json

/-- How a list ends. -/
inductive ListEnd where
  | closed
  /-- The text ends after an item, or after the bracket. -/
  | missing
  /-- The bracket follows a comma. -/
  | afterComma
  /-- The text ends after a comma. -/
  | missingAfterComma
  /-- Something other than a comma or the bracket follows an item. -/
  | unexpected
  /-- The last item breaks off; the fault is the one that a skipping reader blames. -/
  | cut (skipped : Fault)
  deriving DecidableEq

/-- The fault in how a list ends, for a reader that keeps the list. -/
def ListEnd.fault? : ListEnd → Option Fault
  | .closed => none
  | .missing => some .endInList
  | .afterComma => some .trailingComma
  | .missingAfterComma => some .endInValue
  | .unexpected => some .expectedCommaOrBracket
  | .cut skipped => some skipped

/-- The fault in how a list ends, for a reader that has read all the items it wants. -/
def ListEnd.faultAfterLast? : ListEnd → Option Fault
  | .closed => none
  | .missing => some .endInList
  | .afterComma => some .trailingComma
  | .missingAfterComma => some .trailingCharacters
  | .unexpected => some .trailingCharacters
  | .cut skipped => some skipped

/-- The fault in how a list ends, for a reader that skips the list. -/
def ListEnd.skippedFault? : ListEnd → Option Fault
  | .closed => none
  | .missing => some .endInList
  | .afterComma => some .expectedValue
  | .missingAfterComma => some .endInValue
  | .unexpected => some .expectedCommaOrBracket
  | .cut skipped => some skipped

/-- How an object ends. -/
inductive ObjectEnd where
  | closed
  | missing
  | afterComma
  | missingAfterComma
  | unexpected
  /-- A value other than a text stands in place of a key. -/
  | wrongKey
  /-- A key breaks off. -/
  | brokenKey (flaw : Flaw)
  | cut (skipped : Fault)

/-- The fault in how an object ends, for a reader that keeps the object. -/
def ObjectEnd.fault? : ObjectEnd → Option Fault
  | .closed => none
  | .missing => some .endInObject
  | .afterComma => some .trailingComma
  | .missingAfterComma => some .endInValue
  | .unexpected => some .expectedCommaOrBrace
  | .wrongKey => some .keyMustBeText
  | .brokenKey flaw => some flaw.kept
  | .cut skipped => some skipped

/-- The fault in how an object ends, for a reader that skips the object. -/
def ObjectEnd.skippedFault? : ObjectEnd → Option Fault
  | .closed => none
  | .missing => some .endInObject
  | .afterComma => some .keyMustBeText
  | .missingAfterComma => some .endInObject
  | .unexpected => some .expectedCommaOrBrace
  | .wrongKey => some .keyMustBeText
  | .brokenKey flaw => some flaw.skipped
  | .cut skipped => some skipped

/-- The key of a member, or the fault of its text for a reader that keeps it. -/
abbrev MemberKey := Except Fault String

/-- A JSON document, as far as it can be read. -/
inductive Tree where
  | null
  | boolean (b : Bool)
  | number (value : Except Fault Numeric)
  | text (value : Except Fault String)
  | list (items : List Tree) (ending : ListEnd)
  | object (members : List (MemberKey × Tree)) (ending : ObjectEnd)
  /-- No complete value stands where one must stand. -/
  | broken (start : Break) (flaw : Flaw)

instance : Inhabited Tree := ⟨.null⟩

/-- A list or an object that is open, with what it holds so far, the last one first. -/
inductive Frame where
  | list (items : List Tree)
  | object (members : List (MemberKey × Tree))
  /-- An object whose key waits for its value. -/
  | member (members : List (MemberKey × Tree)) (key : MemberKey)

/-- The document around a tree that breaks off: every open list and object is cut. -/
def unwind (skipped : Fault) (t : Tree) : List Frame → Tree
  | [] => t
  | .list items :: frames => unwind skipped (.list (t :: items).reverse (.cut skipped)) frames
  | .object members :: frames => unwind skipped (.object members.reverse (.cut skipped)) frames
  | .member members key :: frames =>
    unwind skipped (.object ((key, t) :: members).reverse (.cut skipped)) frames

/-- The document around a list that breaks off. -/
def endList (items : List Tree) (ending : ListEnd) (frames : List Frame) : Tree :=
  unwind (ending.skippedFault?.getD .expectedValue) (.list items.reverse ending) frames

/-- The document around an object that breaks off. -/
def endObject (members : List (MemberKey × Tree)) (ending : ObjectEnd) (frames : List Frame) :
    Tree :=
  unwind (ending.skippedFault?.getD .expectedValue) (.object members.reverse ending) frames

/-- The document around a place without a complete value. -/
def endBroken (start : Break) (flaw : Flaw) (frames : List Frame) : Tree :=
  unwind flaw.skipped (.broken start flaw) frames

/-- What comes next in a document. -/
inductive Place where
  /-- A value; `afterComma` says that a comma stands in front of it. -/
  | value
  /-- The first item of the innermost list, or its end. -/
  | firstItem
  /-- An item of the innermost list, after a comma. -/
  | nextItem
  /-- What follows a complete value. -/
  | afterValue
  /-- The first key of the innermost object, or its end. -/
  | firstKey
  /-- A key of the innermost object, after a comma. -/
  | nextKey
  /-- The colon after a key. -/
  | colon (key : MemberKey)
  deriving Inhabited

/-- What a document is read into: the tree, and whether anything follows it. -/
structure Document where
  tree : Tree
  followed : Bool

/-- The value that a single token is, if it is one. -/
def Token.leaf? : Token → Option Tree
  | .null => some .null
  | .boolean b => some (.boolean b)
  | .number value => some (.number value)
  | .text value => some (.text value)
  | _ => none

/-- The document around a token that begins no value. -/
def Token.endValue (t : Token) (frames : List Frame) : Tree :=
  match t with
  | .broken start flaw => endBroken start flaw frames
  | _ => endBroken .other (.both .expectedValue) frames

/-- Puts a complete value into the innermost list or object. -/
def settleValue (t : Tree) : List Frame → Tree ⊕ List Frame
  | [] => .inl t
  | .list items :: frames => .inr (.list (t :: items) :: frames)
  | .object members :: frames => .inr (.object members :: frames)
  | .member members key :: frames => .inr (.object ((key, t) :: members) :: frames)

/-- Reads a document from its tokens, given what comes next and what is open around it. -/
def grow (place : Place) (frames : List Frame) : List Token → Document
  | [] =>
    match place, frames with
    | .firstItem, .list items :: frames => ⟨endList items .missing frames, false⟩
    | .nextItem, .list items :: frames => ⟨endList items .missingAfterComma frames, false⟩
    | .afterValue, .list items :: frames => ⟨endList items .missing frames, false⟩
    | .afterValue, .object members :: frames => ⟨endObject members .missing frames, false⟩
    | .firstKey, .object members :: frames => ⟨endObject members .missing frames, false⟩
    | .nextKey, .object members :: frames => ⟨endObject members .missingAfterComma frames, false⟩
    | .colon key, .object members :: frames =>
      ⟨endBroken .absent (.both .endInObject) (.member members key :: frames), false⟩
    | _, frames => ⟨endBroken .absent (.both .endInValue) frames, false⟩
  | token :: rest =>
    let complete (t : Tree) (frames : List Frame) : Document :=
      match settleValue t frames with
      | .inl t => ⟨t, !rest.isEmpty⟩
      | .inr frames => grow .afterValue frames rest
    let value (frames : List Frame) : Document :=
      match token.leaf? with
      | some t => complete t frames
      | none =>
        match token with
        | .openList => grow .firstItem (.list [] :: frames) rest
        | .openObject => grow .firstKey (.object [] :: frames) rest
        | _ => ⟨token.endValue frames, false⟩
    match place, frames with
    | .firstItem, .list items :: frames =>
      match token with
      | .closeList => complete (.list items.reverse .closed) frames
      | _ => value (.list items :: frames)
    | .nextItem, .list items :: frames =>
      match token with
      | .closeList => ⟨endList items .afterComma frames, false⟩
      | _ => value (.list items :: frames)
    | .afterValue, .list items :: frames =>
      match token with
      | .comma => grow .nextItem (.list items :: frames) rest
      | .closeList => complete (.list items.reverse .closed) frames
      | _ => ⟨endList items .unexpected frames, false⟩
    | .afterValue, .object members :: frames =>
      match token with
      | .comma => grow .nextKey (.object members :: frames) rest
      | .closeObject => complete (.object members.reverse .closed) frames
      | _ => ⟨endObject members .unexpected frames, false⟩
    | .firstKey, .object members :: frames =>
      match token with
      | .closeObject => complete (.object members.reverse .closed) frames
      | .text key => grow (.colon key) (.object members :: frames) rest
      | .broken .text flaw => ⟨endObject members (.brokenKey flaw) frames, false⟩
      | _ => ⟨endObject members .wrongKey frames, false⟩
    | .nextKey, .object members :: frames =>
      match token with
      | .closeObject => ⟨endObject members .afterComma frames, false⟩
      | .text key => grow (.colon key) (.object members :: frames) rest
      | .broken .text flaw => ⟨endObject members (.brokenKey flaw) frames, false⟩
      | _ => ⟨endObject members .wrongKey frames, false⟩
    | .colon key, .object members :: frames =>
      match token with
      | .colon => grow .value (.member members key :: frames) rest
      | _ => ⟨endBroken .absent (.both .expectedColon) (.member members key :: frames), false⟩
    | _, frames => value frames

/-- The document of a text. -/
def Document.read (s : String) : Document :=
  grow .value [] (tokens s)

end Worklist.Json
