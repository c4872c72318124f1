import Worklist.Json.Tree

/-!
# Reading values from a document

Readers of one value each: texts, truth values, whole numbers, lists, names out of a fixed list, and
values of any kind that are only kept or skipped. A reader takes the tree of its value and answers
with the value or with the first fault that stands in its way, from the left.
-/

set_option autoImplicit false

namespace Worklist.Json

/-- Lists and objects that are kept may be nested one level less deep than this. -/
def nestingLimit : Nat := 128

namespace Tree

/-- What a value is, for a message. -/
def found : Tree → Except Fault Found
  | .null => .ok .null
  | .boolean b => .ok (.boolean b)
  | .number (.ok (.natural n)) => .ok (.integer n)
  | .number (.ok (.negative n)) => .ok (.integer n)
  | .number (.ok (.real x)) => .ok (.float x)
  | .number (.error f) => .error f
  | .text (.ok s) => .ok (.text s)
  | .text (.error f) => .error f
  | .list _ _ => .ok .sequence
  | .object _ _ => .ok .map
  | .broken _ flaw => .error flaw.kept

/-- The fault of a value that is not what a reader expects. -/
def mismatch {α : Type} (t : Tree) (expected : String) : Except Fault α :=
  match t.found with
  | .ok found => .error (.invalidType found expected)
  | .error f => .error f

/-- The fault of a value for a reader that skips it. -/
def skippedFault? : Tree → Option Fault
  | .list _ ending => ending.skippedFault?
  | .object _ ending => ending.skippedFault?
  | .broken _ flaw => some flaw.skipped
  | _ => none

mutual

/-- The first fault of a value for a reader that keeps it, with room for some levels of nesting. -/
def keptFault? (room : Nat) : Tree → Option Fault
  | .number (.error f) => some f
  | .text (.error f) => some f
  | .list items ending =>
    if room ≤ 1 then some .nestingLimit
    else (itemsFault? (room - 1) items).or ending.fault?
  | .object members ending =>
    if room ≤ 1 then some .nestingLimit
    else (membersFault? (room - 1) members).or ending.fault?
  | .broken _ flaw => some flaw.kept
  | _ => none

/-- The first fault of items that are kept. -/
def itemsFault? (room : Nat) : List Tree → Option Fault
  | [] => none
  | t :: rest => (keptFault? room t).or (itemsFault? room rest)

/-- The first fault of members that are kept. -/
def membersFault? (room : Nat) : List (MemberKey × Tree) → Option Fault
  | [] => none
  | (.error f, _) :: _ => some f
  | (.ok _, t) :: rest => (keptFault? room t).or (membersFault? room rest)

end

/-- Fails with a fault, if there is one. -/
def raise? : Option Fault → Except Fault Unit
  | some f => .error f
  | none => .ok ()

/-- Skips a value. -/
def skip (t : Tree) : Except Fault Unit :=
  raise? t.skippedFault?

/-- Keeps a value of any kind, with room for some levels of nesting. -/
def keep (room : Nat) (t : Tree) : Except Fault Tree := do
  raise? (t.keptFault? room)
  pure t

/-- Reads a text. -/
def asText : Tree → Except Fault String
  | .text value => value
  | t => t.mismatch "a string"

/-- Reads a truth value. -/
def asBoolean : Tree → Except Fault Bool
  | .boolean b => .ok b
  | t => t.mismatch "a boolean"

/-- Reads a whole number in a range, which messages call by a name. -/
def asWhole (least greatest : Int) (range : String) : Tree → Except Fault Int
  | .number (.ok (.natural n)) =>
    if least ≤ n ∧ n ≤ greatest then .ok n else .error (.invalidValue n range)
  | .number (.ok (.negative n)) =>
    if least ≤ n ∧ n ≤ greatest then .ok n else .error (.invalidValue n range)
  | t => t.mismatch range

/-- Reads a 64-bit signed number. -/
def asInt64 (t : Tree) : Except Fault Int :=
  t.asWhole Number.minInt64 Number.maxInt64 "i64"

/-- Reads a 32-bit unsigned number. -/
def asUInt32 (t : Tree) : Except Fault Nat := do
  let n ← t.asWhole 0 Number.maxUInt32 "u32"
  pure n.toNat

/-- Reads a list of values. -/
def asList {α : Type} (item : Tree → Except Fault α) : Tree → Except Fault (List α)
  | .list items ending => do
    let values ← items.mapM item
    raise? ending.fault?
    pure values
  | t => t.mismatch "a sequence"

/-- Reads a value that may be missing. -/
def asOptional {α : Type} (read : Tree → Except Fault α) : Tree → Except Fault (Option α)
  | .null => .ok none
  | .broken .null flaw => .error flaw.kept
  | t => do
    let value ← read t
    pure (some value)

/-- Reads one out of named values: its name, or an object that has the name as its only key and no
value for it. -/
def asVariant {α : Type} (known : List String) (ofName? : String → Option α) (t : Tree) :
    Except Fault α :=
  let named (name : String) : Except Fault α :=
    match ofName? name with
    | some value => .ok value
    | none => .error (.unknownVariant name known)
  match t with
  | .text value => do named (← value)
  | .object [] ending => .error (ending.fault?.getD .expectedValue)
  | .object ((key, value) :: rest) ending => do
    let variant ← named (← key)
    match value with
    | .null => pure ()
    | value => value.mismatch "unit"
    match rest, ending with
    | [], .closed => pure variant
    | [], .missing => .error .endInObject
    | _, _ => .error .expectedValue
  | .broken .absent flaw => .error flaw.kept
  | .broken .text flaw => .error flaw.kept
  | _ => .error .expectedValue

/-- The faults of the items of a list that stand for named fields: how a list that ran out of items
ends, or else that it is too short. -/
def tooShort {α : Type} (ending : ListEnd) (length : Nat) (expected : String) : Except Fault α :=
  match ending.fault? with
  | some f => .error f
  | none => .error (.invalidLength length expected)

/-- Checks that a list has no item beyond those that a reader wants, and ends. -/
def endOfItems (beyond : List Tree) (ending : ListEnd) : Except Fault Unit :=
  if beyond.isEmpty then raise? ending.faultAfterLast? else .error .trailingCharacters

end Tree

/-- Sets a field that has been met once at most. -/
def takeField {α : Type} (name : String) (slot : Option α) (read : Tree → Except Fault α)
    (t : Tree) : Except Fault (Option α) :=
  if slot.isSome then .error (.duplicateField name)
  else do
    let value ← read t
    pure (some value)

/-- A field that must have been met. -/
def requireField {α : Type} (name : String) : Option α → Except Fault α
  | some value => .ok value
  | none => .error (.missingField name)

/-- Reads a text as one value with nothing after it. -/
def readDocument {α : Type} (read : Tree → Except Fault α) (s : String) : Except Fault α :=
  let document := Document.read s
  do
    let value ← read document.tree
    if document.followed then .error .trailingCharacters else pure value

end Worklist.Json
