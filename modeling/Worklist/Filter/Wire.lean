import Worklist.Filter.Clause
import Worklist.Json.Reader
import Worklist.Names
import Worklist.Notice

/-!
# Filters on the wire

Filters arrive as a JSON list of clauses. A clause is an object with the keys `field`, `operator`,
`values` and `dynamic`, the last of which has a second name, or a list of these four in order. Sizes
are limited, of the text as of the list. A clause with an unknown operator is left out with a
notice, after the limits have been checked.
-/

set_option autoImplicit false

namespace Worklist

open Json (Fault Tree)

/-- The greatest size of a filter text in bytes. -/
def maxFilterBytes : Nat := 65536

/-- The greatest number of clauses in a filter text. -/
def maxFilters : Nat := 50

/-- Why a filter text is refused. -/
inductive FilterError where
  | tooLarge
  | malformed (fault : Fault)
  | tooMany
  deriving DecidableEq

namespace FilterError

/-- The code of a refusal. -/
def code : FilterError → String
  | .tooLarge => "FILTER_JSON_TOO_LARGE"
  | .malformed _ => "INVALID_FILTER_JSON"
  | .tooMany => "TOO_MANY_FILTERS"

/-- The wording of a refusal. -/
def message : FilterError → String
  | .tooLarge => "Filter JSON exceeds maximum size of " ++ toString maxFilterBytes ++ " bytes"
  | .malformed fault => fault.message
  | .tooMany => "Maximum " ++ toString maxFilters ++ " filters allowed"

end FilterError

/-- A clause as it arrives. -/
structure WireClause where
  field : FieldKey
  operator : String
  values : List FilterValue
  dynamic : Bool

namespace WireClause

/-- The fields of a clause that have been met. -/
structure Draft where
  field? : Option FieldKey := none
  operator? : Option String := none
  values? : Option (List FilterValue) := none
  dynamic? : Option Bool := none

/-- Room for nested lists and objects within the values of a clause: they stand inside of the list
of clauses, the clause and the list of values. -/
def valueRoom : Nat := Json.nestingLimit - 3

/-- Reads a value: a whole number of 64 bits, another number, or a text. -/
def readValue (t : Tree) : Except Fault FilterValue := do
  let t ← t.keep valueRoom
  match t with
  | .number (.ok (.natural n)) =>
    if n ≤ Number.maxInt64 then pure (.int n)
    else pure (.float (.finite ((Number.Binary64.nearest false n 1).getD default)))
  | .number (.ok (.negative n)) => pure (.int n)
  | .number (.ok (.real x)) => pure (.float (.finite x))
  | .text (.ok s) => pure (.text s)
  | _ => .error (.noVariant "WireValue")

/-- Reads the values of a clause. -/
def readValues (t : Tree) : Except Fault (List FilterValue) :=
  t.asList readValue

/-- Takes up one member of an object; a key that means nothing is skipped. -/
def Draft.take (d : Draft) (key : String) (t : Tree) : Except Fault Draft :=
  if key = "field" then do
    let value ← Json.takeField "field" d.field? FieldKey.ofTree t
    pure { d with field? := value }
  else if key = "operator" then do
    let value ← Json.takeField "operator" d.operator? Tree.asText t
    pure { d with operator? := value }
  else if key = "values" then do
    let value ← Json.takeField "values" d.values? readValues t
    pure { d with values? := value }
  else if key = "dynamic" ∨ key = "is_dynamic_field" then do
    let value ← Json.takeField "dynamic" d.dynamic? Tree.asBoolean t
    pure { d with dynamic? := value }
  else do
    t.skip
    pure d

/-- The clause of an object that is complete. -/
def Draft.finish (d : Draft) : Except Fault WireClause := do
  let field ← Json.requireField "field" d.field?
  let operator ← Json.requireField "operator" d.operator?
  pure ⟨field, operator, d.values?.getD [], d.dynamic?.getD false⟩

/-- What a clause that is too short for its two first items is expected to be. -/
def listShape : String := "struct WireFilter with 4 elements"

/-- Reads a clause from the items of a list, of which the last two may be missing. -/
def ofItems (items : List Tree) (ending : Json.ListEnd) : Except Fault WireClause :=
  match items with
  | [] => Tree.tooShort ending 0 listShape
  | field :: rest => do
    let field ← FieldKey.ofTree field
    match rest with
    | [] => Tree.tooShort ending 1 listShape
    | operator :: rest =>
      let operator ← operator.asText
      match rest with
      | [] =>
        Tree.raise? ending.fault?
        pure ⟨field, operator, [], false⟩
      | values :: rest =>
        let values ← readValues values
        match rest with
        | [] =>
          Tree.raise? ending.fault?
          pure ⟨field, operator, values, false⟩
        | dynamic :: rest =>
          let dynamic ← dynamic.asBoolean
          Tree.endOfItems rest ending
          pure ⟨field, operator, values, dynamic⟩

/-- Reads a clause. -/
def read : Tree → Except Fault WireClause
  | .object members ending => do
    let draft ← members.foldlM (fun (d : Draft) m => do d.take (← m.1) m.2) {}
    Tree.raise? ending.fault?
    draft.finish
  | .list items ending => ofItems items ending
  | t => t.mismatch "struct WireFilter"

/-- The clause of a known operator, or a notice. -/
def resolve (w : WireClause) : Clause ⊕ Notice :=
  match Operator.ofCode? w.operator with
  | some operator => .inl ((Clause.ofValues w.field operator w.values).withDynamic w.dynamic)
  | none => .inr (.unknownOperator w.field.text w.operator)

end WireClause

namespace Clause

/-- The clauses among resolved ones. -/
def known (resolved : List (Clause ⊕ Notice)) : List Clause :=
  resolved.filterMap fun r => match r with
    | .inl c => some c
    | .inr _ => none

/-- The notices among resolved clauses. -/
def notices (resolved : List (Clause ⊕ Notice)) : List Notice :=
  resolved.filterMap fun r => match r with
    | .inl _ => none
    | .inr n => some n

/-- Reads the clauses of a filter text, with a notice for each one that is left out. -/
def parse (s : String) : Except FilterError (List Clause × List Notice) :=
  if maxFilterBytes < s.utf8ByteSize then .error .tooLarge
  else
    match Json.readDocument (Tree.asList WireClause.read) s with
    | .error fault => .error (.malformed fault)
    | .ok wire =>
      if maxFilters < wire.length then .error .tooMany
      else
        let resolved := wire.map WireClause.resolve
        .ok (known resolved, notices resolved)

end Clause

end Worklist
