import Worklist.Json.Reader
import Worklist.WorkPackage.Basic

/-!
# Work packages on the wire

A work package arrives as a JSON object, in which a value that may be missing need not be named, or
as the list of its twelve values in order.
-/

set_option autoImplicit false

namespace Worklist.WorkPackage

open Json (Fault Tree)

/-- The fields of a work package that have been met; one that may be missing may have been met
without a value. -/
structure Draft where
  id : Option Int := none
  projectId : Option Int := none
  subject : Option String := none
  statusId : Option (Option Int) := none
  assignedToId : Option (Option Int) := none
  responsibleId : Option (Option Int) := none
  startDate : Option (Option String) := none
  dueDate : Option (Option String) := none
  createdAt : Option String := none
  updatedAt : Option String := none
  rootId : Option (Option Int) := none
  lft : Option (Option Int) := none

/-- Reads a whole number that may be missing. -/
def readWhole? (t : Tree) : Except Fault (Option Int) :=
  t.asOptional Tree.asInt64

/-- Reads a text that may be missing. -/
def readText? (t : Tree) : Except Fault (Option String) :=
  t.asOptional Tree.asText

/-- Takes up one member of an object; a key that means nothing is skipped. -/
def Draft.take (d : Draft) (key : String) (t : Tree) : Except Fault Draft :=
  match key with
  | "id" => (Json.takeField key d.id Tree.asInt64 t).map fun v => { d with id := v }
  | "project_id" =>
    (Json.takeField key d.projectId Tree.asInt64 t).map fun v => { d with projectId := v }
  | "subject" => (Json.takeField key d.subject Tree.asText t).map fun v => { d with subject := v }
  | "status_id" =>
    (Json.takeField key d.statusId readWhole? t).map fun v => { d with statusId := v }
  | "assigned_to_id" =>
    (Json.takeField key d.assignedToId readWhole? t).map fun v => { d with assignedToId := v }
  | "responsible_id" =>
    (Json.takeField key d.responsibleId readWhole? t).map fun v => { d with responsibleId := v }
  | "start_date" =>
    (Json.takeField key d.startDate readText? t).map fun v => { d with startDate := v }
  | "due_date" => (Json.takeField key d.dueDate readText? t).map fun v => { d with dueDate := v }
  | "created_at" =>
    (Json.takeField key d.createdAt Tree.asText t).map fun v => { d with createdAt := v }
  | "updated_at" =>
    (Json.takeField key d.updatedAt Tree.asText t).map fun v => { d with updatedAt := v }
  | "root_id" => (Json.takeField key d.rootId readWhole? t).map fun v => { d with rootId := v }
  | "lft" => (Json.takeField key d.lft readWhole? t).map fun v => { d with lft := v }
  | _ => (Tree.skip t).map fun _ => d

/-- The work package of an object that is complete. -/
def Draft.finish (d : Draft) : Except Fault WorkPackage := do
  let id ← Json.requireField "id" d.id
  let projectId ← Json.requireField "project_id" d.projectId
  let subject ← Json.requireField "subject" d.subject
  let createdAt ← Json.requireField "created_at" d.createdAt
  let updatedAt ← Json.requireField "updated_at" d.updatedAt
  pure ⟨id, projectId, subject, d.statusId.join, d.assignedToId.join, d.responsibleId.join,
    d.startDate.join, d.dueDate.join, createdAt, updatedAt, d.rootId.join, d.lft.join⟩

/-- What a work package that is a list is expected to be. -/
def listShape : String := "struct WorkPackageRow with 12 elements"

/-- The items of a list that are still to be read, and how many have been. -/
structure Remaining where
  items : List Tree
  taken : Nat

/-- Reads the next item of a list. -/
def nextItem {α : Type} (read : Tree → Except Fault α) (ending : Json.ListEnd) :
    StateT Remaining (Except Fault) α := fun r =>
  match r.items with
  | [] => Tree.tooShort ending r.taken listShape
  | t :: rest => (read t).map fun value => (value, ⟨rest, r.taken + 1⟩)

/-- Reads a work package from the items of a list. -/
def ofItems (ending : Json.ListEnd) : StateT Remaining (Except Fault) WorkPackage := do
  let id ← nextItem Tree.asInt64 ending
  let projectId ← nextItem Tree.asInt64 ending
  let subject ← nextItem Tree.asText ending
  let statusId? ← nextItem readWhole? ending
  let assignedToId? ← nextItem readWhole? ending
  let responsibleId? ← nextItem readWhole? ending
  let startDate? ← nextItem readText? ending
  let dueDate? ← nextItem readText? ending
  let createdAt ← nextItem Tree.asText ending
  let updatedAt ← nextItem Tree.asText ending
  let rootId? ← nextItem readWhole? ending
  let lft? ← nextItem readWhole? ending
  pure ⟨id, projectId, subject, statusId?, assignedToId?, responsibleId?, startDate?, dueDate?,
    createdAt, updatedAt, rootId?, lft?⟩

/-- Reads a work package. -/
def read : Tree → Except Fault WorkPackage
  | .object members ending => do
    let draft ← members.foldlM (fun (d : Draft) m => do d.take (← m.1) m.2) {}
    Tree.raise? ending.fault?
    draft.finish
  | .list items ending => do
    let (workPackage, remaining) ← ofItems ending ⟨items, 0⟩
    Tree.endOfItems remaining.items ending
    pure workPackage
  | t => t.mismatch "struct WorkPackageRow"

/-- Reads the text of a work package. -/
def parse (s : String) : Except Fault WorkPackage :=
  Json.readDocument read s

end Worklist.WorkPackage
