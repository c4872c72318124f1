import Worklist.Field.Catalog
import Worklist.Notice
import Worklist.Store.Error
import Worklist.Store.Insert

/-!
# Pools

A pool gives access to a store until it is closed. The catalog of custom fields is loaded through
it, as every query is.
-/

set_option autoImplicit false

namespace Worklist

open Store (InsertError NewRow Record Table)

/-- Access to a store. -/
structure Pool where
  store : Store
  isOpen : Bool

namespace Pool

/-- A pool on a store. -/
def ofStore (s : Store) : Pool := ⟨s, true⟩

/-- The store, as long as the pool is open. -/
def read (p : Pool) : Except StoreError Store :=
  if p.isOpen then .ok p.store else .error .poolClosed

/-- The pool after it was closed. -/
def close (p : Pool) : Pool :=
  { p with isOpen := false }

/-- Puts a row into a table; a row that is refused leaves the store as it is. -/
def insert (p : Pool) (t : Table) (row : NewRow) : Except StoreError (Except InsertError Pool) := do
  let s ← p.read
  pure ((s.insert t row).map fun s => { p with store := s })

end Pool

namespace Catalog

/-- The identifier and the format of a custom field, as the store has them. -/
def definition (r : Record) : Except StoreError (Int × String) :=
  match r.get "field_format" with
  | .text format => .ok (r.id, format)
  | v => .error (.mistyped 1 .text v.kindName)

/-- The definitions with a known format. -/
def known (definitions : List (Int × String)) : List (Int × Format) :=
  definitions.filterMap fun d => (Format.ofCode? d.2).map fun format => (d.1, format)

/-- A notice for each definition with an unknown format. -/
def notices (definitions : List (Int × String)) : List Notice :=
  definitions.filterMap fun d =>
    if (Format.ofCode? d.2).isSome then none else some (.unsupportedFormat d.1 d.2)

/-- Loads the custom fields of a store, by identifier. A custom field with an unknown format is left
out with a notice. -/
def load (p : Pool) : Except StoreError (Catalog × List Notice) := do
  let s ← p.read
  let records := s.customFields.mergeSort fun a b => decide (a.id ≤ b.id)
  let definitions ← records.mapM definition
  pure (Catalog.ofList (known definitions), notices definitions)

end Catalog

end Worklist
