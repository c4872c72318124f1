import Worklist.Filter.Clause
import Worklist.Query.Scope
import Worklist.Settings.Basic

/-!
# Queries and pages

A query says which work packages are wanted and in which order. A page is asked for by its number,
from 1, and its size; the settings have a size for when none is asked for, and the greatest size.
-/

set_option autoImplicit false

namespace Worklist

/-- A field to sort by, with a direction. -/
structure SortKey where
  field : FieldKey
  descending : Bool
  deriving DecidableEq, Repr

/-- The work packages that are wanted. -/
structure Query where
  filters : List Clause
  /-- The one project that they are from, if it is given. -/
  project? : Option Int
  scope : Scope
  order : List SortKey
  deriving DecidableEq, Repr

/-- A page that is asked for. -/
structure Pagination where
  page : Nat
  perPage? : Option Nat
  deriving DecidableEq, Repr

namespace Pagination

/-- The number of the page: page 0 is the first one too. -/
def number (p : Pagination) : Nat :=
  max p.page 1

/-- The size of the page, from 1 to the greatest size. -/
def size (p : Pagination) (s : Settings) : Nat :=
  max 1 (min (p.perPage?.getD s.defaultPerPage) (max s.maxPerPage 1))

/-- How many work packages stand before the page, at most as many as have 32 bits. -/
def offset (p : Pagination) (s : Settings) : Nat :=
  min ((p.number - 1) * p.size s) Number.maxUInt32

/-- A page has at least one place. -/
theorem one_le_size (p : Pagination) (s : Settings) : 1 ≤ p.size s :=
  Nat.le_max_left ..

end Pagination

/-- One page of a list, and how long the whole list is. -/
structure Page (α : Type) where
  items : List α
  total : Nat
  number : Nat
  size : Nat
  deriving DecidableEq, Repr

/-- How many pages of a size a total fills; pages without places are none. -/
def pagesFor (total size : Nat) : Nat :=
  if size = 0 then 0 else (total + size - 1) / size

/-- How many pages the list has. -/
def Page.totalPages {α : Type} (p : Page α) : Nat :=
  pagesFor p.total p.size

end Worklist
