import Worklist.Proofs.Store.Integrity
import Worklist.WorkPackage.Basic

/-!
# Records of declared types

A store keeps in a column what it is given if nothing converts to the type that the column declares,
and a page fails on such a value. Where the listed columns hold values of their declared types, each
record can be shown as a work package.
-/

set_option autoImplicit false

namespace Worklist

open Store (Affinity Integrity Record Table)

namespace Store

/-- Whether a value is of the type that a column declares. A missing value is of every type. -/
def Affinity.declares : Affinity → Value → Bool
  | _, .null => true
  | .integer, .int _ => true
  | .real, .real _ => true
  | .real, .infinite _ => true
  | .text, .text _ => true
  | _, _ => false

/-- A column of whole numbers holds these, or nothing. -/
theorem Affinity.eq_of_declares_integer {v : Value} (h : integer.declares v = true) :
    v = .null ∨ ∃ n, v = .int n := by
  cases v with
  | null => exact Or.inl rfl
  | int n => exact Or.inr ⟨n, rfl⟩
  | real x => cases h
  | infinite negative => cases h
  | text s => cases h

/-- A column of texts holds these, or nothing. -/
theorem Affinity.eq_of_declares_text {v : Value} (h : text.declares v = true) :
    v = .null ∨ ∃ s, v = .text s := by
  cases v with
  | null => exact Or.inl rfl
  | text s => exact Or.inr ⟨s, rfl⟩
  | int n => cases h
  | real x => cases h
  | infinite negative => cases h

/-- Whether the columns that a page shows hold values of their declared types. -/
def HoldsDeclared (s : Store) : Prop :=
  ∀ r ∈ s.workPackages, ∀ name ∈ Sql.listedColumns,
    (Table.workPackages.affinity name).declares (r.get name) = true

instance (s : Store) : Decidable s.HoldsDeclared :=
  inferInstanceAs (Decidable (∀ r ∈ s.workPackages, _))

end Store

namespace WorkPackage

variable {r : Record} {column : String}

/-- A column of whole numbers can be read as one that may be missing. -/
theorem exists_wholeIn? (h : Affinity.integer.declares (r.get column) = true) :
    ∃ n?, wholeIn? r column = .ok n? := by
  unfold wholeIn?
  rcases Affinity.eq_of_declares_integer h with missing | ⟨n, hn⟩
  · rw [missing]
    exact ⟨none, rfl⟩
  · rw [hn]
    exact ⟨some n, rfl⟩

/-- A column of texts can be read as one that may be missing. -/
theorem exists_textIn? (h : Affinity.text.declares (r.get column) = true) :
    ∃ s?, textIn? r column = .ok s? := by
  unfold textIn?
  rcases Affinity.eq_of_declares_text h with missing | ⟨s, hs⟩
  · rw [missing]
    exact ⟨none, rfl⟩
  · rw [hs]
    exact ⟨some s, rfl⟩

/-- A column of whole numbers can be read where it is not missing. -/
theorem exists_wholeIn (h : Affinity.integer.declares (r.get column) = true)
    (present : r.get column ≠ .null) : ∃ n, wholeIn r column = .ok n := by
  obtain ⟨n, hn⟩ := (Affinity.eq_of_declares_integer h).resolve_left present
  unfold wholeIn
  rw [hn]
  exact ⟨n, rfl⟩

/-- A column of texts can be read where it is not missing. -/
theorem exists_textIn (h : Affinity.text.declares (r.get column) = true)
    (present : r.get column ≠ .null) : ∃ s, textIn r column = .ok s := by
  obtain ⟨s, hs⟩ := (Affinity.eq_of_declares_text h).resolve_left present
  unfold textIn
  rw [hs]
  exact ⟨s, rfl⟩

/-- A record of declared types is a work package. -/
theorem exists_ofRecord {s : Store} (h : Integrity s) (declared : s.HoldsDeclared)
    (mem : r ∈ s.workPackages) : ∃ w, ofRecord r = .ok w := by
  have column (name : String) (listed : name ∈ Sql.listedColumns) :
      (Table.workPackages.affinity name).declares (r.get name) = true := declared r mem name listed
  have present (c : Store.TableColumn) (hc : c ∈ Table.workPackages.columns)
      (required : c.required = true) : r.get c.name ≠ .null :=
    h.required .workPackages r mem c hc required
  obtain ⟨project, hproject⟩ := exists_wholeIn (column "project_id" (by decide))
    (present _ List.mem_cons_self rfl)
  obtain ⟨subject, hsubject⟩ := exists_textIn (column "subject" (by decide))
    (present { name := "subject", affinity := .text, required := true } (by decide) rfl)
  obtain ⟨status?, hstatus⟩ := exists_wholeIn? (column "status_id" (by decide))
  obtain ⟨assignee?, hassignee⟩ := exists_wholeIn? (column "assigned_to_id" (by decide))
  obtain ⟨responsible?, hresponsible⟩ := exists_wholeIn? (column "responsible_id" (by decide))
  obtain ⟨start?, hstart⟩ := exists_textIn? (column "start_date" (by decide))
  obtain ⟨due?, hdue⟩ := exists_textIn? (column "due_date" (by decide))
  obtain ⟨created, hcreated⟩ := exists_textIn (column "created_at" (by decide))
    (present { name := "created_at", affinity := .text, required := true } (by decide) rfl)
  obtain ⟨updated, hupdated⟩ := exists_textIn (column "updated_at" (by decide))
    (present { name := "updated_at", affinity := .text, required := true } (by decide) rfl)
  obtain ⟨root?, hroot⟩ := exists_wholeIn? (column "root_id" (by decide))
  obtain ⟨lft?, hlft⟩ := exists_wholeIn? (column "lft" (by decide))
  have id : wholeIn r "id" = .ok r.id := rfl
  unfold ofRecord
  rw [id, hproject, hsubject, hstatus, hassignee, hresponsible, hstart, hdue, hcreated, hupdated,
    hroot, hlft]
  exact ⟨_, rfl⟩

end WorkPackage

end Worklist
