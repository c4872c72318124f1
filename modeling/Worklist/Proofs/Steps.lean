import Mathlib.Data.List.Forall2

/-!
# Steps that may fail

What the answer of a chain of steps says of each step, and the other way round.
-/

set_option autoImplicit false

namespace Worklist

/-- Two steps in a row succeed if the first does, and the second on its result. -/
theorem bind_eq_ok_iff {ε α β : Type} {a : Except ε α} {f : α → Except ε β} {b : β} :
    (a >>= f) = .ok b ↔ ∃ x, a = .ok x ∧ f x = .ok b := by
  cases a with
  | error e =>
    constructor
    · intro h
      cases h
    · rintro ⟨x, h, -⟩
      cases h
  | ok x =>
    constructor
    · intro h
      exact ⟨x, rfl, h⟩
    · rintro ⟨y, hy, h⟩
      rw [Except.ok.inj hy]
      exact h

/-- Renaming errors leaves successes as they are. -/
theorem mapError_eq_ok_iff {ε δ α : Type} {r : Except ε α} {f : ε → δ} {a : α} :
    r.mapError f = .ok a ↔ r = .ok a := by
  cases r with
  | error e => exact iff_of_false (by rintro ⟨⟩) (by rintro ⟨⟩)
  | ok b =>
    constructor
    · intro h
      exact congrArg Except.ok (Except.ok.inj h)
    · intro h
      exact congrArg Except.ok (Except.ok.inj h)

/-- A step for each member of a list succeeds with what it gives for each of them. -/
theorem mapM_eq_ok_iff {ε α β : Type} {f : α → Except ε β} {l : List α} {r : List β} :
    l.mapM f = .ok r ↔ List.Forall₂ (fun a b => f a = .ok b) l r := by
  induction l generalizing r with
  | nil =>
    rw [List.forall₂_nil_left_iff]
    constructor
    · intro h
      exact (Except.ok.inj h).symm
    · intro h
      rw [h]
      rfl
  | cons a l ih =>
    rw [List.mapM_cons, bind_eq_ok_iff, List.forall₂_cons_left_iff]
    refine exists_congr fun b => ?_
    rw [bind_eq_ok_iff]
    constructor
    · rintro ⟨hb, bs, hbs, hr⟩
      exact ⟨bs, hb, ih.mp hbs, (Except.ok.inj hr).symm⟩
    · rintro ⟨bs, hb, hbs, hr⟩
      rw [hr]
      exact ⟨hb, bs, ih.mpr hbs, rfl⟩

/-- The results of a step for each member of a list come from its members. -/
theorem mem_of_mapM_eq_ok {ε α β : Type} {f : α → Except ε β} {l : List α} {r : List β}
    (h : l.mapM f = .ok r) {b : β} : b ∈ r ↔ ∃ a ∈ l, f a = .ok b := by
  induction l generalizing r with
  | nil =>
    rw [← Except.ok.inj h]
    simp
  | cons a l ih =>
    rw [List.mapM_cons] at h
    obtain ⟨c, hc, h⟩ := bind_eq_ok_iff.mp h
    obtain ⟨cs, hcs, h⟩ := bind_eq_ok_iff.mp h
    rw [← Except.ok.inj h, List.mem_cons, ih hcs, List.exists_mem_cons_iff, hc, Except.ok.injEq,
      eq_comm]

/-- A step succeeds for a list if it does for each member. -/
theorem exists_mapM_eq_ok {ε α β : Type} {f : α → Except ε β} {l : List α}
    (h : ∀ a ∈ l, ∃ b, f a = .ok b) : ∃ r, l.mapM f = .ok r := by
  induction l with
  | nil => exact ⟨[], rfl⟩
  | cons a l ih =>
    obtain ⟨b, hb⟩ := h a List.mem_cons_self
    obtain ⟨bs, hbs⟩ := ih fun c hc => h c (List.mem_cons_of_mem a hc)
    rw [List.mapM_cons, hb, hbs]
    exact ⟨b :: bs, rfl⟩

/-- Steps that each lead back to where they came from do so together. -/
theorem exists_mapM_of_forall₂ {ε α β γ δ : Type} {r : α → β → Prop} {f : β → Except ε γ}
    {g : γ → δ} {k : α → δ} (each : ∀ a b, r a b → ∃ c, f b = .ok c ∧ g c = k a) {as : List α}
    {bs : List β} (h : List.Forall₂ r as bs) :
    ∃ cs, bs.mapM f = .ok cs ∧ cs.map g = as.map k := by
  induction h with
  | nil => exact ⟨[], rfl, rfl⟩
  | cons head _ ih =>
    obtain ⟨c, hc, back⟩ := each _ _ head
    obtain ⟨cs, hcs, backs⟩ := ih
    refine ⟨c :: cs, ?_, ?_⟩
    · rw [List.mapM_cons, hc, hcs]
      rfl
    · rw [List.map_cons, List.map_cons, back, backs]

/-- Where a step succeeds for a list, each member has its result. -/
theorem exists_of_mapM_eq_ok {ε α β : Type} {f : α → Except ε β} {l : List α} {r : List β}
    (h : l.mapM f = .ok r) {a : α} (ha : a ∈ l) : ∃ b ∈ r, f a = .ok b := by
  have each := mapM_eq_ok_iff.mp h
  clear h
  induction each with
  | nil => cases ha
  | cons first _ ih =>
    rcases List.mem_cons.mp ha with rfl | later
    · exact ⟨_, List.mem_cons_self, first⟩
    · obtain ⟨b, hb, ok⟩ := ih later
      exact ⟨b, List.mem_cons_of_mem _ hb, ok⟩

/-- Steps that succeed or fail in one way succeed together or fail in this way. -/
theorem mapM_cases {ε α β : Type} {f : α → Except ε β} {e : ε} {l : List α}
    (h : ∀ a ∈ l, (∃ b, f a = .ok b) ∨ f a = .error e) :
    (∃ r, l.mapM f = .ok r) ∨ l.mapM f = .error e := by
  induction l with
  | nil => exact Or.inl ⟨[], rfl⟩
  | cons a l ih =>
    obtain ⟨first, rest⟩ := List.forall_mem_cons.mp h
    rw [List.mapM_cons]
    rcases first with ⟨b, hb⟩ | failed
    · rw [hb]
      rcases ih rest with ⟨bs, hbs⟩ | failed
      · rw [hbs]
        exact Or.inl ⟨b :: bs, rfl⟩
      · rw [failed]
        exact Or.inr rfl
    · rw [failed]
      exact Or.inr rfl

/-- Steps that fail as others do, but for how their errors are called, do so together. -/
theorem mapM_mapError {ε δ α β : Type} {f : α → Except δ β} {g : α → Except ε β} {call : ε → δ}
    {l : List α} (each : ∀ a ∈ l, f a = (g a).mapError call) :
    l.mapM f = (l.mapM g).mapError call := by
  induction l with
  | nil => rfl
  | cons a l ih =>
    obtain ⟨first, rest⟩ := List.forall_mem_cons.mp each
    rw [List.mapM_cons, List.mapM_cons, first, ih rest]
    cases g a with
    | error e => rfl
    | ok b => cases l.mapM g <;> rfl

end Worklist
