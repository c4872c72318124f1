import Worklist.Proofs.Json.Members
import Worklist.Settings.Load

/-!
# Settings in a document

Which documents stand for which settings, apart from how they are read. A document is an object in
which each setting is called once at most, with a value or with nothing for it. Every other key is
kept, once, whatever its value; but the value has to be complete, and not nested too deep.
-/

set_option autoImplicit false

namespace Worklist

open Calendar (WeekStart)
open Json (FieldIs Fills Sets Tree givenAs keyed)

/-! ## Values -/

/-- The documents that stand for a day that weeks start on: its name, and an object with this name
as its only key and nothing for it. -/
inductive Calendar.WeekStart.StandsAs : WeekStart → Tree → Prop where
  | name (w : WeekStart) : StandsAs w (.text (.ok w.name))
  | key (w : WeekStart) : StandsAs w (.object [(.ok w.name, .null)] .closed)

/-- The documents that stand for a number of 32 bits. -/
inductive Number.StandsAsUInt32 : Nat → Tree → Prop where
  | natural {n : Nat} (range : n ≤ 4294967295) : StandsAsUInt32 n (.number (.ok (.natural n)))
  | negative {n : Nat} (range : n ≤ 4294967295) : StandsAsUInt32 n (.number (.ok (.negative n)))

/-- A first day of weeks is read from the documents that it stands as only. -/
theorem Calendar.WeekStart.ofTree_eq_ok_iff {t : Tree} {w : WeekStart} :
    WeekStart.ofTree t = .ok w ↔ w.StandsAs t := by
  have named {s : String} : WeekStart.ofName? s = some w ↔ s = w.name := by
    constructor
    · intro h
      unfold WeekStart.ofName? at h
      have same := List.find?_some h
      exact (eq_of_beq same).symm
    · rintro rfl
      cases w <;> decide
  unfold WeekStart.ofTree
  rw [Tree.asVariant_eq_ok_iff]
  simp only [named, exists_eq_left]
  constructor
  · rintro (rfl | rfl)
    · exact .name w
    · exact .key w
  · rintro (_ | _)
    · exact .inl rfl
    · exact .inr rfl

/-- A number of 32 bits is read from the documents that it stands as only. -/
theorem asUInt32_eq_ok_iff {t : Tree} {n : Nat} :
    t.asUInt32 = .ok n ↔ Number.StandsAsUInt32 n t := by
  unfold Tree.asUInt32
  rw [bind_eq_ok_iff]
  constructor
  · rintro ⟨i, own, same⟩
    cases same
    unfold Tree.asWhole at own
    split at own
    case h_1 m =>
      split_ifs at own with range
      cases own
      exact .natural (Int.ofNat_le.mp range.2)
    case h_2 m =>
      split_ifs at own with range
      cases own
      obtain ⟨k, rfl⟩ := Int.eq_ofNat_of_zero_le range.1
      exact .negative (Int.ofNat_le.mp range.2)
    case h_3 => exact absurd own (Tree.mismatch_ne_ok t _ i)
  · rintro (range | range)
    · exact ⟨n, if_pos ⟨Int.natCast_nonneg n, Int.ofNat_le.mpr range⟩, rfl⟩
    · exact ⟨n, if_pos ⟨Int.natCast_nonneg n, Int.ofNat_le.mpr range⟩, rfl⟩

namespace FileSettings

/-- The names of the settings. -/
def keys : List String :=
  ["first_day_of_week", "default_per_page", "max_per_page"]

/-- What an object sets a setting to: the value of the only member that is called so, unless this is
nothing. -/
inductive SettingIs {α : Type} (stands : α → Tree → Prop) (key : String)
    (members : List (String × Tree)) : Option α → Prop where
  | absent (missing : givenAs [key] members = []) : SettingIs stands key members none
  | null (one : givenAs [key] members = [.null]) : SettingIs stands key members none
  | given {t : Tree} {value : α} (one : givenAs [key] members = [t]) (own : stands value t) :
      SettingIs stands key members (some value)

/-- The keys of an object that name no setting, each one once, in the order of first mention. -/
def unknownKeys (members : List (String × Tree)) : List String :=
  ((members.map Prod.fst).filter fun key => key ∉ keys).eraseDups

/-- Whether the members of an object are those of settings. -/
structure Describes (f : FileSettings) (members : List (String × Tree)) : Prop where
  weekStart : SettingIs WeekStart.StandsAs "first_day_of_week" members f.weekStart?
  defaultPerPage : SettingIs Number.StandsAsUInt32 "default_per_page" members f.defaultPerPage?
  maxPerPage : SettingIs Number.StandsAsUInt32 "max_per_page" members f.maxPerPage?
  others : ∀ m ∈ members, m.1 ∉ keys → m.2.keptFault? valueRoom = none
  unknown : f.unknown = unknownKeys members

/-- Leaving out the members that are no settings loses none of a setting. -/
theorem givenAs_filter {key : String} (named : key ∈ keys) (members : List (String × Tree)) :
    givenAs [key] (members.filter fun m => m.1 ∈ keys) = givenAs [key] members := by
  unfold givenAs
  rw [List.filter_filter]
  refine congrArg _ (List.filter_congr fun m _ => ?_)
  by_cases same : m.1 = key
  · simp [same, named]
  · simp [same]

/-- A setting depends on the members with its key only. -/
theorem SettingIs.congr {α : Type} {stands : α → Tree → Prop} {key : String}
    {members members' : List (String × Tree)} {value? : Option α}
    (same : givenAs [key] members = givenAs [key] members')
    (h : SettingIs stands key members value?) : SettingIs stands key members' value? := by
  cases h with
  | absent missing => exact .absent (same.symm.trans missing)
  | null one => exact .null (same.symm.trans one)
  | given one own => exact .given (same.symm.trans one) own

/-- Members that agree on the settings describe the same ones, whatever else there is. -/
theorem Describes.of_filter_eq {f : FileSettings} {members members' : List (String × Tree)}
    (own : f.Describes members)
    (same : (members.filter fun m => m.1 ∈ keys) = members'.filter fun m => m.1 ∈ keys)
    (others : ∀ m ∈ members', m.1 ∉ keys → m.2.keptFault? valueRoom = none) :
    Describes { f with unknown := unknownKeys members' } members' := by
  have agree (key : String) (named : key ∈ keys) :
      givenAs [key] members = givenAs [key] members' := by
    rw [← givenAs_filter named members, same, givenAs_filter named]
  exact ⟨own.weekStart.congr (agree _ (by decide)), own.defaultPerPage.congr (agree _ (by decide)),
    own.maxPerPage.congr (agree _ (by decide)), others, rfl⟩

/-! ## Members -/

/-- The keys that mean nothing, after one more key. -/
def mention (unknown : List String) (key : String) : List String :=
  if key ∈ keys ∨ key ∈ unknown then unknown else unknown ++ [key]

/-- What taking up one member does to each part of a draft. -/
theorem take_eq_ok_iff {d next : Draft} {m : String × Tree} :
    d.take m.1 m.2 = .ok next ↔
      Sets (fun t day? => t.asOptional WeekStart.ofTree = .ok day?) ["first_day_of_week"] m
        d.weekStart? next.weekStart? ∧
      Sets (fun t n? => t.asOptional Tree.asUInt32 = .ok n?) ["default_per_page"] m
        d.defaultPerPage? next.defaultPerPage? ∧
      Sets (fun t n? => t.asOptional Tree.asUInt32 = .ok n?) ["max_per_page"] m
        d.maxPerPage? next.maxPerPage? ∧
      (m.1 ∉ keys → m.2.keptFault? valueRoom = none) ∧ next.unknown = mention d.unknown m.1 := by
  obtain ⟨weekStart?, defaultPerPage?, maxPerPage?, unknown⟩ := d
  obtain ⟨weekStart', defaultPerPage', maxPerPage', unknown'⟩ := next
  unfold Draft.take
  split_ifs with weekStart defaultPerPage maxPerPage mentioned
  · rw [Json.takeField_bind_eq_ok_iff (List.mem_singleton.mpr weekStart)]
    simp [Json.sets_of_not_mem, keys, mention, weekStart]
  · rw [Json.takeField_bind_eq_ok_iff (List.mem_singleton.mpr defaultPerPage)]
    simp [Json.sets_of_not_mem, keys, mention, defaultPerPage, and_left_comm]
  · rw [Json.takeField_bind_eq_ok_iff (List.mem_singleton.mpr maxPerPage)]
    simp [Json.sets_of_not_mem, keys, mention, maxPerPage, and_left_comm]
  · rw [Tree.keep_bind_eq_ok_iff]
    have same : m.1 ∈ unknown := mentioned
    simp [Json.sets_of_not_mem, keys, mention, weekStart, defaultPerPage, maxPerPage, same,
      and_left_comm]
  · rw [Tree.keep_bind_eq_ok_iff]
    have other : m.1 ∉ unknown := mentioned
    simp [Json.sets_of_not_mem, keys, mention, weekStart, defaultPerPage, maxPerPage, other,
      and_left_comm]

/-- What taking up members one after the other does to each part of a draft. -/
theorem foldlM_take_eq_ok_iff {members : List (String × Tree)} {d d' : Draft} :
    members.foldlM (fun (d : Draft) (m : String × Tree) => d.take m.1 m.2) d = .ok d' ↔
      Fills (fun t day? => t.asOptional WeekStart.ofTree = .ok day?) ["first_day_of_week"] members
        d.weekStart? d'.weekStart? ∧
      Fills (fun t n? => t.asOptional Tree.asUInt32 = .ok n?) ["default_per_page"] members
        d.defaultPerPage? d'.defaultPerPage? ∧
      Fills (fun t n? => t.asOptional Tree.asUInt32 = .ok n?) ["max_per_page"] members
        d.maxPerPage? d'.maxPerPage? ∧
      (∀ m ∈ members, m.1 ∉ keys → m.2.keptFault? valueRoom = none) ∧
      d'.unknown = (members.map Prod.fst).foldl mention d.unknown := by
  induction members generalizing d with
  | nil =>
    constructor
    · rintro ⟨⟩
      exact ⟨rfl, rfl, rfl, by simp, rfl⟩
    · obtain ⟨weekStart?, defaultPerPage?, maxPerPage?, unknown⟩ := d'
      rintro ⟨rfl, rfl, rfl, -, rfl⟩
      rfl
  | cons m members ih =>
    rw [List.foldlM_cons, bind_eq_ok_iff]
    simp only [take_eq_ok_iff, ih, List.forall_mem_cons, List.map_cons, List.foldl_cons]
    constructor
    · rintro ⟨next, ⟨weekStart, default, max, kept, same⟩, weekStart', default', max', rest,
        unknown⟩
      exact ⟨⟨_, weekStart, weekStart'⟩, ⟨_, default, default'⟩, ⟨_, max, max'⟩, ⟨kept, rest⟩,
        same ▸ unknown⟩
    · rintro ⟨⟨w, weekStart, weekStart'⟩, ⟨n, default, default'⟩, ⟨k, max, max'⟩, ⟨kept, rest⟩,
        unknown⟩
      exact ⟨⟨w, n, k, mention d.unknown m.1⟩, ⟨weekStart, default, max, kept, rfl⟩, weekStart',
        default', max', rest, unknown⟩

/-- Keys are mentioned once each, behind those that are mentioned already. -/
theorem foldl_mention (named unknown : List String) :
    named.foldl mention unknown =
      unknown ++ (named.filter fun key => key ∉ keys ∧ key ∉ unknown).eraseDups := by
  induction named generalizing unknown with
  | nil => simp
  | cons key named ih =>
    rw [List.foldl_cons, ih, mention]
    by_cases old : key ∈ keys ∨ key ∈ unknown
    · rw [if_pos old, List.filter_cons_of_neg]
      simpa [Decidable.or_iff_not_imp_left] using old
    · rw [if_neg old, List.filter_cons_of_pos (by simpa using old), List.eraseDups_cons,
        List.append_assoc, List.singleton_append, List.filter_filter]
      congr 3
      refine List.filter_congr fun other _ => ?_
      simp [beq_eq_decide, and_comm, and_assoc]

/-! ## Documents -/

section Setting

variable {α : Type} {read : Tree → Except Json.Fault α} {stands : α → Tree → Prop}

/-- A setting is read from an object as what the object sets it to. -/
theorem exists_fieldIs_iff (own : ∀ {t a}, read t = .ok a ↔ stands a t)
    (null : ∀ a, ¬ stands a .null) (broken : ∀ a flaw, ¬ stands a (.broken .null flaw))
    {key : String} {members : List (String × Tree)} {value? : Option α} :
    (∃ slot, FieldIs (fun t a? => t.asOptional read = .ok a?) [key] members slot ∧
      slot.join = value?) ↔ SettingIs stands key members value? := by
  have optional {t : Tree} {a? : Option α} : t.asOptional read = .ok a? ↔
      t = .null ∧ a? = none ∨ ∃ a, stands a t ∧ a? = some a := by
    unfold Tree.asOptional
    split
    case h_1 => simp [null, eq_comm]
    case h_2 flaw => simp [broken]
    case h_3 noNull _ =>
      rw [bind_eq_ok_iff]
      constructor
      · rintro ⟨a, ok, same⟩
        exact .inr ⟨a, own.mp ok, (Except.ok.inj same).symm⟩
      · rintro (⟨empty, -⟩ | ⟨a, stand, rfl⟩)
        · exact absurd empty noNull
        · exact ⟨a, own.mpr stand, rfl⟩
  constructor
  · rintro ⟨slot, field, rfl⟩
    cases field with
    | absent missing => exact .absent missing
    | given one taken =>
      rcases optional.mp taken with ⟨rfl, rfl⟩ | ⟨a, stand, rfl⟩
      · exact .null one
      · exact .given one stand
  · intro h
    cases h with
    | absent missing => exact ⟨none, .absent missing, rfl⟩
    | null one => exact ⟨some none, .given one (optional.mpr (.inl ⟨rfl, rfl⟩)), rfl⟩
    | given one stand =>
      exact ⟨some (some _), .given one (optional.mpr (.inr ⟨_, stand, rfl⟩)), rfl⟩

end Setting

/-- The slot of the first day has a value as the setting does. -/
theorem exists_weekStart_iff {members : List (String × Tree)} {day? : Option WeekStart} :
    (∃ slot, FieldIs (fun t day? => t.asOptional WeekStart.ofTree = .ok day?)
      ["first_day_of_week"] members slot ∧ slot.join = day?) ↔
      SettingIs WeekStart.StandsAs "first_day_of_week" members day? :=
  exists_fieldIs_iff WeekStart.ofTree_eq_ok_iff (by rintro a ⟨⟩) (by rintro a flaw ⟨⟩)

/-- The slot of a number has a value as the setting does. -/
theorem exists_number_iff {key : String} {members : List (String × Tree)} {n? : Option Nat} :
    (∃ slot, FieldIs (fun t n? => t.asOptional Tree.asUInt32 = .ok n?) [key] members slot ∧
      slot.join = n?) ↔ SettingIs Number.StandsAsUInt32 key members n? :=
  exists_fieldIs_iff asUInt32_eq_ok_iff (by rintro a ⟨⟩) (by rintro a flaw ⟨⟩)

/-- The reader of settings accepts the objects that describe some. -/
theorem read_eq_ok_iff {t : Tree} {f : FileSettings} :
    read t = .ok f ↔ ∃ members, t = .object (keyed members) .closed ∧ f.Describes members := by
  unfold read
  split
  case h_1 members ending =>
    refine Json.readObject_eq_ok_iff.trans ?_
    simp only [foldlM_take_eq_ok_iff, Json.fills_none_iff, foldl_mention]
    constructor
    · rintro ⟨rfl, plain, d, rfl, ⟨weekStart, default, max, others, unknown⟩, same⟩
      cases same
      exact ⟨plain, rfl, exists_weekStart_iff.mp ⟨_, weekStart, rfl⟩,
        exists_number_iff.mp ⟨_, default, rfl⟩, exists_number_iff.mp ⟨_, max, rfl⟩, others,
        by simpa [unknownKeys] using unknown⟩
    · rintro ⟨plain, same, weekStart, default, max, others, unknown⟩
      obtain ⟨rfl, rfl⟩ := Tree.object.inj same
      obtain ⟨w, weekStart, sameDay⟩ := exists_weekStart_iff.mpr weekStart
      obtain ⟨n, default, sameDefault⟩ := exists_number_iff.mpr default
      obtain ⟨k, max, sameMax⟩ := exists_number_iff.mpr max
      refine ⟨rfl, plain, ⟨w, n, k, f.unknown⟩, rfl, ⟨weekStart, default, max, others, ?_⟩, ?_⟩
      · simpa [unknownKeys] using unknown
      · rw [sameDay, sameDefault, sameMax]
        rfl
  case h_2 noObject =>
    refine iff_of_false (Tree.mismatch_ne_ok t _ f) ?_
    rintro ⟨members, same, -⟩
    exact noObject _ _ same

end FileSettings

end Worklist
