import Worklist.Proofs.Filter.Search

/-!
# Filters that look for a text of ASCII

A text of ASCII without wildcards is looked for exactly: a filter finds the values that contain it,
where letters of ASCII count as the same in either case and all other characters count as
themselves. A run in front of the pattern and one behind it take up what stands around the text, and
in between each character of the pattern stands for one of the value.
-/

set_option autoImplicit false

namespace Worklist

open Store (Integrity Record Value cell nameable)

/-! ## Patterns without wildcards -/

namespace Text

/-- A text of ASCII without the characters that a pattern gives a meaning. -/
def IsPlainAscii (s : List Char) : Prop :=
  ∀ c ∈ s, c.toNat < 0x80 ∧ isWildcard c = false

instance (s : List Char) : Decidable (IsPlainAscii s) :=
  List.decidableBAll _ s

/-- Plain letters are lowered as the store lowers them. -/
theorem IsPlainAscii.lowersInAscii {s : List Char} (h : IsPlainAscii s) : LowersInAscii s := by
  intro c hc
  unfold lowerChar
  exact if_pos (h c hc).1

/-- Characters of ASCII are compared by their lower case alone. -/
theorem likeKey_toLower_eq_iff {c : Char} (ascii : c.toNat < 0x80) (d : Char) :
    likeKey c.toLower = likeKey d ↔ c.toLower = d.toLower := by
  have small : c.toLower.toNat < 0x80 := by
    rw [toNat_toLower]
    split_ifs <;> omega
  have differs {e : Char} (beyond : 0x80 ≤ e.toNat) : c.toLower ≠ e := by
    rintro rfl
    omega
  have own : likeKey c.toLower = c.toLower := by
    unfold likeKey
    rw [if_neg, toLower_eq_self]
    · rw [toNat_toLower]
      split_ifs <;> omega
    · rintro (last | last)
      · exact differs (by decide) last
      · exact differs (by decide) last
  rw [own]
  unfold likeKey
  split_ifs with last
  · have self : d.toLower = d := toLower_eq_self (by rcases last with rfl | rfl <;> decide)
    rw [self]
    apply iff_of_false (differs (by decide))
    rcases last with rfl | rfl
    · exact differs (by decide)
    · exact differs (by decide)
  · exact Iff.rfl

/-- With a run behind it a plain text is the pattern of what starts with it. -/
theorem like_prefix_iff {v : List Char} (plain : IsPlainAscii v) (text : List Char) :
    like (lowerAscii v ++ ['%']) text = true ↔ lowerAscii v <+: lowerAscii text := by
  induction v generalizing text with
  | nil => exact iff_of_true (like_run_of_suffix (like_nil []) (List.nil_suffix)) (List.nil_prefix)
  | cons c v ih =>
    obtain ⟨⟨ascii, letter⟩, others⟩ := List.forall_mem_cons.mp plain
    have kept : isWildcard c.toLower = false := by
      rw [← isWildcard_likeKey, likeKey_toLower, isWildcard_likeKey, letter]
    have run : c.toLower ≠ '%' := by
      intro same
      rw [same] at kept
      cases kept
    have one : c.toLower ≠ '_' := by
      intro same
      rw [same] at kept
      cases kept
    show like (c.toLower :: (lowerAscii v ++ ['%'])) text = true ↔
      c.toLower :: lowerAscii v <+: lowerAscii text
    cases text with
    | nil =>
      rw [like_cons_nil run]
      exact iff_of_false Bool.false_ne_true fun h => List.cons_ne_nil _ _ (List.prefix_nil.mp h)
    | cons d text =>
      show _ ↔ c.toLower :: lowerAscii v <+: d.toLower :: lowerAscii text
      rw [like_char_cons run one, Bool.and_eq_true, beq_iff_eq, likeKey_toLower_eq_iff ascii,
        ih others, List.cons_prefix_cons]

/-- With a run in front of it a pattern is that of the texts with an end that is like it. -/
theorem like_run_iff {pattern text : List Char} :
    like ('%' :: pattern) text = true ↔ ∃ s, like pattern s = true ∧ s <:+ text := by
  constructor
  · intro h
    induction text with
    | nil => exact ⟨[], like_run_nil pattern ▸ h, List.suffix_rfl⟩
    | cons d text ih =>
      rw [like_run_cons, Bool.or_eq_true] at h
      rcases h with here | later
      · exact ⟨d :: text, here, List.suffix_rfl⟩
      · obtain ⟨s, like, suffix⟩ := ih later
        exact ⟨s, like, suffix.trans (List.suffix_cons d text)⟩
  · rintro ⟨s, like, suffix⟩
    exact like_run_of_suffix like suffix

/-- The search for a plain text finds what contains it, in either case of ASCII letters. -/
theorem like_searchPattern_iff {v : String} (plain : IsPlainAscii v.toList) (text : List Char) :
    like (searchPattern v).toList text = true ↔ lowerAscii v.toList <:+: lowerAscii text := by
  rw [toList_searchPattern, lowerAfter_eq_lowerAscii plain.lowersInAscii, like_run_iff,
    List.infix_iff_prefix_suffix]
  constructor
  · rintro ⟨s, like, suffix⟩
    exact ⟨lowerAscii s, (like_prefix_iff plain s).mp like, suffix.map Char.toLower⟩
  · rintro ⟨folded, starts, suffix⟩
    obtain ⟨s, ends, rfl⟩ := List.suffix_map_iff.mp suffix
    exact ⟨s, (like_prefix_iff plain s).mpr starts, ends⟩

end Text

/-! ## The filter -/

/-- What the search for a plain text says about a value: a text is found if it contains the text
that is looked for, in either case of ASCII letters. Nothing to look for is found in all values. -/
structure Store.Value.Searched (v : String) (value : Value) (found : Prop) : Prop where
  of_text : ∀ text, value = .text text → '\x00' ∉ text.toList →
    (found ↔ Text.lowerAscii v.toList <:+: Text.lowerAscii text.toList)
  of_empty : v = "" → value ≠ .null → found

/-- What a search does depends on whether the text is found only. -/
theorem Store.Value.Searched.congr {v : String} {value : Value} {found found' : Prop}
    (h : value.Searched v found) (same : found' ↔ found) : value.Searched v found' := by
  constructor
  · intro text own free
    exact same.trans (h.of_text text own free)
  · intro empty present
    exact same.mpr (h.of_empty empty present)

namespace Session

variable {key : FieldKey} {f : Field} {v : String} {dynamic : Bool}

/-- The condition of a search for a plain text says of every record whether its value contains the
text. -/
theorem searched_searchClause (plain : Text.IsPlainAscii v.toList) (s : Store) (w : Record)
    (context : FilterContext) : (cell s w f.column).Searched v
      (s.MeetsPredicate w ((searchClause key false v dynamic).predicate context f)) := by
  constructor
  · intro text value free
    rw [meets_searchClause value free, ← Text.like_searchPattern_iff plain, Bool.false_bne]
  · rintro rfl present
    have compiled : (searchClause key false "" dynamic).condition? context f =
        some (Predicate.contains f.column false "") := rfl
    obtain ⟨text, own⟩ : ∃ text, (cell s w f.column).text? = some text := by
      cases value : cell s w f.column with
      | null => exact absurd value present
      | _ => exact ⟨_, rfl⟩
    rw [Clause.meetsPredicate_iff compiled, Store.meets_contains]
    refine ⟨text, own, ?_⟩
    rw [Bool.false_bne, Text.like_searchPattern_iff plain]
    exact List.nil_infix

/-- A search for a plain text is an exact test, up to the case of ASCII letters: its condition says
so of every record, and an open store finds by it exactly the work packages that it is true of, if
the store takes the pattern. -/
theorem plainSearch_finds (key : FieldKey) (f : Field) (dynamic : Bool)
    (plain : Text.IsPlainAscii v.toList) (free : '\x00' ∉ v.toList) :
    (∀ (s : Store) (w : Record) (context : FilterContext), (cell s w f.column).Searched v
      (s.MeetsPredicate w ((searchClause key false v dynamic).predicate context f))) ∧
    ∀ x : Session, Integrity x.pool.store → x.pool.isOpen = true →
      x.catalog.resolve key = .ok f → (∀ j, f.requiredJoin? = some j → nameable j = true) →
      (Text.searchPattern v).utf8ByteSize ≤ Store.maxPatternBytes →
      ∀ scope : Scope, scope.IsBuiltIn → ∀ project? order, ∃ found : Finset Int,
        x.matching ⟨[searchClause key false v dynamic], project?, scope, order⟩ = .ok found ∧
        ∀ w ∈ x.pool.store.workPackages, scope.Admits x.pool.store w → FromProject project? w →
          (cell x.pool.store w f.column).Searched v (w.id ∈ found) := by
  refine ⟨searched_searchClause plain, ?_⟩
  intro x h opened resolved named short scope builtIn project? order
  obtain ⟨found, foundOk, mem⟩ := matching_singleton h opened builtIn order
    (filterPredicate_of_resolve (c := searchClause key false v dynamic) resolved project?)
    (answerable_searchClause named free short x.filterContext false)
  refine ⟨found, foundOk, ?_⟩
  intro w hw admitted project
  apply (searched_searchClause plain x.pool.store w x.filterContext).congr
  rw [mem w hw]
  exact and_iff_right ⟨admitted, project⟩

/-- Of the two subjects of the sample, the letters `col` stand in one only, in capitals and between
others. -/
theorem plainSearch_finds_searchSession :
    ∃ found : Finset Int,
      searchSession.matching
        ⟨[searchClause (.plain "subject") false "Col" false], none, .all, []⟩ = .ok found ∧
      1 ∈ found ∧ 2 ∉ found := by
  have plain : Text.IsPlainAscii "Col".toList := by decide
  obtain ⟨found, foundOk, each⟩ := (plainSearch_finds (.plain "subject")
    (.plain "subject" .text) false plain (by decide)).2 searchSession
    (Store.reachable_ofRows searchRows).integrity rfl rfl (by rintro j ⟨⟩) (by decide +kernel)
    .all (by rintro sql ⟨⟩) none []
  obtain ⟨first, mem, id, value⟩ : ∃ w ∈ searchSession.pool.store.workPackages, w.id = 1 ∧
      cell searchSession.pool.store w (Field.plain "subject" .text).column = .text "ÉCOLE" := by
    decide +kernel
  obtain ⟨second, mem', id', value'⟩ : ∃ w ∈ searchSession.pool.store.workPackages, w.id = 2 ∧
      cell searchSession.pool.store w (Field.plain "subject" .text).column =
        .text "100%_été" := by
    decide +kernel
  refine ⟨found, foundOk, ?_, ?_⟩
  · rw [← id, (each first mem trivial (by rintro p ⟨⟩)).of_text _ value (by decide)]
    decide
  · rw [← id', (each second mem' trivial (by rintro p ⟨⟩)).of_text _ value' (by decide)]
    decide

end Session

end Worklist
