import Worklist.Proofs.Query.Accepted
import Worklist.Proofs.Store.Equality

/-!
# Filters that look for a text

A filter that looks for a text finds it wherever it stands in a value, wildcards in it included, if
lower case changes no letter of it but those of ASCII. With a capital letter of another script the
filter does not even find the text in a value that is the text itself, and the opposite filter does.
-/

set_option autoImplicit false

namespace Worklist

open Store (Integrity Table cell nameable)

/-- A text without U+0000 is compared with a pattern as it is. -/
theorem Store.patternText_eq_toList {text : String} (h : '\x00' ∉ text.toList) :
    patternText text = text.toList := by
  apply List.takeWhile_eq_self_iff.mpr
  intro c hc
  rw [bne_iff_ne]
  rintro rfl
  exact h hc

namespace Session

variable {x : Session} {key : FieldKey} {f : Field} {v : String} {dynamic : Bool}

/-- The clause that looks for a text, or for values without it. -/
def searchClause (key : FieldKey) (negated : Bool) (v : String) (dynamic : Bool) : Clause :=
  ⟨key, if negated then .notContains else .contains, [v], dynamic⟩

/-- A clause that looks for a text is true of a work package with a text according to the pattern of
the search. -/
theorem meets_searchClause {s : Store} {w : Store.Record} {context : FilterContext} {text : String}
    (value : cell s w f.column = .text text) (free : '\x00' ∉ text.toList) (negated : Bool) :
    s.MeetsPredicate w ((searchClause key negated v dynamic).predicate context f) ↔
      (negated != Text.like (Text.searchPattern v).toList text.toList) = true := by
  have compiled : (searchClause key negated v dynamic).condition? context f =
      some (Predicate.contains f.column negated v) := by
    cases negated <;> rfl
  rw [Clause.meetsPredicate_iff compiled, Store.meets_contains, value]
  constructor
  · rintro ⟨own, same, found⟩
    rwa [← Option.some.inj same, Store.patternText_eq_toList free] at found
  · intro found
    refine ⟨text, rfl, ?_⟩
    rwa [Store.patternText_eq_toList free]

/-- A store can answer the search for a text that is free of U+0000 and not too long. -/
theorem answerable_searchClause (named : ∀ j, f.requiredJoin? = some j → nameable j = true)
    (free : '\x00' ∉ v.toList)
    (short : (Text.searchPattern v).utf8ByteSize ≤ Store.maxPatternBytes)
    (context : FilterContext) (negated : Bool) :
    ((searchClause key negated v dynamic).predicate context f).Answerable := by
  apply Clause.answerable
  · cases negated <;> simp [searchClause, Operator.paired]
  · intro text mem
    rwa [List.mem_singleton.mp mem]
  · intro pattern own
    have same : (searchClause key negated v dynamic).pattern? = some (Text.searchPattern v) := by
      cases negated <;> rfl
    rw [same] at own
    rwa [← Option.some.inj own]
  · exact named

/-- A search for a text that lower case changes in ASCII only finds the text wherever it stands. A
search for another text does not find it in a value that is the text itself. -/
theorem search_finds (h : Integrity x.pool.store) (opened : x.pool.isOpen = true)
    (resolved : x.catalog.resolve key = .ok f)
    (named : ∀ j, f.requiredJoin? = some j → nameable j = true) (free : '\x00' ∉ v.toList)
    (short : (Text.searchPattern v).utf8ByteSize ≤ Store.maxPatternBytes) {scope : Scope}
    (builtIn : scope.IsBuiltIn) (project? : Option Int) (order : List SortKey) :
    ∃ found others : Finset Int,
      x.matching ⟨[searchClause key false v dynamic], project?, scope, order⟩ = .ok found ∧
      x.matching ⟨[searchClause key true v dynamic], project?, scope, order⟩ = .ok others ∧
      ∀ w ∈ x.pool.store.workPackages, scope.Admits x.pool.store w → FromProject project? w →
        ∀ text, cell x.pool.store w f.column = .text text → '\x00' ∉ text.toList →
          (v.toList <:+: text.toList → Text.LowersInAscii v.toList →
            w.id ∈ found ∧ w.id ∉ others) ∧
          (text = v →
            (w.id ∈ found ↔ Text.LowersInAscii v.toList) ∧
            (w.id ∈ others ↔ ¬Text.LowersInAscii v.toList)) := by
  have predicate (negated : Bool) :
      x.filterPredicate project? (searchClause key negated v dynamic) =
        .ok ((searchClause key negated v dynamic).predicate x.filterContext f) :=
    filterPredicate_of_resolve resolved project?
  have answer (negated : Bool) := matching_singleton h opened builtIn order (predicate negated)
    (answerable_searchClause named free short x.filterContext negated)
  obtain ⟨found, foundOk, memFound⟩ := answer false
  obtain ⟨others, othersOk, memOthers⟩ := answer true
  refine ⟨found, others, foundOk, othersOk, ?_⟩
  intro w hw admitted project text value clean
  have visible := And.intro admitted project
  have inFound : w.id ∈ found ↔
      Text.like (Text.searchPattern v).toList text.toList = true := by
    rw [memFound w hw, and_iff_right visible, meets_searchClause value clean]
    simp
  have inOthers : w.id ∈ others ↔
      ¬Text.like (Text.searchPattern v).toList text.toList = true := by
    rw [memOthers w hw, and_iff_right visible, meets_searchClause value clean]
    simp
  constructor
  · intro occurs ascii
    rw [inFound, inOthers]
    have like := Text.like_searchPattern_of_infix ascii occurs
    exact ⟨like, not_not.mpr like⟩
  · rintro rfl
    -- the text itself has no occurrence but the whole, so its letters decide both ways
    rw [inFound, inOthers, Text.like_searchPattern_self_iff]
    exact ⟨Iff.rfl, Iff.rfl⟩

end Session

/-! ## A sample -/

/-- Two work packages, with a capital letter and with small letters beyond ASCII. -/
def searchRows : List (Table × Store.NewRow) :=
  [(.projects, [("name", .text "one")]),
    (.workPackages, [("project_id", .int 1), ("subject", .text "ÉCOLE"),
      ("created_at", .text "2024-01-01"), ("updated_at", .text "2024-01-01")]),
    (.workPackages, [("project_id", .int 1), ("subject", .text "100%_été"),
      ("created_at", .text "2024-01-02"), ("updated_at", .text "2024-01-02")])]

/-- A session on the store of these rows. -/
def searchSession : Session :=
  ⟨.ofStore (Store.ofRows searchRows), .lookingUp, ⟨[]⟩, .initial, .first⟩

namespace Session

/-- A text with wildcards and a small letter beyond ASCII is found where it stands. -/
theorem search_finds_searchSession :
    ∃ found others : Finset Int,
      searchSession.matching
        ⟨[searchClause (.plain "subject") false "%_é" false], none, .all, []⟩ = .ok found ∧
      searchSession.matching
        ⟨[searchClause (.plain "subject") true "%_é" false], none, .all, []⟩ = .ok others ∧
      (2 ∈ found ∧ 2 ∉ others) := by
  have resolved : searchSession.catalog.resolve (.plain "subject") =
      .ok (.plain "subject" .text) := rfl
  have free : '\x00' ∉ "%_é".toList := by decide
  have builtIn : Scope.IsBuiltIn .all := by rintro sql ⟨⟩
  obtain ⟨found, others, foundOk, othersOk, each⟩ := search_finds
    (Store.reachable_ofRows searchRows).integrity rfl resolved (by rintro j ⟨⟩) free
    (by decide +kernel) builtIn none []
  refine ⟨found, others, foundOk, othersOk, ?_⟩
  obtain ⟨w, mem, id, value⟩ : ∃ w ∈ searchSession.pool.store.workPackages, w.id = 2 ∧
      cell searchSession.pool.store w (Field.plain "subject" .text).column =
        .text "100%_été" := by
    decide +kernel
  have occurs : "%_é".toList <:+: "100%_été".toList := by decide
  rw [← id]
  exact (each w mem trivial (by rintro p ⟨⟩) "100%_été" value (by decide)).1 occurs
    (by decide +kernel)

/-- A search for the subject of a work package does not find it, because of its capital letter. -/
theorem count_searchClause_searchSession :
    (∃ w ∈ searchSession.pool.store.workPackages,
      cell searchSession.pool.store w (Field.plain "subject" .text).column = .text "ÉCOLE") ∧
    (searchSession.count ⟨[searchClause (.plain "subject") false "ÉCOLE" false],
      none, .all, []⟩).result = .ok 0 ∧
    (searchSession.count ⟨[searchClause (.plain "subject") true "ÉCOLE" false],
      none, .all, []⟩).result = .ok 2 := by
  refine ⟨?_, ?_, ?_⟩
  · decide +kernel
  · decide +kernel
  · decide +kernel

end Session

end Worklist
