import Worklist.Proofs.Filter.Decoding
import Worklist.Proofs.Json.Complete

/-!
# Clauses of unknown operators

A text of clauses is parsed as its clauses of known operators, in their order. A clause of any other
operator only leaves a notice, so that it may be put into a list or taken out of it. It counts for
the limits nevertheless: these are checked on the text and on the whole list.
-/

set_option autoImplicit false

namespace Worklist

open Json (Document Tree keyed)

/-- The codes of the operators. -/
def Operator.codes : List String :=
  all.map code

example : Operator.codes =
    ["=", "!", "!*", "*", ">=", "<=", "c", "o", ">t-", "<t-", "t-", ">t+", "<t+", "t+", "t", "w",
      "~", "!~"] :=
  rfl

namespace WireClause

/-- Whether a clause is what a clause on the wire specifies. -/
structure Specifies (w : WireClause) (c : Clause) : Prop where
  field : c.field = w.field
  operator : c.operator.code = w.operator
  values : c.values = w.values.map FilterValue.normalize
  dynamic : c.dynamic = (w.dynamic || w.field.isCustom)

/-- Whether a text is the list of some clauses, with nothing behind it. -/
def ListedIn (wire : List WireClause) (s : String) : Prop :=
  ∃ documents, Document.read s = ⟨.list documents .closed, false⟩ ∧
    List.Forall₂ StandsAs wire documents

/-- Clauses are read from exactly the texts that list them. -/
theorem readDocument_eq_ok_iff {wire : List WireClause} {s : String} :
    Json.readDocument (Tree.asList read) s = .ok wire ↔ ListedIn wire s := by
  rw [Json.readDocument_eq_ok_iff]
  simp only [Tree.asList_eq_ok_iff, read_eq_ok_iff]
  constructor
  · rintro ⟨t, own, documents, rfl, stand⟩
    exact ⟨documents, own, stand.flip⟩
  · rintro ⟨documents, own, stand⟩
    exact ⟨_, own, documents, rfl, stand.flip⟩

/-! ## Clauses and notices -/

/-- The notice that a clause of an unknown operator leaves. -/
def notice (w : WireClause) : Notice :=
  .unknownOperator w.field.text w.operator

/-- A clause with a known operator is resolved to the clause that it specifies. -/
theorem exists_resolve_of_mem {w : WireClause} (known : w.operator ∈ Operator.codes) :
    ∃ c, w.resolve = .inl c ∧ w.Specifies c := by
  obtain ⟨op, -, same⟩ := List.mem_map.mp known
  refine ⟨(Clause.ofValues w.field op w.values).withDynamic w.dynamic, ?_, ⟨rfl, same, rfl, rfl⟩⟩
  unfold resolve
  rw [← same, Operator.ofCode?_code]

/-- A clause with an unknown operator is left out with a notice. -/
theorem resolve_of_not_mem {w : WireClause} (unknown : w.operator ∉ Operator.codes) :
    w.resolve = .inr w.notice := by
  have none : Operator.ofCode? w.operator = none := by
    refine List.find?_eq_none.mpr fun op hop same => unknown ?_
    exact List.mem_map.mpr ⟨op, hop, eq_of_beq same⟩
  unfold resolve
  rw [none]
  rfl

/-- The clauses of a list are those that its members of known operators specify. -/
theorem forall₂_known (wire : List WireClause) :
    List.Forall₂ Specifies (wire.filter fun w => w.operator ∈ Operator.codes)
      (Clause.known (wire.map resolve)) := by
  induction wire with
  | nil => exact .nil
  | cons w wire ih =>
    unfold Clause.known at ih ⊢
    by_cases known : w.operator ∈ Operator.codes
    · obtain ⟨c, resolved, own⟩ := exists_resolve_of_mem known
      rw [List.filter_cons_of_pos (by simpa using known), List.map_cons, resolved]
      exact .cons own ih
    · rw [List.filter_cons_of_neg (by simpa using known), List.map_cons, resolve_of_not_mem known]
      exact ih

/-- The notices of a list are those of its members of unknown operators. -/
theorem notices_map_resolve (wire : List WireClause) :
    Clause.notices (wire.map resolve) =
      (wire.filter fun w => w.operator ∉ Operator.codes).map notice := by
  induction wire with
  | nil => rfl
  | cons w wire ih =>
    unfold Clause.notices at ih ⊢
    by_cases known : w.operator ∈ Operator.codes
    · obtain ⟨c, resolved, -⟩ := exists_resolve_of_mem known
      rw [List.filter_cons_of_neg (by simpa using known), List.map_cons, resolved]
      exact ih
    · rw [List.filter_cons_of_pos (by simpa using known), List.map_cons, List.map_cons,
        resolve_of_not_mem known, ← ih]
      rfl

/-- A member of an unknown operator adds no clause to those of a list. -/
theorem known_append_cons {w : WireClause} (unknown : w.operator ∉ Operator.codes)
    (before after : List WireClause) :
    Clause.known ((before ++ w :: after).map resolve) =
      Clause.known ((before ++ after).map resolve) := by
  unfold Clause.known
  rw [List.map_append, List.map_cons, resolve_of_not_mem unknown, List.map_append,
    List.filterMap_append, List.filterMap_append]
  rfl

end WireClause

namespace Clause

/-- A text within the limits is parsed as its list. -/
theorem parse_of_listedIn {s : String} {wire : List WireClause}
    (small : s.utf8ByteSize ≤ maxFilterBytes) (few : wire.length ≤ maxFilters)
    (listed : WireClause.ListedIn wire s) :
    parse s = .ok (known (wire.map WireClause.resolve), notices (wire.map WireClause.resolve)) := by
  unfold parse
  rw [if_neg (Nat.not_lt.mpr small), WireClause.readDocument_eq_ok_iff.mpr listed]
  exact if_neg (Nat.not_lt.mpr few)

/-- The size of a text is checked first, then that it is a list of clauses, then how many there are.
What passes is parsed as the clauses that the members of known operators specify, in their order,
with a notice for each other member. Of two texts that differ in a member of an unknown operator,
one is parsed as the same clauses as the other. -/
theorem parse_leaves_out_unknown (s : String) :
    (65536 < s.utf8ByteSize → ∃ e, parse s = .error e ∧ e.code = "FILTER_JSON_TOO_LARGE") ∧
    (s.utf8ByteSize ≤ 65536 → (∀ wire, ¬ WireClause.ListedIn wire s) →
      ∃ e, parse s = .error e ∧ e.code = "INVALID_FILTER_JSON") ∧
    ∀ wire, s.utf8ByteSize ≤ 65536 → WireClause.ListedIn wire s →
      (50 < wire.length → ∃ e, parse s = .error e ∧ e.code = "TOO_MANY_FILTERS") ∧
      (wire.length ≤ 50 → ∃ clauses,
        parse s = .ok (clauses,
          (wire.filter fun w => w.operator ∉ Operator.codes).map WireClause.notice) ∧
        List.Forall₂ WireClause.Specifies (wire.filter fun w => w.operator ∈ Operator.codes)
          clauses ∧
        ∀ before w after s', wire = before ++ w :: after → w.operator ∉ Operator.codes →
          s'.utf8ByteSize ≤ 65536 → WireClause.ListedIn (before ++ after) s' →
          ∃ notices, parse s' = .ok (clauses, notices)) := by
  refine ⟨?large, ?malformed, fun wire small listed => ⟨?many, fun few => ?within⟩⟩
  case large =>
    intro large
    exact ⟨.tooLarge, if_pos large, rfl⟩
  case malformed =>
    intro small unlisted
    have read : ∃ fault, Json.readDocument (Tree.asList WireClause.read) s = .error fault := by
      cases own : Json.readDocument (Tree.asList WireClause.read) s with
      | error fault => exact ⟨fault, rfl⟩
      | ok wire => exact absurd (WireClause.readDocument_eq_ok_iff.mp own) (unlisted wire)
    obtain ⟨fault, read⟩ := read
    refine ⟨.malformed fault, ?_, rfl⟩
    unfold parse
    rw [if_neg (show ¬ maxFilterBytes < _ from Nat.not_lt.mpr small), read]
  case many =>
    intro many
    refine ⟨.tooMany, ?_, rfl⟩
    unfold parse
    rw [if_neg (show ¬ maxFilterBytes < _ from Nat.not_lt.mpr small),
      WireClause.readDocument_eq_ok_iff.mpr listed]
    exact if_pos many
  case within =>
    refine ⟨known (wire.map WireClause.resolve), ?parsed, WireClause.forall₂_known wire, ?other⟩
    case parsed => rw [parse_of_listedIn small few listed, WireClause.notices_map_resolve]
    case other =>
      rintro before w after s' rfl unknown small' listed'
      have fewer : (before ++ after).length ≤ 50 := by
        simp only [List.length_append, List.length_cons] at few ⊢
        omega
      rw [WireClause.known_append_cons unknown]
      exact ⟨_, parse_of_listedIn small' fewer listed'⟩

/-- The text of a list of documents. -/
def textOf (documents : List Tree) : String :=
  (Tree.list documents .closed).write

/-- The text of documents lists the clauses that stand as them. -/
theorem listedIn_textOf {wire : List WireClause} {documents : List Tree}
    (complete : (Tree.list documents .closed).isComplete = true)
    (writable : ∀ t ∈ (Tree.list documents .closed).tokens, t.isWritable = true)
    (stand : List.Forall₂ WireClause.StandsAs wire documents) :
    WireClause.ListedIn wire (textOf documents) :=
  ⟨documents, Document.read_write complete writable, stand⟩

/-- An object of a clause with a member that means nothing. -/
def knownDocument : Tree :=
  .object (keyed [("operator", .text (.ok "=")), ("note", .null), ("field", .text (.ok "subject")),
    ("values", .list [.text (.ok "a"), .number (.ok (.natural 7))] .closed)]) .closed

/-- The clause of this object. -/
def knownWire : WireClause :=
  ⟨.plain "subject", "=", [.text "a", .int 7], false⟩

/-- A list of a clause of an unknown operator. -/
def unknownDocument : Tree :=
  .list [.text (.ok "assignee"), .text (.ok "??")] .closed

/-- The clause of this list. -/
def unknownWire : WireClause :=
  ⟨.plain "assignee", "??", [], false⟩

/-- The sample clause with a known operator stands as its document. -/
theorem standsAs_knownDocument : knownWire.StandsAs knownDocument := by
  have values : WireClause.ValuesStandAs [.text "a", .int 7]
      (.list [.text (.ok "a"), .number (.ok (.natural 7))] .closed) :=
    ⟨_, rfl, .cons (.text "a") (.cons (.natural (by decide)) .nil)⟩
  refine .object ⟨⟨"subject", rfl, by decide⟩, rfl, .inr ⟨_, rfl, values⟩, .inl ⟨rfl, rfl⟩, ?_⟩
  decide

/-- The sample clause with an unknown operator stands as its document. -/
theorem standsAs_unknownDocument : unknownWire.StandsAs unknownDocument := by
  have own : FieldKey.parse "assignee" = .plain "assignee" := by decide
  have := WireClause.StandsAs.two "assignee" "??"
  rw [own] at this
  exact this

/-- A text of blanks has one byte for each of them. -/
theorem utf8ByteSize_blanks (n : Nat) :
    (String.ofList (List.replicate n ' ')).utf8ByteSize = n := by
  rw [String.utf8ByteSize_ofList]
  induction n with
  | zero => rfl
  | succ n ih =>
    rw [List.replicate_succ, String.utf8Len_cons, ih]
    rfl

/-- The text of the missing value lists no clauses. -/
theorem not_listedIn_null (wire : List WireClause) :
    ¬ WireClause.ListedIn wire Tree.null.write := by
  rintro ⟨documents, own, -⟩
  cases (Document.read_write rfl (by decide)).symm.trans own

/-- The clause of an unknown operator is left out with a notice, and nothing else changes without
it; more than fifty are too many although none is known; and what is no list, or too large, is
refused first. -/
theorem parse_leaves_out_unknown_samples :
    (∃ clauses notices,
      parse (textOf [knownDocument, unknownDocument]) = .ok (clauses, [unknownWire.notice]) ∧
      List.Forall₂ WireClause.Specifies [knownWire] clauses ∧
      parse (textOf [knownDocument]) = .ok (clauses, notices)) ∧
    (∃ e, parse (textOf (List.replicate 51 unknownDocument)) = .error e ∧
      e.code = "TOO_MANY_FILTERS") ∧
    (∃ e, parse Tree.null.write = .error e ∧ e.code = "INVALID_FILTER_JSON") ∧
    ∃ e, parse (String.ofList (List.replicate 65537 ' ')) = .error e ∧
      e.code = "FILTER_JSON_TOO_LARGE" := by
  refine ⟨?within, ?many, ?malformed, ?large⟩
  case within =>
    have both : WireClause.ListedIn [knownWire, unknownWire]
        (textOf [knownDocument, unknownDocument]) :=
      listedIn_textOf rfl (by decide) (.cons standsAs_knownDocument
        (.cons standsAs_unknownDocument .nil))
    have single : WireClause.ListedIn [knownWire] (textOf [knownDocument]) :=
      listedIn_textOf rfl (by decide) (.cons standsAs_knownDocument .nil)
    obtain ⟨clauses, parsed, own, same⟩ :=
      ((parse_leaves_out_unknown _).2.2 _ (by decide +kernel) both).2 (by decide)
    obtain ⟨notices, alone⟩ :=
      same [knownWire] unknownWire [] _ rfl (by decide) (by decide +kernel) single
    exact ⟨clauses, notices, parsed, own, alone⟩
  case many =>
    have stand (n : Nat) : List.Forall₂ WireClause.StandsAs (List.replicate n unknownWire)
        (List.replicate n unknownDocument) := by
      induction n with
      | zero => exact .nil
      | succ n ih => exact .cons standsAs_unknownDocument ih
    have listed : WireClause.ListedIn (List.replicate 51 unknownWire)
        (textOf (List.replicate 51 unknownDocument)) :=
      listedIn_textOf (by decide +kernel) (by decide +kernel) (stand 51)
    exact ((parse_leaves_out_unknown _).2.2 _ (by decide +kernel) listed).1 (by decide)
  case malformed => exact (parse_leaves_out_unknown _).2.1 (by decide) not_listedIn_null
  case large =>
    exact (parse_leaves_out_unknown _).1 (by rw [utf8ByteSize_blanks]; decide)

end Clause

end Worklist
