import Worklist.Names
import Worklist.Proofs.Json.Complete
import Worklist.Proofs.Number.Decimal

/-!
# Keys and their texts

A key is written as text and read from it. Several texts are one custom field, and only one of them
is written for it; the name of an attribute is its own text. An attribute is never written like a
custom field: a text that reads as an identifier after `cf_` is no name of an attribute to begin
with. So a key that was read once is read from its own text from then on, and two such keys are the
same if their texts are.
-/

set_option autoImplicit false

namespace Worklist.FieldKey

open Number (isInt64)

/-- The key of a custom field is a prefix and the decimal number of the field. -/
theorem toList_text_custom (id : Int) :
    (custom id).text.toList = 'c' :: 'f' :: '_' :: (Number.decimal id).toList :=
  String.toList_append

/-- The key of a custom field with a number of the range is read back as that field. -/
theorem parse_text_custom {id : Int} (wide : isInt64 id = true) :
    parse (custom id).text = custom id := by
  unfold parse
  rw [toList_text_custom]
  simp only [Number.readInt64?_decimal wide]

/-- A key that is read is the text as the name of an attribute, or an identifier of 64 bits. -/
theorem parse_cases (s : String) :
    parse s = plain s ∨ ∃ id, isInt64 id = true ∧ parse s = custom id := by
  unfold parse
  split
  · rename_i rest _
    cases read : Number.readInt64? rest with
    | none => exact Or.inl rfl
    | some id => exact Or.inr ⟨id, Number.isInt64_of_readInt64? read, rfl⟩
  · exact Or.inl rfl

/-- A key that was read once is read from its text. -/
theorem parse_text_parse (s : String) : parse (parse s).text = parse s := by
  rcases parse_cases s with name | ⟨id, wide, identifier⟩
  · rw [name]
    exact name
  · rw [identifier]
    exact parse_text_custom wide

/-- The text of a key that was read says which one it is. -/
theorem parse_eq_iff (s t : String) : parse s = parse t ↔ (parse s).text = (parse t).text := by
  constructor
  · exact congrArg text
  · intro same
    rw [← parse_text_parse s, same, parse_text_parse t]

/-- The document of a key is read as its text is. -/
theorem readDocument_json (k : FieldKey) :
    Json.readDocument ofTree k.json = .ok (parse k.text) := by
  have written : k.json.toList = [Json.Token.text (.ok k.text)].flatMap Json.Token.write :=
    (List.flatMap_singleton _ _).symm
  have laid : Json.Laid k.json.toList (Json.Tree.text (.ok k.text)).tokens := by
    rw [written]
    exact Json.laid_write (List.forall_mem_singleton.mpr rfl)
  rw [Json.readDocument_laid _ rfl laid]
  rfl

/-- A key that was read once is read from its text and from its document, and so is every custom
field with an identifier of 64 bits; two such keys are the same if their texts are. The texts
themselves may differ: a sign and zeros in front of an identifier are not kept. -/
theorem parse_stable :
    (∀ s, parse (parse s).text = parse s) ∧
    (∀ id, isInt64 id = true → parse (custom id).text = custom id) ∧
    (∀ s t, parse s = parse t ↔ (parse s).text = (parse t).text) ∧
    (∀ s, Json.readDocument ofTree (parse s).json = .ok (parse s)) ∧
    parse "cf_7" = custom 7 ∧ parse "cf_+7" = custom 7 ∧ parse "cf_007" = custom 7 := by
  refine ⟨parse_text_parse, fun id wide => parse_text_custom wide, parse_eq_iff, fun s => ?_, ?_⟩
  · rw [readDocument_json, parse_text_parse]
  · decide

/-- The least identifier is read from its text. -/
theorem parse_stable_minInt64 :
    isInt64 Number.minInt64 = true ∧
      parse (custom Number.minInt64).text = custom Number.minInt64 :=
  ⟨by decide, parse_stable.2.1 _ (by decide)⟩

end Worklist.FieldKey
