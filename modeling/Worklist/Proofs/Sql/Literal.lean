import Mathlib.Tactic.SplitIfs
import Worklist.Sql.Dialect

/-!
# Reading literals

How a database reads the literal of a text. Behind the opening quote two quotes are one, and a quote
alone ends the literal; every other character stands for itself. MySQL gives a backslash a meaning
too, together with the character behind it.

A dialect writes a text as a literal that its database reads as this text, and it reads no further
than the literal goes, unless a quote follows.
-/

set_option autoImplicit false

namespace Worklist.Sql.Dialect

/-! ## The reader -/

/-- What a backslash stands for, together with the character behind it. -/
def backslashed : Char → List Char
  | '0' => ['\x00']
  | 'b' => ['\x08']
  | 'n' => ['\n']
  | 'r' => ['\r']
  | 't' => ['\t']
  | 'Z' => ['\x1a']
  | '%' => ['\\', '%']
  | '_' => ['\\', '_']
  | c => [c]

/-- A reading with some more characters in front of what was read. -/
def readAfter (content : List Char) (reading? : Option (List Char × List Char)) :
    Option (List Char × List Char) :=
  reading?.map fun reading => (content ++ reading.1, reading.2)

/-- Reads a literal behind its opening quote: what it stands for, and what follows it. A literal
without an end is none. -/
def readContent? (d : Dialect) : List Char → Option (List Char × List Char)
  | [] => none
  | '\'' :: '\'' :: rest => readAfter ['\''] (d.readContent? rest)
  | '\'' :: rest => some ([], rest)
  | '\\' :: c :: rest =>
    if d = .mysql then readAfter (backslashed c) (d.readContent? rest)
    else readAfter ['\\'] (d.readContent? (c :: rest))
  | c :: rest => readAfter [c] (d.readContent? rest)

/-- Reads the literal at the start of a text: what it stands for, and what follows it. -/
def readLiteral? (d : Dialect) (s : String) : Option (String × String) :=
  match s.toList with
  | '\'' :: rest =>
    (d.readContent? rest).map fun reading => (String.ofList reading.1, String.ofList reading.2)
  | _ => none

variable {d : Dialect}

/-- Putting one text and then another before what is read puts both of them before it. -/
theorem readAfter_readAfter (s t : List Char) (reading? : Option (List Char × List Char)) :
    readAfter s (readAfter t reading?) = readAfter (s ++ t) reading? := by
  cases reading? with
  | none => rfl
  | some reading => simp [readAfter]

/-- A character without a meaning of its own stands for itself. -/
theorem readContent?_plain {c : Char} (quote : c ≠ '\'') (slash : ¬(d = .mysql ∧ c = '\\'))
    (rest : List Char) : d.readContent? (c :: rest) = readAfter [c] (d.readContent? rest) := by
  by_cases same : c = '\\'
  · rw [same] at slash ⊢
    cases rest with
    | nil => rfl
    | cons e rest => exact if_neg fun dialect => slash ⟨dialect, rfl⟩
  · rw [readContent?]
    · exact fun _ own _ => quote own
    · exact quote
    · exact fun _ _ own _ => same own

/-- A quote ends a literal if no other quote follows it. -/
theorem readContent?_end {rest : List Char} (apart : rest.head? ≠ some '\'') :
    d.readContent? ('\'' :: rest) = some ([], rest) := by
  rw [readContent?]
  rintro e rfl
  exact apart rfl

/-- Whatever characters a literal is written with, they are read as those of the text. -/
theorem readContent?_escape (s rest : List Char) :
    d.readContent? (d.escape s ++ rest) = readAfter s (d.readContent? rest) := by
  induction s with
  | nil =>
    show d.readContent? rest = _
    cases d.readContent? rest <;> rfl
  | cons c s ih =>
    have one : d.readContent? (d.escapeChar c ++ (d.escape s ++ rest)) =
        readAfter [c] (d.readContent? (d.escape s ++ rest)) := by
      unfold escapeChar
      split_ifs with quote slash
      · rw [quote]
        rfl
      · obtain ⟨rfl, rfl⟩ := slash
        rfl
      · exact readContent?_plain quote slash _
    have split : d.escape (c :: s) ++ rest = d.escapeChar c ++ (d.escape s ++ rest) := by
      rw [escape, List.flatMap_cons, List.append_assoc]
      rfl
    rw [split, one, ih, readAfter_readAfter]
    rfl

/-- A literal is read behind its opening quote as its characters and a quote. -/
theorem readLiteral?_literal (s rest : String) :
    d.readLiteral? (d.literal s ++ rest) =
      (readAfter s.toList (d.readContent? ('\'' :: rest.toList))).map fun reading =>
        (String.ofList reading.1, String.ofList reading.2) := by
  have chars : (d.literal s ++ rest).toList =
      '\'' :: (d.escape s.toList ++ '\'' :: rest.toList) := by
    unfold literal quoteText
    simp
  unfold readLiteral?
  rw [chars, ← readContent?_escape]
  rfl

/-- In every dialect the literal of a text is read as the text, up to the end of the literal and no
further, exactly where no quote follows it. -/
theorem readLiteral?_literal_iff (d : Dialect) (s rest : String) :
    d.readLiteral? (d.literal s ++ rest) = some (s, rest) ↔ rest.toList.head? ≠ some '\'' := by
  rw [readLiteral?_literal]
  constructor
  · intro read quoted
    obtain ⟨more, follows⟩ := List.head?_eq_some_iff.mp quoted
    -- two quotes in a row are one, so the text that is read is longer
    have longer : d.readContent? ('\'' :: rest.toList) =
        readAfter ['\''] (d.readContent? more) := by
      rw [follows]
      rfl
    rw [longer, readAfter_readAfter] at read
    obtain ⟨⟨content, left⟩, own, same⟩ := Option.map_eq_some_iff.mp read
    obtain ⟨⟨content', left'⟩, -, own⟩ := Option.map_eq_some_iff.mp own
    have text := congrArg String.toList (Prod.mk.inj same).1
    rw [← (Prod.mk.inj own).1, String.toList_ofList] at text
    have length := congrArg List.length text
    simp at length
  · intro apart
    rw [readContent?_end apart]
    simp [readAfter]

/-- A backslash at the end of a text does not reach the quote behind it. -/
example : readLiteral? .mysql "'x\\\\' OR 1=1" = some ("x\\", " OR 1=1") := by
  decide +kernel

/-! ## Writing in two passes -/

/-- A text with one of the characters written twice. -/
def doubled (c : Char) (s : List Char) : List Char :=
  s.flatMap fun e => if e = c then [c, c] else [e]

/-- A literal is written by doubling the backslashes, where they have a meaning, and then the
quotes. -/
theorem escape_eq_doubled (d : Dialect) (s : List Char) :
    d.escape s = doubled '\'' (if d = .mysql then doubled '\\' s else s) := by
  unfold escape doubled
  split_ifs with dialect
  · rw [List.flatMap_assoc]
    congr 1
    funext c
    unfold escapeChar
    by_cases quote : c = '\''
    · simp [quote]
    · by_cases slash : c = '\\' <;> simp [quote, slash, dialect]
  · congr 1
    funext c
    unfold escapeChar
    by_cases quote : c = '\'' <;> simp [quote, dialect]

end Worklist.Sql.Dialect
