import Worklist.Text.Lowercase

/-!
# Texts that are like a pattern

In a pattern, `%` stands for any run of characters and `_` for any one character; every other
character stands for itself, in either case if it is an ASCII letter. No character takes these
meanings away. `like` decides a pattern for all ends of the text at once, from the last character of
the pattern to its first.
-/

set_option autoImplicit false

namespace Worklist.Text

/-- The character under which a character is compared. The two characters at the end of the basic
plane, which no text should have, count as the replacement character. -/
def likeKey (c : Char) : Char :=
  if c = '\ufffe' ∨ c = '\uffff' then '\ufffd' else c.toLower

/-- For each end of a list, whether it or a later one has the mark. -/
def markedLater (marks : List Bool) : List Bool :=
  marks.foldr (fun b rest => (b || rest.headD false) :: rest) []

/-- For each end of a text, the longest first and the empty one last, whether it is like a pattern
of which `c` is the first character and `next` tells the same for the others. -/
def likeStep (text : List Char) (c : Char) (next : List Bool) : List Bool :=
  if c = '%' then markedLater next
  else if c = '_' then next.tail ++ [false]
  else List.zipWith (fun d b => likeKey c == likeKey d && b) text next.tail ++ [false]

/-- For each end of a text, the longest first, whether it is like a pattern. -/
def likeEnds (pattern text : List Char) : List Bool :=
  pattern.foldr (likeStep text) (text.map (fun _ => false) ++ [true])

/-- Whether a text is like a pattern. -/
def like (pattern text : List Char) : Bool :=
  (likeEnds pattern text).headD false

/-- Marks of a list and of its ends. -/
theorem markedLater_cons (b : Bool) (marks : List Bool) :
    markedLater (b :: marks) = (b || (markedLater marks).headD false) :: markedLater marks := rfl

/-- A pattern is decided by its first character and the decisions for the others. -/
theorem likeEnds_cons (c : Char) (pattern text : List Char) :
    likeEnds (c :: pattern) text = likeStep text c (likeEnds pattern text) := rfl

/-- Every text has an end, if only the empty one. -/
theorem likeEnds_ne_nil (pattern text : List Char) : likeEnds pattern text ≠ [] := by
  induction pattern with
  | nil => simp [likeEnds]
  | cons c pattern ih =>
    rw [likeEnds_cons]
    unfold likeStep
    split
    · cases h : likeEnds pattern text with
      | nil => exact absurd h ih
      | cons b marks => simp [markedLater_cons]
    · split <;> simp

/-- The ends of a longer text are the text itself and the ends of the shorter one. -/
theorem likeEnds_text_cons (pattern : List Char) (d : Char) (text : List Char) :
    likeEnds pattern (d :: text) = like pattern (d :: text) :: likeEnds pattern text := by
  have tail_eq : (likeEnds pattern (d :: text)).tail = likeEnds pattern text := by
    induction pattern with
    | nil => rfl
    | cons c pattern ih =>
      obtain ⟨x, xs, hx⟩ := List.exists_cons_of_ne_nil (likeEnds_ne_nil pattern (d :: text))
      obtain ⟨y, ys, hy⟩ := List.exists_cons_of_ne_nil (likeEnds_ne_nil pattern text)
      have hxs : xs = y :: ys := by rw [← hy, ← ih, hx, List.tail_cons]
      rw [likeEnds_cons, likeEnds_cons, hx, hy, hxs]
      unfold likeStep
      split
      · rw [markedLater_cons, List.tail_cons]
      · split
        · simp
        · simp
  obtain ⟨x, xs, hx⟩ := List.exists_cons_of_ne_nil (likeEnds_ne_nil pattern (d :: text))
  rw [hx, List.tail_cons] at tail_eq
  rw [like, hx, tail_eq, List.headD_cons]

/-- The empty pattern is that of the empty text. -/
theorem like_nil (text : List Char) : like [] text = text.isEmpty := by
  cases text <;> rfl

/-- A run is empty, or it takes up one more character. -/
theorem like_run_cons (pattern : List Char) (d : Char) (text : List Char) :
    like ('%' :: pattern) (d :: text) =
      (like pattern (d :: text) || like ('%' :: pattern) text) := by
  rw [like, likeEnds_cons, likeStep, if_pos rfl, likeEnds_text_cons, markedLater_cons,
    List.headD_cons]
  rfl

/-- The empty text has no end but itself. -/
theorem likeEnds_empty (pattern : List Char) : likeEnds pattern [] = [like pattern []] := by
  have single : ∃ b, likeEnds pattern [] = [b] := by
    induction pattern with
    | nil => exact ⟨true, rfl⟩
    | cons c pattern ih =>
      obtain ⟨b, hb⟩ := ih
      rw [likeEnds_cons, hb]
      unfold likeStep
      split
      · exact ⟨_, rfl⟩
      · split <;> exact ⟨_, rfl⟩
  obtain ⟨b, hb⟩ := single
  rw [like, hb, List.headD_cons]

/-- At the end of a text a run is empty. -/
theorem like_run_nil (pattern : List Char) : like ('%' :: pattern) [] = like pattern [] := by
  rw [like, likeEnds_cons, likeStep, if_pos rfl, likeEnds_empty]
  simp [markedLater]

/-- The sign for one character takes up one. -/
theorem like_one_cons (pattern : List Char) (d : Char) (text : List Char) :
    like ('_' :: pattern) (d :: text) = like pattern text := by
  obtain ⟨y, ys, hy⟩ := List.exists_cons_of_ne_nil (likeEnds_ne_nil pattern text)
  rw [like, likeEnds_cons, likeStep, if_neg (by decide), if_pos rfl, likeEnds_text_cons,
    List.tail_cons, like, hy]
  rfl

/-- Any other character takes up one that is compared as it is. -/
theorem like_char_cons {c : Char} (hrun : c ≠ '%') (hone : c ≠ '_') (pattern : List Char)
    (d : Char) (text : List Char) :
    like (c :: pattern) (d :: text) = (likeKey c == likeKey d && like pattern text) := by
  obtain ⟨y, ys, hy⟩ := List.exists_cons_of_ne_nil (likeEnds_ne_nil pattern text)
  rw [like, likeEnds_cons, likeStep, if_neg hrun, if_neg hone, likeEnds_text_cons,
    List.tail_cons, like, hy]
  rfl

/-- At the end of a text nothing but a run is left to be found. -/
theorem like_cons_nil {c : Char} (hrun : c ≠ '%') (pattern : List Char) :
    like (c :: pattern) [] = false := by
  rw [like, likeEnds_cons, likeStep, if_neg hrun, likeEnds_empty]
  split <;> rfl

end Worklist.Text
