/-!
# Blank characters

Which characters count as blank, and how blanks are cut from the ends of a text. The class is the
Unicode property `White_Space`, which is wider than ASCII blanks: it holds the no-break space and
the ideographic space, and it does not hold the zero-width space.
-/

set_option autoImplicit false

namespace Worklist.Text

/-- A blank is a character with the Unicode property `White_Space`. -/
def isBlank (c : Char) : Bool :=
  let n := c.toNat
  (9 ≤ n && n ≤ 13) || n == 0x20 || n == 0x85 || n == 0xA0 || n == 0x1680 ||
    (0x2000 ≤ n && n ≤ 0x200A) || n == 0x2028 || n == 0x2029 || n == 0x202F ||
    n == 0x205F || n == 0x3000

/-- The text without the blanks at its start. -/
def trimLeft (s : List Char) : List Char :=
  s.dropWhile isBlank

/-- The text without the blanks at either end. -/
def trim (s : List Char) : List Char :=
  ((trimLeft s).reverse.dropWhile isBlank).reverse

/-- Cutting leading blanks leaves a text that does not start with one. -/
theorem isBlank_of_trimLeft_eq_cons {s r : List Char} {c : Char} (h : trimLeft s = c :: r) :
    isBlank c = false := by
  have := List.head?_dropWhile_not isBlank s
  unfold trimLeft at h
  rw [h] at this
  simpa using this

end Worklist.Text
