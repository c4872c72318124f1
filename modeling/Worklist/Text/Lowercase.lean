import Worklist.Text.LetterCase

/-!
# Lower case

The lower case of a text in every script. Two letters need more than a character table: the capital
I with a dot becomes two characters, and a capital sigma becomes a final sigma at the end of a word,
that is, where a letter with case stands before it and none after it.
-/

set_option autoImplicit false

namespace Worklist.Text

/-- Whether a character is a letter with case. -/
def isCased (c : Char) : Bool :=
  inRanges casedRanges c.toNat

/-- Whether a character is looked through when the letters of a word are sought. -/
def isCaseIgnorable (c : Char) : Bool :=
  inRanges caseIgnorableRanges c.toNat

/-- The lower case of a character on its own. -/
def lowerChar (c : Char) : List Char :=
  let n := c.toNat
  if n < 0x80 then [c.toLower]
  else if n = 0x130 then ['i', '\u0307']
  else
    match lowercaseRuns.find? fun r => r.first ≤ n && n ≤ r.last && (n - r.first) % r.step == 0 with
    | some r => [Char.ofNat (n + r.distance).toNat]
    | none => [c]

/-- Whether the first character that is not looked through is a letter with case. -/
def meetsCased (s : List Char) : Bool :=
  match s.dropWhile isCaseIgnorable with
  | [] => false
  | c :: _ => isCased c

/-- The lower case of a text; `before` holds the characters in front of it, the nearest first. -/
def lowerAfter (before : List Char) : List Char → List Char
  | [] => []
  | c :: rest =>
    let lower :=
      if c = 'Σ' then [if meetsCased before && !meetsCased rest then 'ς' else 'σ']
      else lowerChar c
    lower ++ lowerAfter (c :: before) rest

/-- The lower case of a text. -/
def lowercase (s : String) : String :=
  String.ofList (lowerAfter [] s.toList)

/-- The lower case of ASCII letters alone, which is how the store folds letters. -/
def lowerAscii (s : List Char) : List Char :=
  s.map Char.toLower

end Worklist.Text
