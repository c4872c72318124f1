import Worklist.Number.Numeral
import Worklist.Number.Layout

/-!
# Numbers as literals

The one text that a binary number has as a filter value and in a condition, and the permissive
reading of a number from the start of a text. Reading undoes writing: the shortest digits read back
as the number, and the reader takes every notation that the writer uses.
-/

set_option autoImplicit false

namespace Worklist.Number

/-- Literals are positional from 0.0001 up to below 10^16, and `1e16` or `1.5e-10` beyond. -/
def literalStyle : NumberStyle := ⟨-4, 15, false, false, 1, true⟩

/-- The literal of a finite number. -/
def Binary64.literal (x : Binary64) : String :=
  String.ofList (x.shortestText literalStyle)

/-- The literal of a number; one that is not finite is written as zero. -/
def Real64.literal : Real64 → String
  | .finite x => x.literal
  | .infinite _ => "0.0"
  | .notANumber => "0.0"

/-- The number nearest to a numeral, if it is not too large. -/
def Numeral.toBinary64? (n : Numeral) : Option Binary64 :=
  Binary64.ofDecimal n.negative n.coefficient n.power

/-- The number at the start of a text: blanks and then the longest numeral. What is no numeral, and
what is too large, reads as zero. -/
def leadingReal (s : List Char) : Binary64 :=
  match Numeral.scan (Text.trimLeft s) with
  | some (n, _) => n.toBinary64?.getD (Binary64.zero false)
  | none => Binary64.zero false

end Worklist.Number
