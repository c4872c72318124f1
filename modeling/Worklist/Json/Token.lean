import Worklist.Json.Numeric

/-!
# Tokens of JSON text

A JSON text is cut into tokens up to its end or to the first place where no token can be finished.
What a token is broken for depends on whether its value is kept or skipped, since a skipped value is
looked at less closely: an unpaired surrogate in a skipped text is no fault, and a skipped number is
never too large. `Flaw` holds both answers.
-/

set_option autoImplicit false

namespace Worklist.Json

/-- What is wrong with a value for a reader that keeps it and for one that skips it. -/
structure Flaw where
  kept : Fault
  skipped : Fault
  deriving DecidableEq

/-- The flaw that keeping and skipping readers see alike. -/
def Flaw.both (f : Fault) : Flaw := ⟨f, f⟩

/-- What a value that breaks off began as. -/
inductive Break where
  /-- Nothing stands there at all. -/
  | absent
  | text
  | null
  | other
  deriving DecidableEq, Repr

/-- A token. The value of a text or a number may be at fault for a reader that keeps it while the
token itself is complete. -/
inductive Token where
  | openList
  | closeList
  | openObject
  | closeObject
  | comma
  | colon
  | null
  | boolean (b : Bool)
  | number (value : Except Fault Numeric)
  | text (value : Except Fault String)
  /-- No complete token; nothing after it is looked at. -/
  | broken (start : Break) (flaw : Flaw)

/-- The outcome of scanning one value: the token and the rest, or a flaw. -/
abbrev Scanned := Except Flaw (Token × List Char)

/-- Whether JSON allows a character between tokens. -/
def isSpace (c : Char) : Bool :=
  c == ' ' || c == '\n' || c == '\t' || c == '\r'

/-- The value of a hexadecimal digit. -/
def hexDigit? (c : Char) : Option Nat :=
  let n := c.toNat
  if 48 ≤ n ∧ n ≤ 57 then some (n - 48)
  else if 97 ≤ n ∧ n ≤ 102 then some (n - 87)
  else if 65 ≤ n ∧ n ≤ 70 then some (n - 55)
  else none

/-- The value of four hexadecimal digits. -/
def hexValue? (a b c d : Char) : Option Nat := do
  let a ← hexDigit? a
  let b ← hexDigit? b
  let c ← hexDigit? c
  let d ← hexDigit? d
  pure (((a * 16 + b) * 16 + c) * 16 + d)

/-- The character that an escape of one letter stands for. -/
def plainEscape? (c : Char) : Option Char :=
  match c with
  | '"' => some '"'
  | '\\' => some '\\'
  | '/' => some '/'
  | 'b' => some '\x08'
  | 'f' => some '\x0c'
  | 'n' => some '\n'
  | 'r' => some '\r'
  | 't' => some '\t'
  | _ => none

/-- What the scan of a text has read: its characters, the last one first; the leading surrogate that
waits for its other half; and the first fault of the value. -/
structure TextState where
  chars : List Char
  lead? : Option Nat
  fault? : Option Fault

namespace TextState

/-- The state before the first character. -/
def start : TextState := ⟨[], none, none⟩

/-- The state with a fault of the value, unless it has an earlier one. -/
def blame (s : TextState) (f : Fault) : TextState :=
  { s with lead? := none, fault? := s.fault?.or (some f) }

/-- The state after anything but an escape by number: a waiting surrogate stays without its half. -/
def settle (s : TextState) : TextState :=
  if s.lead?.isSome then s.blame .endOfHexEscape else s

/-- The state after a character. -/
def push (s : TextState) (c : Char) : TextState :=
  let s := s.settle
  { s with chars := c :: s.chars }

/-- The state after an escape by number. -/
def pushCode (s : TextState) (n : Nat) : TextState :=
  match s.lead? with
  | some lead =>
    if 0xDC00 ≤ n ∧ n ≤ 0xDFFF then
      { s with
        lead? := none
        chars := Char.ofNat ((lead - 0xD800) * 0x400 + (n - 0xDC00) + 0x10000) :: s.chars }
    else s.blame .loneSurrogate
  | none =>
    if 0xDC00 ≤ n ∧ n ≤ 0xDFFF then s.blame .loneSurrogate
    else if 0xD800 ≤ n ∧ n ≤ 0xDBFF then { s with lead? := some n }
    else { s with chars := Char.ofNat n :: s.chars }

/-- The flaw of a text that breaks off. -/
def flaw (s : TextState) (f : Fault) : Flaw :=
  ⟨s.fault?.getD f, f⟩

/-- The value of a text that ends. -/
def value (s : TextState) : Except Fault String :=
  match s.settle.fault? with
  | some f => .error f
  | none => .ok (String.ofList s.chars.reverse)

end TextState

/-- How many bytes characters have. -/
def byteLength (cs : List Char) : Nat :=
  cs.foldl (fun n c => n + c.utf8Size) 0

/-- Scans a text after its opening quote. -/
def scanText (s : TextState) : List Char → Scanned
  | [] => .error (s.flaw .endInText)
  | '"' :: rest => .ok (.text s.value, rest)
  | '\\' :: 'u' :: a :: b :: c :: d :: rest =>
    match hexValue? a b c d with
    | some n => scanText (s.pushCode n) rest
    | none => .error (s.flaw .invalidEscape)
  | '\\' :: 'u' :: rest =>
    .error (s.flaw (if byteLength rest < 4 then .endInText else .invalidEscape))
  | '\\' :: e :: rest =>
    match plainEscape? e with
    | some c => scanText (s.push c) rest
    | none => .error (s.settle.flaw .invalidEscape)
  | ['\\'] => .error (s.flaw .endInText)
  | c :: rest =>
    if c.toNat < 0x20 then .error (s.settle.flaw .controlCharacter) else scanText (s.push c) rest

/-- The flaw of a number that lacks a digit: at the end of the text a keeping reader blames that. -/
def missingDigit (rest : List Char) : Flaw :=
  if rest.isEmpty then ⟨.endInValue, .invalidNumber⟩ else .both .invalidNumber

/-- Scans an exponent after its mark: its value and the rest. -/
def scanPower (s : List Char) : Except Flaw (Int × List Char) :=
  let (negative, rest) := Number.splitSign s
  let digits := rest.takeWhile Char.isDigit
  if digits.isEmpty then .error (missingDigit rest)
  else
    let n := Number.digitsValue digits
    .ok (if negative then -(n : Int) else n, rest.dropWhile Char.isDigit)

/-- Scans an optional exponent. -/
def scanPower? : List Char → Except Flaw (Option Int × List Char)
  | 'e' :: rest => (scanPower rest).map fun r => (some r.1, r.2)
  | 'E' :: rest => (scanPower rest).map fun r => (some r.1, r.2)
  | s => .ok (none, s)

/-- Scans an optional fraction. -/
def scanFraction? : List Char → Except Flaw (Option (List Char) × List Char)
  | '.' :: rest =>
    let digits := rest.takeWhile Char.isDigit
    if digits.isEmpty then .error (missingDigit rest)
    else .ok (some digits, rest.dropWhile Char.isDigit)
  | s => .ok (none, s)

/-- Scans the digits before the point: no further digit follows a leading zero. -/
def scanWhole (s : List Char) : Except Flaw (List Char × List Char) :=
  let digits := s.takeWhile Char.isDigit
  let rest := s.dropWhile Char.isDigit
  match digits with
  | [] => .error (missingDigit rest)
  | '0' :: _ :: _ => .error (.both .invalidNumber)
  | _ => .ok (digits, rest)

/-- Scans a number after its sign. -/
def scanNumber (negative : Bool) (s : List Char) : Scanned := do
  let (whole, rest) ← scanWhole s
  let (fraction?, rest) ← scanFraction? rest
  let (power?, rest) ← scanPower? rest
  pure (.number (Numeric.ofParts negative whole fraction? power?), rest)

/-- Scans the remaining letters of a word. -/
def scanWord (token : Token) : List Char → List Char → Scanned
  | [], rest => .ok (token, rest)
  | _ :: _, [] => .error (.both .endInValue)
  | w :: word, c :: rest => if w = c then scanWord token word rest else .error (.both .expectedWord)

/-- Scans one token at its first character. -/
def scanToken (c : Char) (rest : List Char) : Scanned :=
  match c with
  | '[' => .ok (.openList, rest)
  | ']' => .ok (.closeList, rest)
  | '\x7b' => .ok (.openObject, rest)
  | '\x7d' => .ok (.closeObject, rest)
  | ',' => .ok (.comma, rest)
  | ':' => .ok (.colon, rest)
  | 'n' => scanWord .null ['u', 'l', 'l'] rest
  | 't' => scanWord (.boolean true) ['r', 'u', 'e'] rest
  | 'f' => scanWord (.boolean false) ['a', 'l', 's', 'e'] rest
  | '"' => scanText .start rest
  | '-' => scanNumber true rest
  | _ => if c.isDigit then scanNumber false (c :: rest) else .error (.both .expectedValue)

/-- What follows a text is shorter than what the scan began with. -/
theorem length_lt_of_scanText {s : TextState} {cs r : List Char} {t : Token}
    (h : scanText s cs = .ok (t, r)) : r.length < cs.length := by
  fun_induction scanText s cs with
  | case1 => simp at h
  | case2 s rest =>
    simp only [Except.ok.injEq, Prod.mk.injEq] at h
    simp [h.2]
  | case3 s a b c d rest n hn ih =>
    have := ih h
    simp only [List.length_cons]
    omega
  | case4 => simp at h
  | case5 => simp at h
  | case6 s e rest _ _ c hc ih =>
    have := ih h
    simp only [List.length_cons]
    omega
  | case7 => simp at h
  | case8 => simp at h
  | case9 => simp at h
  | case10 s c rest _ _ _ _ _ _ ih =>
    have := ih h
    simp only [List.length_cons]
    omega

/-- What follows a word is no longer than what the scan began with. -/
theorem length_le_of_scanWord {t u : Token} {w cs r : List Char}
    (h : scanWord t w cs = .ok (u, r)) : r.length ≤ cs.length := by
  fun_induction scanWord t w cs with
  | case1 cs =>
    simp only [Except.ok.injEq, Prod.mk.injEq] at h
    simp [h.2]
  | case2 => simp at h
  | case3 w word rest ih =>
    have := ih h
    simp only [List.length_cons]
    omega
  | case4 => simp at h

/-- What follows a digit run is no longer than the text. -/
theorem length_dropWhile_le (p : Char → Bool) (s : List Char) :
    (s.dropWhile p).length ≤ s.length :=
  (List.dropWhile_suffix p).length_le

/-- What follows digits is shorter than what the scan began with. -/
theorem length_lt_of_scanWhole {s w r : List Char} (h : scanWhole s = .ok (w, r)) :
    r.length < s.length := by
  have total := congrArg List.length (List.takeWhile_append_dropWhile (p := Char.isDigit) (l := s))
  rw [List.length_append] at total
  unfold scanWhole at h
  simp only at h
  split at h
  · simp at h
  · simp at h
  · rename_i none _
    have some : 0 < (s.takeWhile Char.isDigit).length := List.length_pos_iff.mpr none
    simp only [Except.ok.injEq, Prod.mk.injEq] at h
    rw [← h.2]
    omega

/-- What follows an optional fraction is no longer than what the scan began with. -/
theorem length_le_of_scanFraction? {s r : List Char} {f : Option (List Char)}
    (h : scanFraction? s = .ok (f, r)) : r.length ≤ s.length := by
  unfold scanFraction? at h
  split at h
  · simp only at h
    split at h
    · simp at h
    · simp only [Except.ok.injEq, Prod.mk.injEq] at h
      rw [← h.2]
      exact Nat.le_succ_of_le (length_dropWhile_le _ _)
  · simp only [Except.ok.injEq, Prod.mk.injEq] at h
    simp [h.2]

/-- What follows a sign is no longer than what the scan began with. -/
theorem length_splitSign_le (s : List Char) : (Number.splitSign s).2.length ≤ s.length := by
  unfold Number.splitSign
  split <;> simp

/-- What follows an exponent is no longer than what the scan began with. -/
theorem length_le_of_scanPower {s r : List Char} {n : Int} (h : scanPower s = .ok (n, r)) :
    r.length ≤ s.length := by
  unfold scanPower at h
  simp only at h
  split at h
  · simp at h
  · simp only [Except.ok.injEq, Prod.mk.injEq] at h
    rw [← h.2]
    exact Nat.le_trans (length_dropWhile_le _ _) (length_splitSign_le s)

/-- What follows an optional exponent is no longer than what the scan began with. -/
theorem length_le_of_scanPower? {s r : List Char} {n : Option Int}
    (h : scanPower? s = .ok (n, r)) : r.length ≤ s.length := by
  have step : ∀ rest : List Char, (scanPower rest).map (fun x => (some x.1, x.2)) = .ok (n, r) →
      r.length ≤ rest.length := by
    intro rest h
    cases hp : scanPower rest with
    | error e => simp [hp, Except.map] at h
    | ok x =>
      simp only [hp, Except.map, Except.ok.injEq, Prod.mk.injEq] at h
      rw [← h.2]
      exact length_le_of_scanPower (n := x.1) hp
  unfold scanPower? at h
  split at h
  · exact Nat.le_succ_of_le (step _ h)
  · exact Nat.le_succ_of_le (step _ h)
  · simp only [Except.ok.injEq, Prod.mk.injEq] at h
    simp [h.2]

/-- What follows a number is shorter than what the scan began with. -/
theorem length_lt_of_scanNumber {negative : Bool} {s r : List Char} {t : Token}
    (h : scanNumber negative s = .ok (t, r)) : r.length < s.length := by
  unfold scanNumber at h
  cases hw : scanWhole s with
  | error e => simp [hw, bind, Except.bind] at h
  | ok w =>
    cases hf : scanFraction? w.2 with
    | error e => simp [hw, hf, bind, Except.bind] at h
    | ok f =>
      cases hp : scanPower? f.2 with
      | error e => simp [hw, hf, hp, bind, Except.bind] at h
      | ok p =>
        simp only [hw, hf, hp, bind, Except.bind, pure, Except.pure, Except.ok.injEq,
          Prod.mk.injEq] at h
        have h₁ := length_lt_of_scanWhole (w := w.1) hw
        have h₂ := length_le_of_scanFraction? (f := f.1) hf
        have h₃ := length_le_of_scanPower? (n := p.1) hp
        rw [← h.2]
        omega

/-- What follows a token is no longer than what follows its first character. -/
theorem length_le_of_scanToken {c : Char} {rest r : List Char} {t : Token}
    (h : scanToken c rest = .ok (t, r)) : r.length ≤ rest.length := by
  have same : ∀ u : Token, (Except.ok (u, rest) : Scanned) = .ok (t, r) →
      r.length ≤ rest.length := by
    intro u h
    simp only [Except.ok.injEq, Prod.mk.injEq] at h
    simp [h.2]
  unfold scanToken at h
  split at h
  · exact same _ h
  · exact same _ h
  · exact same _ h
  · exact same _ h
  · exact same _ h
  · exact same _ h
  · exact length_le_of_scanWord h
  · exact length_le_of_scanWord h
  · exact length_le_of_scanWord h
  · exact Nat.le_of_lt (length_lt_of_scanText h)
  · exact Nat.le_of_lt (length_lt_of_scanNumber h)
  · split at h
    · exact Nat.le_of_lt_succ (length_lt_of_scanNumber h)
    · simp at h

/-- The token of a value that cannot be finished, by its first character. -/
def brokenToken (c : Char) (flaw : Flaw) : Token :=
  .broken (if c = '"' then .text else if c = 'n' then .null else .other) flaw

/-- Puts the tokens of a text in front of those that are done, the last one first. -/
def tokensOnto (done : List Token) (s : List Char) : List Token :=
  match _hs : s.dropWhile isSpace with
  | [] => done
  | c :: rest =>
    match _ht : scanToken c rest with
    | .error flaw => brokenToken c flaw :: done
    | .ok (t, rest') => tokensOnto (t :: done) rest'
termination_by s.length
decreasing_by
  have h₁ := length_dropWhile_le isSpace s
  have h₂ := length_le_of_scanToken _ht
  rw [_hs, List.length_cons] at h₁
  omega

/-- The tokens of a text, up to its end or to the first one that is broken. -/
def tokens (s : String) : List Token :=
  (tokensOnto [] s.toList).reverse

end Worklist.Json
