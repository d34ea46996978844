import Retag.Regex.Term
import Retag.Text.Letters
import Retag.Text.LetterCase

/-!
# Sets of characters

What one character of a text is compared with. A set is a list of tests,
possibly complemented. When case does not matter the character is first taken to
lower case, and a range test then asks for any of the code points that agree
with it.

`CharSet.single` and `CharSet.everything` are the two sets that literal markers
and tag contents are made of; `has_single` and `has_everything` say what they hold.
-/

namespace Retag.Regex

open Retag.Text

/-- Which letters agree with each other in either case. -/
inductive Folding where
  | off
  | ascii
  | unicode
  deriving DecidableEq, Repr

/-- The lower case of a code point. -/
def Folding.lower : Folding → Nat → Nat
  | .off, code => code
  | .ascii, code => lowerAscii code
  | .unicode, code => lowerCode code

/-- The code points that agree with one in lower case. -/
def Folding.relatives : Folding → Nat → List Nat
  | .off, code => [code]
  | .ascii, code => asciiRelatives code
  | .unicode, code => caseRelatives code

/-- Whether a named class of ASCII or of Unicode holds a character. -/
def Category.has (category : Category) (ascii : Bool) (c : Char) : Bool :=
  match category, ascii with
  | .digit, true => isAsciiDigit c
  | .digit, false => isDigit c
  | .blank, true => isAsciiBlank c
  | .blank, false => isBlank c
  | .word, true => isAsciiWord c
  | .word, false => isWord c

/-- One test of a character set. -/
inductive CharTest where
  /-- The code point lies in the range. -/
  | range (low high : Nat)
  /-- A code point that agrees with the character lies in the range. -/
  | related (low high : Nat)
  /-- The lower or the upper case lies in the range. -/
  | eitherCase (low high : Nat)
  /-- The character is in the class, or in its complement. -/
  | category (category : Category) (ascii negated : Bool)
  deriving DecidableEq, Repr

/-- Whether a code point lies in a range. -/
def inRange (low high code : Nat) : Bool := low ≤ code && code ≤ high

/-- Whether a code point, in lower case if folded, passes the test. -/
def CharTest.passes (folding : Folding) (code : Nat) : CharTest → Bool
  | .range low high => inRange low high code
  | .related low high => (folding.relatives code).any (inRange low high)
  | .eitherCase low high => inRange low high code || inRange low high (upperCode code)
  | .category named ascii negated => named.has ascii (Char.ofNat code) != negated

/-- A set of characters. -/
structure CharSet where
  /-- Whether the set is the complement of what the tests describe. -/
  negated : Bool
  folding : Folding
  /-- The tests; passing one of them is enough. -/
  tests : List CharTest
  deriving DecidableEq, Repr

namespace CharSet

/-- Whether a character is in the set. -/
def has (s : CharSet) (c : Char) : Bool :=
  s.tests.any (·.passes s.folding (s.folding.lower c.toNat)) != s.negated

/-- The set of one code point. -/
def single (code : Nat) : CharSet := ⟨false, .off, [.range code code]⟩

/-- The set of all characters, as two complementary classes. -/
def everything : CharSet :=
  ⟨false, .off, [.category .blank false false, .category .blank false true]⟩

/-- The set of all characters but the line feed. -/
def notLineFeed : CharSet := ⟨true, .off, [.range 10 10]⟩

/-- The set of every character, line feeds included. -/
def anything : CharSet := ⟨true, .off, []⟩

theorem has_single (c d : Char) : (single c.toNat).has d = (d == c) := by
  have hIff : (c.toNat ≤ d.toNat ∧ d.toNat ≤ c.toNat) ↔ d = c := by
    constructor
    · intro h
      exact Char.toNat_inj.mp (Nat.le_antisymm h.2 h.1)
    · rintro rfl
      exact ⟨Nat.le_refl _, Nat.le_refl _⟩
  have hHas : (single c.toNat).has d = inRange c.toNat c.toNat d.toNat := by
    simp [has, single, CharTest.passes, Folding.lower]
  rw [hHas, Bool.eq_iff_iff, inRange, Bool.and_eq_true, decide_eq_true_iff,
    decide_eq_true_iff, beq_iff_eq]
  exact hIff

theorem has_everything (c : Char) : everything.has c = true := by
  simp [has, everything, CharTest.passes, Folding.lower]

end CharSet

/-- The folding that the flags ask for. -/
def Flags.folding (flags : Flags) : Folding :=
  if !flags.has .ignoreCase then .off
  else if flags.has .unicode then .unicode else .ascii

/-- The code points of the first plane end here; beyond it sets compare differently. -/
def firstPlaneEnd : Nat := 0xffff

/-- A range as a test. Beyond the first plane a single code point is compared as
it stands, and a range with both cases. -/
def foldedTests (low high : Nat) (isSingle : Bool) : List CharTest :=
  if high ≤ firstPlaneEnd then [.related low high]
  else if isSingle then [.range low high]
  else if low ≤ firstPlaneEnd then [.related low firstPlaneEnd, .eitherCase low high]
  else [.eitherCase low high]

/-- The tests of one entry of a set under the given flags. -/
def SetEntry.tests (flags : Flags) : SetEntry → List CharTest
  | .char code =>
    if flags.folding == .off then [.range code code] else foldedTests code code true
  | .range low high =>
    if flags.folding == .off then [.range low high] else foldedTests low high false
  | .category named negated => [.category named (!flags.has .unicode) negated]

/-- A set between brackets under the given flags. -/
def CharSet.ofEntries (flags : Flags) (negated : Bool) (entries : List SetEntry) :
    CharSet :=
  ⟨negated, flags.folding, entries.flatMap (·.tests flags)⟩

/-- A single code point, or all others, under the given flags. -/
def CharSet.ofCode (flags : Flags) (negated : Bool) (code : Nat) : CharSet :=
  if flags.folding == .off then ⟨negated, .off, [.range code code]⟩
  else ⟨negated, flags.folding, [.related code code]⟩

end Retag.Regex
