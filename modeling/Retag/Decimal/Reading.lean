import Retag.Decimal.Double
import Retag.Text.Letters
import Retag.Text.LetterCase

/-!
# Reading numbers

Integers and floating-point numbers from text. Blanks around a number are
skipped, a sign may stand in front, and single underscores may stand between
digits; the digits of any script count.
-/

namespace Retag.Decimal

open Retag.Text

/-- The text without blanks at its two ends. -/
def trimBlanks (text : List Char) : List Char :=
  ((text.dropWhile isBlank).reverse.dropWhile isBlank).reverse

/-- Splits off a leading sign; the flag says whether it is a minus. -/
def takeSign : List Char → Bool × List Char
  | '-' :: rest => (true, rest)
  | '+' :: rest => (false, rest)
  | rest => (false, rest)

/-- The value of a digit in bases up to thirty-six. -/
def digitIn (base : Nat) (c : Char) : Option Nat :=
  let value := match digitValue? c with
    | some n => some n
    | none =>
      if 'a' ≤ c && c ≤ 'z' then some (c.toNat - 87)
      else if 'A' ≤ c && c ≤ 'Z' then some (c.toNat - 55)
      else none
  match value with
  | some n => if n < base then some n else none
  | none => none

/-- Digits with single underscores between them; `after` says that a digit
stands just before. -/
def digitRun (base : Nat) : Bool → Nat → List Char → Option Nat
  | after, value, [] => if after then some value else none
  | after, value, '_' :: rest => if after then digitRun base false value rest else none
  | _, value, c :: rest =>
    match digitIn base c with
    | some n => digitRun base true (value * base + n) rest
    | none => none

/-- A natural number in the given base. -/
def readNat? (base : Nat) (text : List Char) : Option Nat := digitRun base false 0 text

/-- The letter that may follow a zero to name a base. -/
def baseMark (base : Nat) (c : Char) : Bool :=
  match base with
  | 2 => c == 'b' || c == 'B'
  | 8 => c == 'o' || c == 'O'
  | 16 => c == 'x' || c == 'X'
  | _ => false

/-- The text after a mark such as `0x`, where one stands. An underscore may
follow the mark. -/
def dropBaseMark (base : Nat) : List Char → List Char
  | '0' :: c :: rest =>
    if baseMark base c then
      match rest with
      | '_' :: more => more
      | more => more
    else '0' :: c :: rest
  | text => text

/-- An integer in the given base. -/
def readInt? (base : Nat) (text : List Char) : Option Int :=
  let (negative, body) := takeSign (trimBlanks text)
  (readNat? base (dropBaseMark base body)).map fun n =>
    if negative then -(n : Int) else (n : Int)

/-- Decimal digits with single underscores between them, as long as they last:
the digits' values and the rest. -/
def spanDigits : Bool → List Char → List Nat × List Char
  | _, [] => ([], [])
  | after, '_' :: c :: rest =>
    if after then
      match digitValue? c with
      | some n => let (digits, more) := spanDigits true rest; (n :: digits, more)
      | none => ([], '_' :: c :: rest)
    else ([], '_' :: c :: rest)
  | _, c :: rest =>
    match digitValue? c with
    | some n => let (digits, more) := spanDigits true rest; (n :: digits, more)
    | none => ([], c :: rest)

/-- The number that a list of decimal digits denotes. -/
def ofDigits (digits : List Nat) : Nat := digits.foldl (fun n d => 10 * n + d) 0

/-- The nearest number to `digits · 10 ^ place`. Beyond the range of the format
the power is not computed. -/
def ofScaled (negative : Bool) (digits : List Nat) (place : Int) : Double :=
  let digits := digits.dropWhile (· == 0)
  let lead : Int := place + digits.length
  if digits.isEmpty || lead < -400 then Double.ofRatio negative 0 1
  else if lead > 400 then .infinite negative
  else match place with
    | .ofNat p => Double.ofRatio negative (ofDigits digits * tenTo p) 1
    | .negSucc p => Double.ofRatio negative (ofDigits digits) (tenTo (p + 1))

/-- The exponent after its letter: a sign and at least one digit, and nothing else. -/
def readExponent? : List Char → Option Int
  | [] => some 0
  | e :: rest =>
    if e == 'e' || e == 'E' then
      let (negative, body) := takeSign rest
      match spanDigits false body with
      | ([], _) => none
      | (digits, []) =>
        some (if negative then -(ofDigits digits : Int) else ofDigits digits)
      | _ => none
    else none

/-- A floating-point number: digits with an optional point and exponent, or a
word for an infinity or for not-a-number. -/
def readDouble? (text : List Char) : Option Double :=
  let (negative, body) := takeSign (trimBlanks text)
  let word := String.ofList (body.map fun c => Char.ofNat (lowerAscii c.toNat))
  if word == "inf" || word == "infinity" then some (.infinite negative)
  else if word == "nan" then some .nan
  else
    let (whole, rest) := spanDigits false body
    let (fraction, rest) := match rest with
      | '.' :: more => spanDigits false more
      | more => ([], more)
    if whole.isEmpty && fraction.isEmpty then none
    else (readExponent? rest).map fun e =>
      ofScaled negative (whole ++ fraction) (e - fraction.length)

end Retag.Decimal
