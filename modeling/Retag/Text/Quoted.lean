import Retag.Text.Printable

/-!
# Quoted text

The form in which a text is shown inside a message: between quotation marks,
with the characters that could not be told apart otherwise written as escapes.
An apostrophe is the mark unless the text holds an apostrophe and no double mark.

* A backslash and the mark itself are written after a backslash.
* Tab, line feed and carriage return are `\t`, `\n` and `\r`.
* An unprintable character is its number in hexadecimal, in two, four or eight digits.

`quotedBytes` shows a sequence of bytes in the same way, with the letter `b` in front.
-/

namespace Retag.Text

/-- A hexadecimal digit, in lower case. -/
def hexDigit (n : Nat) : Char :=
  if n < 10 then Char.ofNat (48 + n) else Char.ofNat (87 + n)

/-- The last `width` hexadecimal digits of a number. -/
def hexDigits : Nat → Nat → List Char
  | 0, _ => []
  | width + 1, n => hexDigits width (n / 16) ++ [hexDigit (n % 16)]

/-- The quotation mark for a text. -/
def quoteMark (text : List Char) : Char :=
  if text.contains '\'' && !text.contains '"' then '"' else '\''

/-- The escape of an unprintable character. -/
def numericEscape (code : Nat) : List Char :=
  if code < 256 then '\\' :: 'x' :: hexDigits 2 code
  else if code < 65536 then '\\' :: 'u' :: hexDigits 4 code
  else '\\' :: 'U' :: hexDigits 8 code

/-- One character between quotation marks. -/
def quotedChar (mark c : Char) : List Char :=
  if c == mark || c == '\\' then ['\\', c]
  else if c == '\t' then ['\\', 't']
  else if c == '\n' then ['\\', 'n']
  else if c == '\r' then ['\\', 'r']
  else if isPrintable c then [c]
  else numericEscape c.toNat

/-- A text between quotation marks, as characters. -/
def quotedChars (text : List Char) : List Char :=
  let mark := quoteMark text
  mark :: text.flatMap (quotedChar mark) ++ [mark]

/-- A text between quotation marks. -/
def quoted (text : String) : String := String.ofList (quotedChars text.toList)

/-- One byte between quotation marks: bytes beyond ASCII are not printable. -/
def quotedByte (mark : Char) (byte : UInt8) : List Char :=
  if byte < 128 then quotedChar mark (Char.ofNat byte.toNat)
  else numericEscape byte.toNat

/-- A sequence of bytes between quotation marks. -/
def quotedBytes (bytes : List UInt8) : String :=
  let mark := quoteMark (bytes.map fun byte => Char.ofNat byte.toNat)
  String.ofList ('b' :: mark :: bytes.flatMap (quotedByte mark) ++ [mark])

end Retag.Text
