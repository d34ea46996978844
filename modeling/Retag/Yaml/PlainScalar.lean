import Retag.Yaml.Token
import Retag.Decimal.Reading

/-!
# What plain scalars denote

A scalar without quotes and without a tag denotes a value by its form: a truth
value, a number, a date, the absent value, or else a text. `CoreTag.ofPlain`
decides by the form alone; the functions that read the value come after it. A
tag can also be written out, so the readers refuse texts of another form.
-/

namespace Retag.Yaml

open Retag.Decimal

/-- The tags whose nodes are understood. -/
inductive CoreTag where
  | str
  | null
  | bool
  | int
  | float
  | binary
  | timestamp
  | seq
  | map
  | set
  /-- A list of pairs with different keys. -/
  | omap
  | pairs
  /-- The key that merges other mappings in. -/
  | merge
  | value
  deriving DecidableEq, Repr

/-- The tag of a node. -/
inductive Tag where
  | core (tag : CoreTag)
  | other (name : Text)
  deriving DecidableEq, Repr

/-- The start of the names of the tags that are understood. -/
def corePrefix : Text := "tag:yaml.org,2002:".toList

/-- The tag with a name. -/
def Tag.ofName (name : Text) : Tag :=
  if corePrefix.isPrefixOf name then
    match String.ofList (name.drop corePrefix.length) with
    | "str" => .core .str
    | "null" => .core .null
    | "bool" => .core .bool
    | "int" => .core .int
    | "float" => .core .float
    | "binary" => .core .binary
    | "timestamp" => .core .timestamp
    | "seq" => .core .seq
    | "map" => .core .map
    | "set" => .core .set
    | "omap" => .core .omap
    | "pairs" => .core .pairs
    | "merge" => .core .merge
    | "value" => .core .value
    | _ => .other name
  else .other name

/-! ## Forms -/

/-- Whether a character is a decimal digit of ASCII. -/
def isDec (c : Char) : Bool := '0' ≤ c && c ≤ '9'

/-- Whether a character is a decimal digit, or an underscore between digits. -/
def isDigitOrGap (c : Char) : Bool := isDec c || c == '_'

/-- The text without a sign at its start. -/
def unsigned : Text → Text
  | '-' :: rest => rest
  | '+' :: rest => rest
  | rest => rest

/-- Whether a text begins with a digit and goes on with digits and underscores. -/
def isDigits : Text → Bool
  | [] => false
  | c :: rest => isDec c && rest.all isDigitOrGap

/-- Whether a text is a number below sixty of one or two digits. -/
def isSixtieth : Text → Bool
  | [c] => isDec c
  | [c, d] => '0' ≤ c && c ≤ '5' && isDec d
  | _ => false

/-- The pieces of a text between separators. -/
def splitOn (separator : Char) : Text → List Text
  | [] => [[]]
  | c :: rest =>
    if c == separator then [] :: splitOn separator rest
    else match splitOn separator rest with
      | [] => [[c]]
      | piece :: more => (c :: piece) :: more

/-- Whether a text is an exponent: a letter, a sign and digits; or nothing. -/
def isExponent : Text → Bool
  | [] => true
  | e :: sign :: digits =>
    (e == 'e' || e == 'E') && (sign == '+' || sign == '-') && !digits.isEmpty
      && digits.all isDec
  | _ => false

/-- The form of an integer. -/
def isInt (text : Text) : Bool :=
  match unsigned text with
  | ['0'] => true
  | '0' :: 'b' :: digits =>
    !digits.isEmpty && digits.all fun c => c == '0' || c == '1' || c == '_'
  | '0' :: 'x' :: digits =>
    !digits.isEmpty && digits.all fun c =>
      isDigitOrGap c || ('a' ≤ c && c ≤ 'f') || ('A' ≤ c && c ≤ 'F')
  | '0' :: digits => digits.all fun c => ('0' ≤ c && c ≤ '7') || c == '_'
  | body =>
    match splitOn ':' body with
    | head :: sixtieths => isDigits head && sixtieths.all isSixtieth
    | [] => false

/-- The form of digits, a point, digits and an exponent. -/
def isFraction (text : Text) : Bool :=
  let fraction := text.dropWhile isDigitOrGap
  match fraction with
  | '.' :: rest => isExponent (rest.dropWhile isDigitOrGap)
  | _ => false

/-- The form of a number of sixtieths with a point at the end. -/
def isSixtiethFraction (text : Text) : Bool :=
  match splitOn ':' text with
  | head :: sixtieths =>
    match sixtieths.reverse with
    | [] => false
    | last :: inner =>
      let whole := last.takeWhile (· != '.')
      let fraction := last.dropWhile (· != '.')
      isDigits head && inner.all isSixtieth && isSixtieth whole
        && fraction.head? == some '.' && fraction.tail.all isDigitOrGap
  | [] => false

/-- The form of a floating-point number. -/
def isFloat (text : Text) : Bool :=
  let body := unsigned text
  let word := String.ofList body
  if word == ".inf" || word == ".Inf" || word == ".INF" then true
  else if text == ".nan".toList || text == ".NaN".toList || text == ".NAN".toList then
    true
  else
    match text, body with
    | '.' :: c :: rest, _ => isDec c && isExponent (rest.dropWhile isDigitOrGap)
    | _, c :: _ => isDec c && (isFraction body || isSixtiethFraction body)
    | _, [] => false

/-- The parts of a date, and of a time if there is one. -/
structure WrittenMoment where
  year : Nat
  month : Nat
  day : Nat
  /-- Hour, minute, second, and the digits of the fraction. -/
  time : Option (Nat × Nat × Nat × Text)
  /-- The distance from universal time in minutes. -/
  offset : Option Int

/-- The number that digits of ASCII denote. -/
def decimalValue (digits : Text) : Nat :=
  digits.foldl (fun n c => 10 * n + (c.toNat - 48)) 0

/-- At least `least` and at most `most` digits at the start of a text, and the rest. -/
def takeDigits (least most : Nat) (text : Text) : Option (Text × Text) :=
  let digits := (text.takeWhile isDec).take most
  if digits.length < least then none else some (digits, text.drop digits.length)

/-- The text after a character that it must begin with. -/
def after (c : Char) : Text → Option Text
  | d :: rest => if c == d then some rest else none
  | [] => none

/-- A distance from universal time at the end of a moment. -/
def readOffset (text : Text) : Option (Option Int) :=
  let body := text.dropWhile fun c => c == ' ' || c == '\t'
  match body with
  | [] => if text.isEmpty then some none else none
  | ['Z'] => some (some 0)
  | sign :: rest =>
    if sign == '+' || sign == '-' then do
      let (hours, rest) ← takeDigits 1 2 rest
      let minutes ← match rest with
        | [] => some 0
        | ':' :: rest => match takeDigits 2 2 rest with
          | some (minutes, []) => some (decimalValue minutes)
          | _ => none
        | _ => none
      let total : Int := decimalValue hours * 60 + minutes
      some (some (if sign == '-' then -total else total))
    else none

/-- The form of a date, or of a date with a time. -/
def readMoment (text : Text) : Option WrittenMoment := do
  let (year, rest) ← takeDigits 4 4 text
  let (month, rest) ← takeDigits 1 2 (← after '-' rest)
  let (day, rest) ← takeDigits 1 2 (← after '-' rest)
  let date : WrittenMoment :=
    ⟨decimalValue year, decimalValue month, decimalValue day, none, none⟩
  match rest with
  | [] => return date
  | c :: more =>
    let gap ← if c == 'T' || c == 't' then some more
      else if c == ' ' || c == '\t' then
        some (more.dropWhile fun d => d == ' ' || d == '\t')
      else none
    let (hour, rest) ← takeDigits 1 2 gap
    let (minute, rest) ← takeDigits 2 2 (← after ':' rest)
    let (second, rest) ← takeDigits 2 2 (← after ':' rest)
    let (fraction, rest) := match rest with
      | '.' :: rest => (rest.takeWhile isDec, rest.dropWhile isDec)
      | rest => ([], rest)
    let offset ← readOffset rest
    return { date with
      time :=
        some (decimalValue hour, decimalValue minute, decimalValue second, fraction),
      offset := offset }

/-- Whether a plain scalar is a date: alone, it needs two digits for the month
and the day. -/
def isTimestamp (text : Text) : Bool :=
  match readMoment text with
  | none => false
  | some moment => moment.time.isSome || text.length == 10

/-- The spellings of truth values. -/
def boolWords : List (String × Bool) :=
  [("yes", true), ("no", false), ("true", true), ("false", false), ("on", true),
   ("off", false)]

/-- A word in lower case, with a capital, or in capitals; other spellings do not
count. -/
def uniformCase (text : Text) : Bool :=
  match text with
  | [] => false
  | c :: rest =>
    let lower (d : Char) : Bool := 'a' ≤ d && d ≤ 'z'
    let upper (d : Char) : Bool := 'A' ≤ d && d ≤ 'Z'
    (lower c && rest.all lower) || (upper c && (rest.all lower || rest.all upper))

/-- A text in the lower case of ASCII. -/
def asciiLower (text : Text) : Text :=
  text.map fun c => Char.ofNat (Text.lowerAscii c.toNat)

/-- The form of a truth value. -/
def isBool (text : Text) : Bool :=
  uniformCase text && (boolWords.lookup (String.ofList (asciiLower text))).isSome

/-- The form of the absent value. -/
def isNull (text : Text) : Bool :=
  text.isEmpty || text == ['~']
    || (uniformCase text && asciiLower text == "null".toList)

/-- The tag that a plain scalar has by its form. -/
def CoreTag.ofPlain (text : Text) : CoreTag :=
  if isBool text then .bool
  else if isFloat text then .float
  else if isInt text then .int
  else if text == ['<', '<'] then .merge
  else if isNull text then .null
  else if isTimestamp text then .timestamp
  else if text == ['='] then .value
  else .str

/-! ## Values -/

/-- A natural number in a base, with the signs that the base allows. -/
def integer (base : Nat) (text : Text) : Except Fault Int :=
  if base == 10 && (text.filter isDec).length > 4300 then
    .error (.integerTooLong (text.filter isDec).length)
  else match readInt? base text with
    | some n => .ok n
    | none => .error (.notInteger base (String.ofList text))

/-- The sum of numbers with the weights 1, 60, 3600 and so on, the last number first. -/
def sixtieths : Int → List Int → Int
  | _, [] => 0
  | weight, n :: rest => n * weight + sixtieths (weight * 60) rest

/-- A text without its underscores. -/
def withoutUnderscores (text : Text) : Text := text.filter (· != '_')

/-- The value of an integer scalar. -/
def readInteger (text : Text) : Except Fault Int := do
  let text := withoutUnderscores text
  let negative := text.head? == some '-'
  if text.isEmpty then throw .emptyNumber
  let body := unsigned text
  let n ← match body with
    | [] => throw .emptyNumber
    | ['0'] => pure 0
    | '0' :: 'b' :: digits => integer 2 digits
    | '0' :: 'x' :: digits => integer 16 digits
    | '0' :: _ => integer 8 body
    | _ =>
      if body.contains ':' then do
        let parts ← (splitOn ':' body).mapM (integer 10)
        pure (sixtieths 1 parts.reverse)
      else integer 10 body
  return if negative then -n else n

/-- A floating-point number in decimals. -/
def decimal (text : Text) : Except Fault Double :=
  match readDouble? text with
  | some x => .ok x
  | none => .error (.notFloat (String.ofList text))

/-- The sum of numbers with the weights 1, 60, 3600 and so on, added from the
smallest on. -/
def sixtiethSum : Double → Nat → List Double → Double
  | sum, _, [] => sum
  | sum, weight, x :: rest =>
    sixtiethSum (sum.add (x.mul (Double.ofInt weight))) (weight * 60) rest

/-- The value of a floating-point scalar. -/
def readFloat (text : Text) : Except Fault Double := do
  let text := asciiLower (withoutUnderscores text)
  let negative := text.head? == some '-'
  if text.isEmpty then throw .emptyNumber
  let body := unsigned text
  let signed (x : Double) : Double := if negative then x.neg else x
  if body == ".inf".toList then return .infinite negative
  if body == ".nan".toList then return .nan
  if body.contains ':' then
    let parts ← (splitOn ':' body).mapM decimal
    return signed (sixtiethSum Double.zero 1 parts.reverse)
  return signed (← decimal body)

/-- The value of a truth scalar. -/
def readBool (text : Text) : Except Fault Bool :=
  let word := String.ofList (asciiLower text)
  match boolWords.lookup word with
  | some b => .ok b
  | none => .error (.notBool word)

/-- A fault of the calendar as a fault of the text. -/
def ofCalendar {α : Type} : Except CalendarFault α → Except Fault α
  | .ok x => .ok x
  | .error fault => .error (.calendar fault)

/-- The six digits after the point of a second. -/
def micros (fraction : Text) : Nat :=
  let digits := fraction.take 6
  decimalValue (digits ++ List.replicate (6 - digits.length) '0')

/-- The value of a scalar that is a date or a time. -/
def readTimestamp (text : Text) : Except Fault (Date ⊕ Moment) :=
  match readMoment text with
  | none => .error .notTimestamp
  | some m =>
    match m.time with
    | none => (ofCalendar (Date.make m.year m.month m.day)).map .inl
    | some (hour, minute, second, fraction) =>
      (ofCalendar (Moment.make m.year m.month m.day hour minute second (micros fraction)
        m.offset)).map .inr

/-- The value of a character in the encoding of bytes by sixty-four characters. -/
def sextet? (c : Char) : Option Nat :=
  if 'A' ≤ c && c ≤ 'Z' then some (c.toNat - 65)
  else if 'a' ≤ c && c ≤ 'z' then some (c.toNat - 71)
  else if isDec c then some (c.toNat + 4)
  else if c == '+' then some 62
  else if c == '/' then some 63
  else none

/-- The bytes of four characters of the encoding, or of the two or three that
are left. -/
def bytesOf : List Nat → List UInt8
  | [a, b, c, d] =>
    [(a * 4 + b / 16).toUInt8, (b % 16 * 16 + c / 4).toUInt8, (c % 4 * 64 + d).toUInt8]
  | [a, b, c] => [(a * 4 + b / 16).toUInt8, (b % 16 * 16 + c / 4).toUInt8]
  | [a, b] => [(a * 4 + b / 16).toUInt8]
  | _ => []

/-- Decodes bytes from characters; the quadruple under way is kept, with the
number of its padding characters. Characters outside the encoding are skipped. -/
def decodeSextets : List Nat → Nat → Text → Option (List UInt8)
  | [], _, [] => some []
  | _ :: _, _, [] => none
  | quad, pads, c :: rest =>
    if c == '=' then
      if 2 ≤ quad.length && 4 ≤ quad.length + pads + 1 then some (bytesOf quad)
      else decodeSextets quad (if 2 ≤ quad.length then pads + 1 else pads) rest
    else match sextet? c with
      | none => decodeSextets quad pads rest
      | some n =>
        if quad.length == 3 then
          (decodeSextets [] 0 rest).map (bytesOf (quad ++ [n]) ++ ·)
        else decodeSextets (quad ++ [n]) 0 rest

/-- The value of a scalar that holds bytes. -/
def readBytes (text : Text) : Except Fault (List UInt8) :=
  if text.all fun c => c.toNat < 128 then
    match decodeSextets [] 0 text with
    | some bytes => .ok bytes
    | none => .error .malformed
  else .error .malformed

end Retag.Yaml
