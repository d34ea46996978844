/-!
# Binary floating-point numbers

A number of the 64-bit binary format, held exactly: `mantissa · 2 ^ exponent`
with a sign, an infinity, or the one not-a-number. `Double.ofRatio` rounds a
quotient of natural numbers to the nearest such number, a tie going to the even
mantissa, in exact arithmetic; every operation that must round goes through it.

A finite number has one representation: its mantissa has 53 bits, or fewer when
the exponent is the least one, `-1074`.
-/

namespace Retag.Decimal

/-- A number of the 64-bit binary format. -/
inductive Double where
  | nan
  | infinite (negative : Bool)
  /-- The number `mantissa · 2 ^ exponent`, negated if `negative`. -/
  | finite (negative : Bool) (mantissa : Nat) (exponent : Int)
  deriving DecidableEq, Repr, Inhabited

/-- A power of ten. -/
def tenTo (n : Nat) : Nat := Nat.pow 10 n

namespace Double

/-- The least exponent of the format. -/
def minExponent : Int := -1074

/-- The greatest exponent of the format. -/
def maxExponent : Int := 971

/-- The quotient of two numbers rounded to the nearest integer, a tie to the
even one. -/
def roundHalfEven (num den : Nat) : Nat :=
  let quotient := num / den
  let twice := 2 * (num % den)
  if twice > den then quotient + 1
  else if twice == den then quotient + quotient % 2
  else quotient

/-- `num / den / 2 ^ exponent`, rounded to an integer. -/
def scaleDown (num den : Nat) (exponent : Int) : Nat :=
  match exponent with
  | .ofNat e => roundHalfEven num (den <<< e)
  | .negSucc e => roundHalfEven (num <<< (e + 1)) den

/-- The exponent at which `num / den` has a mantissa of 53 bits before rounding. -/
def fittingExponent (num den : Nat) : Int :=
  let guess : Int := (num.log2 : Int) - (den.log2 : Int) - 52
  let fits : Bool := match guess with
    | .ofNat e => (den <<< e) <<< 52 ≤ num
    | .negSucc e => den <<< 52 ≤ num <<< (e + 1)
  let exponent := if fits then guess else guess - 1
  if exponent < minExponent then minExponent else exponent

/-- The number of the format that is nearest to `num / den`, for a positive `den`. -/
def ofRatio (negative : Bool) (num den : Nat) : Double :=
  if num == 0 then .finite negative 0 minExponent
  else
    let exponent := fittingExponent num den
    let mantissa := scaleDown num den exponent
    let exponent := if mantissa == 1 <<< 53 then exponent + 1 else exponent
    let mantissa := if mantissa == 1 <<< 53 then 1 <<< 52 else mantissa
    if exponent > maxExponent then .infinite negative
    else .finite negative mantissa exponent

/-- Zero. -/
def zero : Double := .finite false 0 minExponent

/-- The same number with the other sign. -/
def neg : Double → Double
  | .nan => .nan
  | .infinite negative => .infinite (!negative)
  | .finite negative mantissa exponent => .finite (!negative) mantissa exponent

/-- The nearest number to an integer. -/
def ofInt (n : Int) : Double := ofRatio (n < 0) n.natAbs 1

/-- The magnitude of a finite number as a quotient of natural numbers. -/
def ratio (mantissa : Nat) : Int → Nat × Nat
  | .ofNat e => (mantissa <<< e, 1)
  | .negSucc e => (mantissa, 1 <<< (e + 1))

/-- Whether a number is zero, of either sign. -/
def isZero : Double → Bool
  | .finite _ 0 _ => true
  | _ => false

/-- The integer that a number equals, if there is one. -/
def toInt? : Double → Option Int
  | .finite negative mantissa exponent =>
    let (num, den) := ratio mantissa exponent
    if num % den == 0 then
      some (if negative then -(num / den : Nat) else (num / den : Nat))
    else none
  | _ => none

/-- A finite number as a signed numerator and a positive denominator. -/
def signedRatio (negative : Bool) (mantissa : Nat) (exponent : Int) : Int × Nat :=
  let (num, den) := ratio mantissa exponent
  (if negative then -(num : Int) else (num : Int), den)

/-- The sum of two numbers, rounded. -/
def add : Double → Double → Double
  | .nan, _ => .nan
  | _, .nan => .nan
  | .infinite a, .infinite b => if a == b then .infinite a else .nan
  | .infinite a, .finite .. => .infinite a
  | .finite .., .infinite b => .infinite b
  | .finite na ma ea, .finite nb mb eb =>
    let (p, q) := signedRatio na ma ea
    let (r, s) := signedRatio nb mb eb
    let num : Int := p * s + r * q
    let negative := if num == 0 then na && nb else decide (num < 0)
    ofRatio negative num.natAbs (q * s)

/-- The product of two numbers, rounded. -/
def mul : Double → Double → Double
  | .nan, _ => .nan
  | _, .nan => .nan
  | .infinite a, .infinite b => .infinite (a != b)
  | .infinite a, .finite b m _ => if m == 0 then .nan else .infinite (a != b)
  | .finite a m _, .infinite b => if m == 0 then .nan else .infinite (a != b)
  | .finite na ma ea, .finite nb mb eb =>
    let (p, q) := ratio ma ea
    let (r, s) := ratio mb eb
    ofRatio (na != nb) (p * r) (q * s)

/-- Whether a number is less than a fraction, which is not rounded; a
not-a-number is not comparable. -/
def below : Double → Rat → Bool
  | .nan, _ => false
  | .infinite negative, _ => negative
  | .finite negative mantissa exponent, x =>
    let (p, q) := signedRatio negative mantissa exponent
    decide (p * x.den < x.num * q)

end Double

end Retag.Decimal
