import Retag.Decimal.Double

/-!
# Shortest decimals

The fewest decimal digits that read back as a given floating-point number, and
of those the nearest to it. A number reads back from every decimal in an
interval around it; `shortest` tries grids of one digit, two digits, and so on,
and takes the first grid with a point in the interval. If a grid has a point
there, one of the two grid points next to the number is such a point, so only
those two are looked at. Seventeen digits always suffice.

`Double.text` writes the digits: positionally while the leading digit stands
between the fourth decimal place and the sixteenth place before the point, and
with an exponent otherwise.
-/

namespace Retag.Decimal

/-- The decimals that read back as `mantissa · 2 ^ exponent`: those between `low
/ den` and `high / den`, the ends included iff `closed`. The number itself is
`num / den`. -/
structure Interval where
  /-- The lower end, over `den`. -/
  low : Nat
  /-- The number itself, over `den`. -/
  num : Nat
  /-- The upper end, over `den`. -/
  high : Nat
  den : Nat
  closed : Bool

/-- The interval of a positive number. Below a power of two the neighbours are
twice as close, and an even mantissa wins ties. -/
def Interval.of (mantissa : Nat) (exponent : Int) : Interval :=
  let (num, den) := Double.ratio mantissa (exponent - 2)
  let (unit, _) := Double.ratio 1 (exponent - 2)
  let below :=
    if mantissa == 1 <<< 52 && exponent != Double.minExponent then unit else 2 * unit
  { low := 4 * num - below, num := 4 * num, high := 4 * num + 2 * unit, den := den,
    closed := mantissa % 2 == 0 }

/-- Whether the decimal `digits · 10 ^ place` lies in the interval. -/
def Interval.holds (range : Interval) (digits : Nat) (place : Int) : Bool :=
  let (scaled, unit) : Nat × Nat := match place with
    | .ofNat p => (digits * tenTo p * range.den, 1)
    | .negSucc p => (digits * range.den, tenTo (p + 1))
  if range.closed then range.low * unit ≤ scaled && scaled ≤ range.high * unit
  else range.low * unit < scaled && scaled < range.high * unit

/-- The number divided by `10 ^ place`, as a quotient. -/
def Interval.over (range : Interval) : Int → Nat × Nat
  | .ofNat p => (range.num, range.den * tenTo p)
  | .negSucc p => (range.num * tenTo (p + 1), range.den)

/-- The point of the grid `10 ^ place` that reads back and is nearest to the number. -/
def Interval.nearest? (range : Interval) (place : Int) : Option Nat :=
  let (num, den) := range.over place
  let below := num / den
  match range.holds below place, range.holds (below + 1) place with
  | true, true =>
    let twice := 2 * (num % den)
    if twice < den || (twice == den && below % 2 == 0) then some below
    else some (below + 1)
  | true, false => some below
  | false, true => some (below + 1)
  | false, false => none

/-- The place of the leading decimal digit of a positive quotient: the least `k`
with `num / den < 10 ^ k`, found from above. -/
def leadingPlace (num den : Nat) : Int :=
  let guess : Int := ((num.log2 : Int) - (den.log2 : Int)) * 30103 / 100000 + 2
  let reaches (k : Int) : Bool := match k with
    | .ofNat p => den * tenTo p ≤ num
    | .negSucc p => den ≤ num * tenTo (p + 1)
  if reaches (guess - 1) then guess
  else if reaches (guess - 2) then guess - 1
  else if reaches (guess - 3) then guess - 2
  else guess - 3

/-- The first grid, from the coarsest on, with a point that reads back: its
digits and place. -/
def Interval.firstHit (range : Interval) (lead : Int) : Nat → Nat → Nat × Int
  | 0, count =>
    ((range.over (lead - count)).1 / (range.over (lead - count)).2, lead - count)
  | tries + 1, count =>
    match range.nearest? (lead - count) with
    | some digits => (digits, lead - count)
    | none => range.firstHit lead tries (count + 1)

/-- The decimal digits of a natural number, the leading one first. -/
def digitsOf (n : Nat) : List Char := Nat.toDigits 10 n

/-- The fewest digits that read back as a positive number, without trailing
zeros, and the place of the point: the number is `0.d₁d₂… · 10 ^ point`. -/
def shortest (mantissa : Nat) (exponent : Int) : List Char × Int :=
  let range := Interval.of mantissa exponent
  let (digits, place) := range.firstHit (leadingPlace range.num range.den) 17 1
  let chars := digitsOf digits
  let point := place + chars.length
  ((chars.reverse.dropWhile (· == '0')).reverse, point)

/-- Digits with an exponent: one digit before the point, a sign, at least two
exponent digits. -/
def scientific (digits : List Char) (point : Int) : List Char :=
  let exponent := point - 1
  let sign := if exponent < 0 then '-' else '+'
  let count := digitsOf exponent.natAbs
  let count := if count.length < 2 then '0' :: count else count
  let body := match digits with
    | [] => ['0']
    | [d] => [d]
    | d :: rest => d :: '.' :: rest
  body ++ 'e' :: sign :: count

/-- Digits around a decimal point, with at least one digit on each side. -/
def positional (digits : List Char) (point : Int) : List Char :=
  match point with
  | .negSucc n => '0' :: '.' :: List.replicate (n + 1) '0' ++ digits
  | .ofNat 0 => '0' :: '.' :: digits
  | .ofNat n =>
    if digits.length ≤ n then digits ++ List.replicate (n - digits.length) '0'
      ++ ['.', '0']
    else digits.take n ++ '.' :: digits.drop n

/-- The decimal text of a number. -/
def Double.text : Double → String
  | .nan => "nan"
  | .infinite false => "inf"
  | .infinite true => "-inf"
  | .finite negative 0 _ => if negative then "-0.0" else "0.0"
  | .finite negative mantissa exponent =>
    let (digits, point) := shortest mantissa exponent
    let body := if -4 < point && point ≤ 16 then positional digits point
      else scientific digits point
    String.ofList (if negative then '-' :: body else body)

end Retag.Decimal
