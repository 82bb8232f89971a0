/-
# Single-precision numbers as text

Writing has two forms: the shortest digits that read back, laid out in a given
style, and a fixed number of decimal places. Reading accepts a sign, a decimal
with an optional point and exponent, and the names of the special values.
-/

import AvatarRelay.Binary32.Shortest

namespace AvatarRelay.Binary32

-- Powers are those of the core library, whatever other instances are in scope.
attribute [local instance (2000)] instPowNat

/-- How shortest digits are laid out. The leading digit stands at `10 ^ e`;
exponents from `positionalFrom` to `positionalTo` are written positionally, all
others with a signed power of ten. -/
structure Style where
  /-- The choice between two shortest decimals that are equally near. -/
  ties : TieRule
  positionalFrom : Int
  positionalTo : Int
  /-- Whole numbers written positionally still end in a zero place. -/
  keepsPlace : Bool
  /-- Text of a NaN. -/
  nanText : String
  /-- Text of positive and of negative infinity. -/
  infinityText : String
  negativeInfinityText : String

/-- Reports of window statistics write numbers as data-interchange text does. -/
def Style.report : Style where
  ties := .even
  positionalFrom := -6
  positionalTo := 12
  keepsPlace := true
  nanText := "null"
  infinityText := "null"
  negativeInfinityText := "null"

/-- Messages and gauges never use an exponent; all finite numbers lie within the
range. -/
def Style.plain : Style where
  ties := .away
  positionalFrom := -64
  positionalTo := 64
  keepsPlace := false
  nanText := "NaN"
  infinityText := "inf"
  negativeInfinityText := "-inf"

private def zeros (count : Nat) : String :=
  "".pushn '0' count

def positional (keepsPlace : Bool) (decimal : Decimal) : String :=
  let digits := toString decimal.digits
  let leading : Int := decimal.exponent + digits.length - 1
  if 0 ≤ decimal.exponent then
    digits ++ zeros decimal.exponent.toNat ++ if keepsPlace then ".0" else ""
  else if 0 ≤ leading then
    let whole := leading.toNat + 1
    String.ofList (digits.toList.take whole) ++ "." ++ String.ofList (digits.toList.drop whole)
  else "0." ++ zeros (-leading - 1).toNat ++ digits

def scientific (decimal : Decimal) : String :=
  let digits := toString decimal.digits
  let leading : Int := decimal.exponent + digits.length - 1
  let places := digits.toList.drop 1
  let significand :=
    String.ofList (digits.toList.take 1) ++
      if places.isEmpty then "" else "." ++ String.ofList places
  let exponent := if leading < 0 then toString leading else "+" ++ toString leading
  significand ++ "e" ++ exponent

def text (style : Style) (number : Binary32) : String :=
  if number.isNaN then style.nanText
  else if number.isInfinite then
    if number.signBit then style.negativeInfinityText else style.infinityText
  else
    let sign := if number.signBit then "-" else ""
    let decimal := if number.isZero then ⟨0, 0⟩ else shortest style.ties number.pattern
    let leading : Int := decimal.exponent + (toString decimal.digits).length - 1
    sign ++
      if style.positionalFrom ≤ leading && leading ≤ style.positionalTo then
        positional style.keepsPlace decimal
      else scientific decimal

/-- The number with the given count of decimal places, at least one. The exact
value is rounded, and a tie goes to the even last digit. -/
def fixed (places : Nat) (number : Binary32) : String :=
  if number.isNaN then "NaN"
  else
    let sign := if number.signBit then "-" else ""
    if number.isInfinite then sign ++ "inf"
    else
      let scaled := roundDiv (number.units * 10 ^ places) (2 ^ unitPlaces)
      let fraction := toString (scaled % 10 ^ places)
      sign ++ toString (scaled / 10 ^ places) ++ "."
        ++ zeros (places - fraction.length) ++ fraction

/-! ## Reading -/

private def digitsValue (digits : List Char) : Nat :=
  digits.foldl (fun value digit => 10 * value + (digit.toNat - '0'.toNat)) 0

private def splitSign : List Char → Bool × List Char
  | '-' :: rest => (true, rest)
  | '+' :: rest => (false, rest)
  | rest => (false, rest)

/-- The exponent part: nothing, or a mark, an optional sign and digits. -/
private def exponent? : List Char → Option Int
  | [] => some 0
  | mark :: rest =>
    let (negative, digits) := splitSign rest
    if (mark = 'e' || mark = 'E') && !digits.isEmpty && digits.all Char.isDigit then
      some (if negative then -(digitsValue digits : Int) else digitsValue digits)
    else none

/-- Reads a decimal without its sign: digits with an optional point, at least one
digit in all, and an optional exponent. -/
private def decimal? (negative : Bool) (characters : List Char) : Option Binary32 :=
  let whole := characters.takeWhile Char.isDigit
  let afterWhole := characters.dropWhile Char.isDigit
  let (places, rest) :=
    match afterWhole with
    | '.' :: tail => (tail.takeWhile Char.isDigit, tail.dropWhile Char.isDigit)
    | other => ([], other)
  if whole.isEmpty && places.isEmpty then none
  else (exponent? rest).map fun exponent =>
    ofDecimal negative (digitsValue (whole ++ places)) (exponent - places.length)

/-- Reads a number; the answer is the nearest one, and infinity beyond the largest.
The special values are named in letters of any case. -/
def ofString? (source : String) : Option Binary32 :=
  let (negative, characters) := splitSign source.toList
  let name := String.ofList (characters.map Char.toLower)
  if name = "inf" || name = "infinity" then
    some (ofPattern negative infinityPattern)
  else if name = "nan" then some (ofPattern negative nan.pattern)
  else decimal? negative characters

end AvatarRelay.Binary32
