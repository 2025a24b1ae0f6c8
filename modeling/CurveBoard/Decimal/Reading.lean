import CurveBoard.Decimal.Binary
import CurveBoard.Text.Blank
import CurveBoard.Text.Digit

/-!
# Reading numbers

A number may be surrounded by blanks, signed, written with the decimal digits of any script, and
grouped by single underscores between digits. A real number has a point, an exponent, both or
neither, or is one of the words for infinity and NaN; a whole number has digits only.
-/
namespace CurveBoard

/-- Digits of every script become ASCII digits, and blanks beyond ASCII become spaces. -/
def asciiForm (c : Char) : Char :=
  match digitValue? c with
  | some value => Char.ofNat (0x30 + value)
  | none => if 0x7F < c.toNat && isBlank c then ' ' else c

/-- A number's text in ASCII form, without the blanks around it. -/
def bareNumeral (text : List Char) : List Char :=
  (((text.map asciiForm).dropWhile isAsciiBlank).reverse.dropWhile isAsciiBlank).reverse

def startsWithDigit : List Char → Bool
  | c :: _ => c.isDigit
  | [] => false

/-- Removes the underscores, each of which has to stand between two digits. -/
def ungrouped? (afterDigit : Bool) : List Char → Option (List Char)
  | [] => some []
  | c :: rest =>
    if c = '_' then
      if afterDigit && startsWithDigit rest then ungrouped? false rest else none
    else (ungrouped? c.isDigit rest).map (c :: ·)

/-- Splits a sign off; the first component tells whether it is a minus. -/
def splitSign : List Char → Bool × List Char
  | c :: rest => if c = '-' then (true, rest) else if c = '+' then (false, rest)
    else (false, c :: rest)
  | [] => (false, [])

/-- An integer exponent after its mark; nothing at all stands for exponent zero. -/
def readExponent? : List Char → Option Int
  | [] => some 0
  | mark :: rest =>
    if mark = 'e' || mark = 'E' then
      let (negative, digits) := splitSign rest
      if !digits.isEmpty && digits.all Char.isDigit then
        let value : Int := digitsValue digits
        some (if negative then -value else value)
      else none
    else none

/-- The fraction after a point, and what follows it. -/
def splitFraction : List Char → List Char × List Char
  | c :: rest =>
    if c = '.' then (rest.takeWhile Char.isDigit, rest.dropWhile Char.isDigit) else ([], c :: rest)
  | [] => ([], [])

/-- An unsigned number in positional or scientific writing. -/
def readMagnitude? (negative : Bool) (text : List Char) : Option Float :=
  let whole := text.takeWhile Char.isDigit
  let (fraction, rest) := splitFraction (text.dropWhile Char.isDigit)
  if whole.isEmpty && fraction.isEmpty then none
  else (readExponent? rest).map fun exponent =>
    floatOfDecimal negative (digitsValue (whole ++ fraction)) (exponent - fraction.length)

/-- The words for infinity and NaN, in any case. -/
def readWord? (negative : Bool) (text : List Char) : Option Float :=
  let word := text.map Char.toLower
  if word = "inf".toList || word = "infinity".toList then
    some (if negative then -(1.0 / 0.0) else 1.0 / 0.0)
  else if word = "nan".toList then some (0.0 / 0.0)
  else none

/-- The double nearest to the number that a text spells. -/
def readFloat? (text : List Char) : Option Float :=
  (ungrouped? false (bareNumeral text)).bind fun numeral =>
    let (negative, magnitude) := splitSign numeral
    (readMagnitude? negative magnitude).orElse fun _ => readWord? negative magnitude

/-- The whole number that a text spells. -/
def readInteger? (text : List Char) : Option Int :=
  (ungrouped? false (bareNumeral text)).bind fun numeral =>
    let (negative, digits) := splitSign numeral
    if !digits.isEmpty && digits.all Char.isDigit then
      let value : Int := digitsValue digits
      some (if negative then -value else value)
    else none

/-- The value of an unsigned numeral of a formula: digits of any script with at most one point. -/
def numeralValue (text : List Char) : Float :=
  let whole := text.takeWhile (· ≠ '.')
  let fraction := (text.dropWhile (· ≠ '.')).drop 1
  floatOfDecimal false (digitsValue (whole ++ fraction)) (-fraction.length)

end CurveBoard
