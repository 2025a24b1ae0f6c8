import CurveBoard.Text.Digit
import CurveBoard.Value.Basic

/-!
# Numbers in a format

A number is written with so many digits after the point, or with up to six significant digits. How
many digits come after the point is given by a value too, and read from its text. A text has no such
format, and what is neither a text nor a number has no format at all.
-/
namespace CurveBoard

/-- Why a value cannot be written in a format. -/
inductive FormatFault
  | noFormat (kind : String)
  | unknownCode (code kind : String)
  | missingPrecision
  | malformed (format kind : String)
  | tooManyDigits
  | largePrecision
  | argument (fault : ArgumentFault)
deriving DecidableEq, Repr

namespace FormatFault

def message : FormatFault → String
  | noFormat kind => s!"unsupported format string passed to {kind}.__format__"
  | unknownCode code kind => s!"Unknown format code {quoted code} for object of type {quoted kind}"
  | missingPrecision => "Format specifier missing precision"
  | malformed format kind =>
    s!"Invalid format specifier {quoted format} for object of type {quoted kind}"
  | tooManyDigits => "Too many decimal digits in format string"
  | largePrecision => "precision too big"
  | argument fault => fault.message

end FormatFault

namespace Value

/-- Whether there is any format for a value. -/
def hasFormat : Value → Bool
  | text _ => true
  | complex _ _ => true
  | v => v.number?.isSome

/-- The kind of a value as a format has it, where a double is a double wherever it comes from. -/
def formatKind : Value → String
  | element _ => "float"
  | v => v.kindName

/-- A value in a format with the given code, if `write` writes doubles in it. -/
def inFormat (code : String) (write : Float → String) (v : Value) : Except FormatFault String :=
  match v with
  | text _ => .error (.unknownCode code v.formatKind)
  | complex re im =>
    let imaginary := write im
    let sign := if imaginary.startsWith "-" then "" else "+"
    .ok (write re ++ sign ++ imaginary ++ "j")
  | v =>
    match v.number? with
    | some n => (n.toReal.map write).mapError (.argument ∘ .arithmetic)
    | none => .error (.noFormat v.formatKind)

/-- The number of digits after the point that a value asks for. -/
def places (decimals : Value) (kind : String) : Except FormatFault Nat :=
  let given := decimals.plainText.toList
  let digits := given.takeWhile isDecimalDigit
  let count := digitsValue digits
  if digits.isEmpty then .error .missingPrecision
  else if twoPower 63 ≤ count then .error .tooManyDigits
  else if digits.length < given.length then
    .error (.malformed ("." ++ decimals.plainText ++ "f") kind)
  else .ok count

/-- A value with digits after the point, as many as another value says. -/
def fixed (v decimals : Value) : Except FormatFault String :=
  if !v.hasFormat then .error (.noFormat v.formatKind)
  else
    (decimals.places v.formatKind).bind fun places =>
      if v.number?.isSome && twoPower 31 ≤ places then .error .largePrecision
      else v.inFormat "f" (fixedText places)

/-- A value with up to six significant digits. -/
def general (v : Value) : Except FormatFault String := v.inFormat "g" (generalText 6)

end Value

end CurveBoard
