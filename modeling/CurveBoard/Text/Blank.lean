import CurveBoard.Text.Ranges

/-!
# Blanks

The white space that may stand anywhere in a formula, and around a number or a board's argument.
-/
namespace CurveBoard

def blankRanges : List (Nat × Nat) :=
  [(0x9, 0xD), (0x1C, 0x20), (0x85, 0x85), (0xA0, 0xA0), (0x1680, 0x1680), (0x2000, 0x200A),
    (0x2028, 0x2029), (0x202F, 0x202F), (0x205F, 0x205F), (0x3000, 0x3000)]

def isBlank (c : Char) : Bool := inRanges blankRanges c

/-- Removes every blank. -/
def withoutBlanks (source : List Char) : List Char := source.filter (!isBlank ·)

/-- Removes the blanks at both ends. -/
def trimBlanks (source : List Char) : List Char :=
  ((source.dropWhile isBlank).reverse.dropWhile isBlank).reverse

/-- The narrower class that may surround a number read from ASCII text. -/
def isAsciiBlank (c : Char) : Bool := c == ' ' || ('\t' ≤ c && c ≤ '\r')

end CurveBoard
