import CurveBoard.Formula.FormulaError
import CurveBoard.Text.Blank
import CurveBoard.Text.Digit

/-!
# Tokens

A formula without its blanks is cut into numerals, names and symbols, each as long as it can be. A
numeral has digits of any script, with at most one point and at least one digit; a name has ASCII
letters.
-/
namespace CurveBoard

inductive Symbol
  | plus
  | minus
  | star
  | slash
  | caret
  | bang
  | opening
  | closing
  | comma
deriving DecidableEq, Repr

namespace Symbol

def char : Symbol → Char
  | plus => '+'
  | minus => '-'
  | star => '*'
  | slash => '/'
  | caret => '^'
  | bang => '!'
  | opening => '('
  | closing => ')'
  | comma => ','

def all : List Symbol := [plus, minus, star, slash, caret, bang, opening, closing, comma]

def ofChar? (c : Char) : Option Symbol := all.find? fun s => s.char == c

end Symbol

inductive Lexeme
  | number (digits : List Char)
  | name (letters : List Char)
  | symbol (s : Symbol)
deriving DecidableEq, Repr

namespace Lexeme

def text : Lexeme → List Char
  | number digits => digits
  | name letters => letters
  | symbol s => [s.char]

end Lexeme

/-- A lexeme and where it starts, counted in characters of the text without blanks. -/
structure Token where
  lexeme : Lexeme
  position : Nat
deriving DecidableEq, Repr

namespace Token

def text (t : Token) : List Char := t.lexeme.text

end Token

/-- A numeral at the start of a text, and what follows it. -/
def splitNumeral? (chars : List Char) : Option (List Char × List Char) :=
  let whole := chars.takeWhile isDecimalDigit
  match chars.dropWhile isDecimalDigit with
  | '.' :: rest =>
    let fraction := rest.takeWhile isDecimalDigit
    if whole.isEmpty && fraction.isEmpty then none
    else some (whole ++ '.' :: fraction, rest.dropWhile isDecimalDigit)
  | rest => if whole.isEmpty then none else some (whole, rest)

/-- The longest lexeme at the start of a text, and what follows it. -/
def firstLexeme? (chars : List Char) : Option (Lexeme × List Char) :=
  match splitNumeral? chars with
  | some (digits, rest) => some (.number digits, rest)
  | none =>
    match chars with
    | [] => none
    | c :: rest =>
      if c.isAlpha then some (.name (c :: rest.takeWhile Char.isAlpha), rest.dropWhile Char.isAlpha)
      else (Symbol.ofChar? c).map fun s => (.symbol s, rest)

theorem splitNumeral?_append {chars digits rest : List Char}
    (h : splitNumeral? chars = some (digits, rest)) : digits ++ rest = chars ∧ digits ≠ [] := by
  have split := List.takeWhile_append_dropWhile (p := isDecimalDigit) (l := chars)
  unfold splitNumeral? at h
  split at h
  · rename_i after found
    have inner := List.takeWhile_append_dropWhile (p := isDecimalDigit) (l := after)
    dsimp only at h
    split at h
    · simp at h
    · simp only [Option.some.injEq, Prod.mk.injEq] at h
      obtain ⟨rfl, rfl⟩ := h
      rw [found] at split
      simp only [List.append_assoc, List.cons_append, inner, split]
      simp
  · dsimp only at h
    split at h
    · simp at h
    · rename_i nonempty
      simp only [Option.some.injEq, Prod.mk.injEq] at h
      obtain ⟨rfl, rfl⟩ := h
      exact ⟨split, by simpa using nonempty⟩

theorem Symbol.char_of_ofChar? {c : Char} {s : Symbol} (h : ofChar? c = some s) : s.char = c := by
  simpa using List.find?_some h

/-- Nothing is lost, and every lexeme has a character. -/
theorem firstLexeme?_append {chars rest : List Char} {lexeme : Lexeme}
    (h : firstLexeme? chars = some (lexeme, rest)) :
    lexeme.text ++ rest = chars ∧ lexeme.text ≠ [] := by
  unfold firstLexeme? at h
  split at h
  · rename_i digits after found
    simp only [Option.some.injEq, Prod.mk.injEq] at h
    obtain ⟨rfl, rfl⟩ := h
    exact splitNumeral?_append found
  · split at h
    · simp at h
    · rename_i c after _
      split at h
      · simp only [Option.some.injEq, Prod.mk.injEq] at h
        obtain ⟨rfl, rfl⟩ := h
        simp [Lexeme.text, List.takeWhile_append_dropWhile]
      · simp only [Option.map_eq_some_iff, Prod.mk.injEq] at h
        obtain ⟨s, found, rfl, rfl⟩ := h
        simp [Lexeme.text, Symbol.char_of_ofChar? found]

theorem firstLexeme?_shorter {chars rest : List Char} {lexeme : Lexeme}
    (h : firstLexeme? chars = some (lexeme, rest)) : rest.length < chars.length := by
  obtain ⟨whole, nonempty⟩ := firstLexeme?_append h
  have positive := List.length_pos_iff.2 nonempty
  have total := congrArg List.length whole
  simp only [List.length_append] at total
  omega

/-- The tokens of a text that starts at a position. -/
def scanFrom (position : Nat) (chars : List Char) : Except Mistake (List Token) :=
  match chars with
  | [] => .ok []
  | c :: after =>
    match _h : firstLexeme? (c :: after) with
    | none => .error ⟨.unexpectedCharacter c, some position⟩
    | some (lexeme, rest) =>
      (scanFrom (position + lexeme.text.length) rest).map (⟨lexeme, position⟩ :: ·)
termination_by chars.length
decreasing_by exact firstLexeme?_shorter _h

/-- The tokens of a formula; positions do not count blanks. -/
def scan (source : List Char) : Except Mistake (List Token) := scanFrom 0 (withoutBlanks source)

end CurveBoard
