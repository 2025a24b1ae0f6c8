import CurveBoard.Formula.Compiled
import CurveBoard.Value.Number

/-!
# Values as given

What a caller may hand to a board: nothing, a truth value, a number of one of several kinds, a text,
a tuple, a record, or a compiled formula or curve. Messages name the kind of a value that an
operation has no use for, and show a value that is out of place as it would be written in a call.
-/
namespace CurveBoard

inductive Value
  | absent
  | truth (b : Bool)
  | whole (n : Int)
  | real (x : Float)
  /-- A double taken from an array. -/
  | element (x : Float)
  | complex (re im : Float)
  | text (s : String)
  | tuple (items : List Value)
  | record (fields : List (String × Value))
  | formula (f : CompiledFormula)
  | curve (c : ParametricFormula)

/-- A complex number as messages show it; a real part of positive zero is left out. -/
def complexText (re im : Float) : String :=
  let sign := if (Binary.ofFloat? im).any Binary.negative || im < 0.0 then "" else "+"
  if re == 0.0 && !(Binary.ofFloat? re).any Binary.negative then complexPartText im ++ "j"
  else "(" ++ complexPartText re ++ sign ++ complexPartText im ++ "j)"

namespace Value

def ofNumber : Number → Value
  | .whole n => whole n
  | .real x => real x

/-- The name of the kind of a value. -/
def kindName : Value → String
  | absent => "NoneType"
  | truth _ => "bool"
  | whole _ => "int"
  | real _ => "float"
  | element _ => "float64"
  | complex _ _ => "complex"
  | text _ => "str"
  | tuple _ => "tuple"
  | record _ => "dict"
  | formula _ => "CompiledExpression"
  | curve _ => "ParametricExpression"

/-- The full name of the kind of a value, as some messages give it. -/
def typeName : Value → String
  | element _ => "numpy.float64"
  | v => v.kindName

/-- The name of the kind of a value with the name of the place it belongs to. -/
def qualifiedName : Value → String
  | element _ => "numpy.float64"
  | v => "builtins." ++ v.kindName

mutual
/-- A value as messages show it: texts in quotes, tuples in parentheses. -/
def shown : Value → String
  | absent => "None"
  | truth b => if b then "True" else "False"
  | whole n => toString n
  | real x => floatText x
  | element x => "np.float64(" ++ floatText x ++ ")"
  | complex re im => complexText re im
  | text s => quoted s
  | tuple [item] => "(" ++ item.shown ++ ",)"
  | tuple items => "(" ++ ", ".intercalate (shownAll items) ++ ")"
  | record fields => "\x7b" ++ ", ".intercalate (shownFields fields) ++ "\x7d"
  | formula f => f.describe
  | curve c => c.describe

def shownAll : List Value → List String
  | [] => []
  | item :: items => item.shown :: shownAll items

def shownFields : List (String × Value) → List String
  | [] => []
  | (name, value) :: fields => (quoted name ++ ": " ++ value.shown) :: shownFields fields
end

/-- The text that a value becomes where a text is wanted. -/
def plainText : Value → String
  | text s => s
  | element x => floatText x
  | v => v.shown

/-- Whether a value counts as true: numbers other than zero, and whatever is not empty. -/
def isTrue : Value → Bool
  | absent => false
  | truth b => b
  | whole n => n != 0
  | real x => !(x == 0.0)
  | element x => !(x == 0.0)
  | complex re im => !(re == 0.0 && im == 0.0)
  | text s => !s.isEmpty
  | tuple items => !items.isEmpty
  | record fields => !fields.isEmpty
  | formula _ => true
  | curve _ => true

def isAbsent : Value → Bool
  | absent => true
  | _ => false

/-- Whether a value is a certain text. -/
def isText (s : String) : Value → Bool
  | text s' => s' == s
  | _ => false

/-- A value unless it is absent. -/
def present? : Value → Option Value
  | absent => none
  | v => some v

/-- An integer or double, a truth value counting as zero or one. -/
def number? : Value → Option Number
  | truth b => some (.whole (if b then 1 else 0))
  | whole n => some (.whole n)
  | real x => some (.real x)
  | element x => some (.real x)
  | _ => none

end Value

/-- Why a value is not of use. -/
inductive ArgumentFault
  | notReal (kind : String)
  | notRealText (text : String)
  | notWhole (kind : String)
  | notWholeText (text : String)
  | mustBeReal (kind : String)
  | notOrdered (comparison left right : String)
  | noLength (kind : String)
  | notIterable (kind : String)
  | notSubscriptable (kind : String)
  | indexOutOfRange (kind : String)
  | missingItem (index : Nat)
  | scalarIndex
  | notSingle
  | notScalable (kind : String)
  | notRoundable (kind : String)
  | noOperation (operator left right : String)
  | noNegative (kind : String)
  | notUnpackable (kind : String)
  | tooFewItems (count : Nat)
  | tooManyItems
  | notAKey (kind : String)
  | notAText (kind : String)
  | unexpectedName (callee name : String)
  | missingNames (callee : String) (names : List String)
  | tooManyValues (callee : String) (most count : Nat)
  | arithmetic (fault : ArithmeticFault)
deriving DecidableEq, Repr

namespace ArgumentFault

/-- Names as they are listed in a sentence. -/
def enumeration : List String → String
  | [] => ""
  | [name] => name
  | [name, last] => s!"{name} and {last}"
  | names => ", ".intercalate names.dropLast ++ ", and " ++ names.getLastD ""

def message : ArgumentFault → String
  | notReal kind => s!"float() argument must be a string or a real number, not '{kind}'"
  | notRealText text => s!"could not convert string to float: {quoted text}"
  | notWhole kind =>
    s!"int() argument must be a string, a bytes-like object or a real number, not '{kind}'"
  | notWholeText text => s!"invalid literal for int() with base 10: {quoted text}"
  | mustBeReal kind => s!"must be real number, not {kind}"
  | notOrdered comparison left right =>
    s!"'{comparison}' not supported between instances of '{left}' and '{right}'"
  | noLength kind => s!"object of type '{kind}' has no len()"
  | notIterable kind => s!"'{kind}' object is not iterable"
  | notSubscriptable kind => s!"'{kind}' object is not subscriptable"
  | indexOutOfRange kind =>
    if kind = "str" then "string index out of range" else s!"{kind} index out of range"
  | missingItem index => toString index
  | scalarIndex => "invalid index to scalar variable."
  | notSingle => "only length-1 arrays can be converted to Python scalars"
  | notScalable kind =>
    if kind = "str" || kind = "tuple" then "can't multiply sequence by non-int of type 'float'"
    else s!"unsupported operand type(s) for *: '{kind}' and 'float'"
  | notRoundable kind => s!"type {kind} doesn't define __round__ method"
  | noOperation operator left right =>
    s!"unsupported operand type(s) for {operator}: '{left}' and '{right}'"
  | noNegative kind => s!"bad operand type for unary -: '{kind}'"
  | notUnpackable kind => s!"cannot unpack non-iterable {kind} object"
  | tooFewItems count => s!"not enough values to unpack (expected 2, got {count})"
  | tooManyItems => "too many values to unpack (expected 2)"
  | notAKey kind => s!"unhashable type: '{kind}'"
  | notAText kind => s!"expected string or bytes-like object, got '{kind}'"
  | unexpectedName callee name => s!"{callee}() got an unexpected keyword argument {quoted name}"
  | missingNames callee names =>
    let arguments := if names.length = 1 then "argument" else "arguments"
    s!"{callee}() missing {names.length} required positional {arguments}: "
      ++ enumeration (names.map quoted)
  | tooManyValues callee most count =>
    s!"{callee}() takes {most} positional arguments but {count} were given"
  | arithmetic fault => fault.message

end ArgumentFault

namespace Value

/-- A value as a double: a real number, or a text that spells one. -/
def toReal : Value → Except ArgumentFault Float
  | text s => (readFloat? s.toList).elim (.error (.notRealText s)) .ok
  | v => match v.number? with
    | some n => n.toReal.mapError .arithmetic
    | none => .error (.notReal v.kindName)

/-- A value as an integer: a real number cut off after the point, or a text that spells an
integer. -/
def toWhole : Value → Except ArgumentFault Int
  | text s => (readInteger? s.toList).elim (.error (.notWholeText s)) .ok
  | v => match v.number? with
    | some n => n.toInteger.mapError .arithmetic
    | none => .error (.notWhole v.kindName)

/-- The parts of a tuple, the characters of a text, or the names of a record. -/
def items : Value → Except ArgumentFault (List Value)
  | tuple items => .ok items
  | text s => .ok (s.toList.map fun c => text (String.singleton c))
  | record fields => .ok (fields.map fun (name, _) => text name)
  | v => .error (.notIterable v.typeName)

/-- One part of a tuple, or one character of a text. -/
def item (v : Value) (index : Nat) : Except ArgumentFault Value :=
  match v with
  | tuple items => items[index]?.elim (.error (.indexOutOfRange "tuple")) .ok
  | text s => s.toList[index]?.elim (.error (.indexOutOfRange "str")) fun c =>
    .ok (text (String.singleton c))
  | record _ => .error (.missingItem index)
  | element _ => .error .scalarIndex
  | v => .error (.notSubscriptable v.typeName)

/-- The two parts of a value that has two. -/
def twoItems (v : Value) : Except ArgumentFault (Value × Value) :=
  match v.items with
  | .error _ => .error (.notUnpackable v.typeName)
  | .ok [first, second] => .ok (first, second)
  | .ok items => .error (if items.length < 2 then .tooFewItems items.length else .tooManyItems)

/-- The first two parts of a value as doubles; more parts do not matter. -/
def firstTwo (v : Value) : Except ArgumentFault (Float × Float) :=
  ((v.item 0).bind toReal).bind fun x => ((v.item 1).bind toReal).map fun y => (x, y)

mutual
/-- Whether a value may be looked up: no record is, and no tuple that has one in it. -/
def isKey : Value → Bool
  | record _ => false
  | tuple items => areKeys items
  | _ => true

def areKeys : List Value → Bool
  | [] => true
  | v :: rest => v.isKey && areKeys rest
end

/-- A value that is looked up among texts, if it is one. -/
def soughtText (v : Value) : Except ArgumentFault (Option String) :=
  match v with
  | text s => .ok (some s)
  | v => if v.isKey then .ok none else .error (.notAKey (record []).kindName)

/-- A value that has to be a text. -/
def mustBeText (v : Value) : Except ArgumentFault String :=
  match v with
  | text s => .ok s
  | v => .error (.notAText v.typeName)

/-- A value that a double is multiplied with. -/
def factor (v : Value) : Except ArgumentFault Float :=
  match v.number? with
  | some n => n.toReal.mapError .arithmetic
  | none => .error (.notScalable v.typeName)

/-- Whether one value is at most another. Numbers are compared with numbers and texts with texts. -/
def isAtMost (v v' : Value) : Except ArgumentFault Bool :=
  match v.number?, v'.number?, v, v' with
  | some m, some n, _, _ => .ok (m.isAtMost n)
  | _, _, text s, text s' => .ok (decide (s ≤ s'))
  | _, _, v, v' => .error (.notOrdered "<=" v.typeName v'.typeName)

/-- The sum or the difference of two numbers, exact if both are integers. -/
def combine (operator : String) (onIntegers : Int → Int → Int)
    (onReals : Float → Float → Float) (v v' : Value) : Except ArgumentFault Value :=
  match v.number?, v'.number? with
  | some m, some n => ((m.combine onIntegers onReals n).map ofNumber).mapError .arithmetic
  | _, _ => .error (.noOperation operator v.typeName v'.typeName)

def plus : Value → Value → Except ArgumentFault Value := combine "+" (· + ·) (· + ·)

def minus : Value → Value → Except ArgumentFault Value := combine "-" (· - ·) (· - ·)

end Value

end CurveBoard
