import CurveBoard.Value.Basic

/-!
# Named values and signatures

Requests are made by named values. A signature says which names a request must give and which it may
give; a request with another name, or without one that it must give, is refused.
-/
namespace CurveBoard

/-- Values by name, as a caller gives them. -/
abbrev Fields := List (String × Value)

namespace Fields

/-- The value under a name, or its default. -/
def get (fields : Fields) (name : String) (default : Value) : Value :=
  (fields.lookup name).getD default

end Fields

structure Signature where
  callee : String
  required : List String
  optional : List String

namespace Signature

/-- Refuses names that are not in the signature, and then names that are missing. -/
def check (s : Signature) (fields : Fields) : Except ArgumentFault Unit :=
  match fields.find? fun (name, _) => !s.required.contains name && !s.optional.contains name with
  | some (name, _) => .error (.unexpectedName s.callee name)
  | none =>
    let missing := s.required.filter fun name => (fields.lookup name).isNone
    if missing.isEmpty then .ok () else .error (.missingNames s.callee missing)

/-- The values that are given in the order of a signature's names, all of which must be given. What
does the work is counted as a value too. -/
def inOrder (s : Signature) (given : Value) : Except ArgumentFault (List Value) :=
  given.items.bind fun values =>
    let missing := s.required.drop values.length
    if !missing.isEmpty then .error (.missingNames s.callee missing)
    else if s.required.length < values.length then
      .error (.tooManyValues s.callee (s.required.length + 1) (values.length + 1))
    else .ok values

end Signature

end CurveBoard
