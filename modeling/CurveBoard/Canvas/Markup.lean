/-!
# Markup

An element of an XML document has a name, attributes in alphabetical order, a text, and elements
inside it. Attributes without a value are left out.
-/
namespace CurveBoard

/-- A character of a text between tags. -/
def escapedInText (c : Char) : List Char :=
  if c = '&' then "&amp;".toList
  else if c = '<' then "&lt;".toList
  else if c = '>' then "&gt;".toList
  else [c]

/-- A character of an attribute's value. -/
def escapedInAttribute (c : Char) : List Char :=
  if c = '\r' then "&#13;".toList
  else if c = '\n' then "&#10;".toList
  else if c = '\t' then "&#09;".toList
  else if c = Char.ofNat 0x22 then "&quot;".toList
  else escapedInText c

def escapedText (s : String) : String := String.ofList (s.toList.flatMap escapedInText)

def escapedAttribute (s : String) : String := String.ofList (s.toList.flatMap escapedInAttribute)

structure Element where
  name : String
  attributes : List (String × String)
  text : String
deriving DecidableEq, Repr

namespace Element

def attributeText (name value : String) : String :=
  if value.isEmpty then "" else " " ++ name ++ "=\"" ++ escapedAttribute value ++ "\""

/-- The start tag without its end. -/
def opening (e : Element) : String :=
  "<" ++ e.name ++ String.join (e.attributes.map fun (name, value) => attributeText name value)

/-- The element with what is inside it already written. -/
def write (e : Element) (inside : String) : String :=
  let content := escapedText e.text ++ inside
  if content.isEmpty then e.opening ++ " />"
    else e.opening ++ ">" ++ content ++ "</" ++ e.name ++ ">"

end Element

end CurveBoard
