/-! # Identifiers

A name is an ASCII letter, an underscore or a dollar sign, followed by such characters or digits.
The end of a text is also found right before a line feed that ends it, so `isIdentifier` takes a name that one line
feed follows.
-/

namespace CallRedirect.Text
set_option autoImplicit false

def isNameStart (c : Char) : Bool := c.isAlpha || c == '_' || c == '$'

def isNamePart (c : Char) : Bool := isNameStart c || c.isDigit

/-- The characters are a name. -/
def isName : List Char → Bool
  | [] => false
  | c :: cs => isNameStart c && cs.all isNamePart

/-- The characters without one line feed at their end. -/
def withoutLineEnd (cs : List Char) : List Char :=
  if cs.getLast? == some '\n' then cs.dropLast else cs

/-- The text is a name, or a name and a line feed. -/
def isIdentifier (s : String) : Bool := isName (withoutLineEnd s.toList)

end CallRedirect.Text
