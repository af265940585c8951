import CallRedirect.Text.Literal.Fault

/-! # Number literals

A number is written in base ten, with a fraction, an exponent and a mark for imaginary numbers if need be, or after
`0x`, `0o` or `0b` in another base. One underscore may stand between two digits.

`readNumeral` says whether a word that starts like a number is an imaginary one.
-/

namespace CallRedirect.Text.Literal
set_option autoImplicit false

/-- Digits, with single underscores between them. -/
def isDigits (isDigit : Char → Bool) (cs : List Char) : Bool :=
  ((String.ofList cs).splitOn "_").all fun part => !part.isEmpty && part.toList.all isDigit

def isHexDigit (c : Char) : Bool := c.isDigit || ('a' ≤ c && c ≤ 'f')

def isOctalDigit (c : Char) : Bool := '0' ≤ c && c ≤ '7'

def isBinaryDigit (c : Char) : Bool := c == '0' || c == '1'

/-- Reads the digits after the mark of a base; an underscore may come first. A decimal digit that the base does not have
is a fault of its own. -/
def readBased (base : String) (isDigit : Char → Bool) (cs : List Char) : Except Fault Bool :=
  let digits := if cs.head? == some '_' then cs.tail else cs
  if isDigits isDigit digits then .ok false
  else
    match digits.find? fun c => !isDigit c && c != '_' with
    | some c => .error (if c.isDigit then .digit c base else .number base)
    | none => .error (.number base)

/-- What stands before a mark, and what stands after it if there is one. -/
def cutAt (mark : Char) (cs : List Char) : List Char × Option (List Char) :=
  (cs.takeWhile (· != mark), (cs.dropWhile (· != mark)).tail?)

/-- An exponent, with or without a sign. -/
def isExponent : List Char → Bool
  | '+' :: cs => isDigits Char.isDigit cs
  | '-' :: cs => isDigits Char.isDigit cs
  | cs => isDigits Char.isDigit cs

/-- A number in base ten, without a mark for imaginary ones. -/
def isDecimal (cs : List Char) : Bool :=
  let (mantissa, exponent) := cutAt 'e' cs
  let (whole, fraction) := cutAt '.' mantissa
  (isDigits Char.isDigit whole || (whole.isEmpty && fraction.any fun f => !f.isEmpty)) &&
    (fraction.all fun f => f.isEmpty || isDigits Char.isDigit f) && exponent.all isExponent

/-- A whole number other than zero starts with a zero. -/
def hasLeadingZeros (cs : List Char) : Bool :=
  let whole := cs.takeWhile fun c => c.isDigit || c == '_'
  whole.head? == some '0' && (whole.any fun c => c != '0' && c != '_') &&
    !(cs.drop whole.length).head?.any fun c => c == '.' || c == 'e' || c == 'j'

/-- Reads a number in base ten. -/
def readDecimal (cs : List Char) : Except Fault Bool :=
  if hasLeadingZeros cs then .error .leadingZeros
  else
    match cutAt 'j' cs with
    | (body, none) => if isDecimal body then .ok false else .error (.number "decimal")
    | (body, some rest) =>
      if !isDecimal body then .error (.number "decimal")
      else if rest.isEmpty then .ok true
      else .error (.number "imaginary")

/-- Reads a word that starts with a digit, or with a point before one. -/
def readNumeral (cs : List Char) : Except Fault Bool :=
  match cs.map Char.toLower with
  | '0' :: 'x' :: digits => readBased "hexadecimal" isHexDigit digits
  | '0' :: 'o' :: digits => readBased "octal" isOctalDigit digits
  | '0' :: 'b' :: digits => readBased "binary" isBinaryDigit digits
  | cs => readDecimal cs

end CallRedirect.Text.Literal
