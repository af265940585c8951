import CallRedirect.Text.Inspect

/-! # Faults of literals

Why a text is no literal. Most faults are of its form; two are of its value: it may be a well-formed expression and
still have to be computed, or put what can change into a set.
-/

namespace CallRedirect.Text.Literal
set_option autoImplicit false

inductive Fault where
  /-- Something stands where it cannot. -/
  | misplaced
  /-- Two expressions stand side by side in brackets. -/
  | commaMissing
  /-- A single equals sign stands after a name. -/
  | equalsSign
  /-- A single equals sign stands after a constant. -/
  | assigned
  /-- A choice between two expressions has only one. -/
  | elseMissing
  /-- A star stands before no expression. -/
  | loneStar
  /-- A star stands before an expression that is in brackets alone. -/
  | starred
  | doubleStarred
  /-- The name of a command of old stands before an expression, without brackets. -/
  | bracketsMissing (name : String)
  /-- An entry of a map has a key only. -/
  | colonMissing
  /-- An entry of a map has a key and a colon only. -/
  | valueMissing
  | neverClosed (bracket : Char)
  | neverOpened (bracket : Char)
  /-- A bracket closes one of another kind, which may have been opened on an earlier line. -/
  | mismatched (closing opening : Char) (openedOn : Option Nat)
  /-- A quoted text does not end on its line. -/
  | endlessText (line : Nat)
  /-- A quoted text of several lines does not end. -/
  | endlessBlock (line : Nat)
  /-- A number of some base is not well formed. -/
  | number (base : String)
  | digit (digit : Char) (base : String)
  | leadingZeros
  | character (c : Char)
  /-- A backslash does not end its line. -/
  | afterBackslash
  | nul
  /-- Texts of characters and of bytes stand side by side. -/
  | mixedTexts
  /-- What can change is no member of a set and no key of a map. -/
  | changeable (kind : String)
  /-- An expression that would have to be computed. -/
  | computed
  deriving DecidableEq, Repr

namespace Fault

/-- The text is well formed and the fault is of its value. -/
def isOfValue : Fault → Bool
  | changeable _ | computed => true
  | _ => false

/-- A code point in capital hexadecimal digits, four at least. -/
def codePoint (c : Char) : String := "U+" ++ String.ofList ((hexadecimal 4 c.toNat).map Char.toUpper)

def message : Fault → String
  | misplaced => "invalid syntax"
  | commaMissing => "invalid syntax. Perhaps you forgot a comma?"
  | equalsSign => "invalid syntax. Maybe you meant '==' or ':=' instead of '='?"
  | assigned => "cannot assign to literal here. Maybe you meant '==' instead of '='?"
  | elseMissing => "expected 'else' after 'if' expression"
  | loneStar => "Invalid star expression"
  | starred => "cannot use starred expression here"
  | doubleStarred => "cannot use double starred expression here"
  | bracketsMissing name =>
    "Missing parentheses in call to '" ++ name ++ "'. Did you mean " ++ name ++ "(...)?"
  | colonMissing => "':' expected after dictionary key"
  | valueMissing => "expression expected after dictionary key and ':'"
  | neverClosed bracket => "'" ++ bracket.toString ++ "' was never closed"
  | neverOpened bracket => "unmatched '" ++ bracket.toString ++ "'"
  | mismatched closing opening openedOn =>
    "closing parenthesis '" ++ closing.toString ++ "' does not match opening parenthesis '" ++ opening.toString ++
      "'" ++ (match openedOn with
      | none => ""
      | some line => " on line " ++ line.repr)
  | endlessText line => "unterminated string literal (detected at line " ++ line.repr ++ ")"
  | endlessBlock line => "unterminated triple-quoted string literal (detected at line " ++ line.repr ++ ")"
  | number base => "invalid " ++ base ++ " literal"
  | digit d base => "invalid digit '" ++ d.toString ++ "' in " ++ base ++ " literal"
  | leadingZeros =>
    "leading zeros in decimal integer literals are not permitted; use an 0o prefix for octal integers"
  | character c =>
    if isPrintable c then "invalid character '" ++ c.toString ++ "' (" ++ codePoint c ++ ")"
    else "invalid non-printable character " ++ codePoint c
  | afterBackslash => "unexpected character after line continuation character"
  | nul => "source code string cannot contain null bytes"
  | mixedTexts => "cannot mix bytes and nonbytes literals"
  | changeable kind => "unhashable type: '" ++ kind ++ "'"
  | computed => "malformed node or string"

end Fault
end CallRedirect.Text.Literal
