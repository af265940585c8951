import CallRedirect.Text.Ranges
import CallRedirect.Text.UnprintableRanges

/-! # Inspected texts

`inspected` writes a text between quotes so that a reader sees every character of it: those that cannot be printed are
written by their code points.
-/

namespace CallRedirect.Text
set_option autoImplicit false

def isPrintable (c : Char) : Bool := !inRanges unprintableRanges c

/-- A number in hexadecimal digits, with zeros in front up to a width. -/
def hexadecimal (width n : Nat) : List Char :=
  List.replicate (width - (Nat.toDigits 16 n).length) '0' ++ Nat.toDigits 16 n

/-- The code point of a character, in the shortest of three forms. -/
def codePointEscape (c : Char) : List Char :=
  let n := c.toNat
  if n < 0x100 then '\\' :: 'x' :: hexadecimal 2 n
  else if n < 0x10000 then '\\' :: 'u' :: hexadecimal 4 n
  else '\\' :: 'U' :: hexadecimal 8 n

/-- How a character stands between quotes. -/
def inspectedChar (quote c : Char) : List Char :=
  if c == quote || c == '\\' then ['\\', c]
  else if c == '\n' then ['\\', 'n']
  else if c == '\r' then ['\\', 'r']
  else if c == '\t' then ['\\', 't']
  else if isPrintable c then [c]
  else codePointEscape c

/-- Single quotes, unless they would have to be escaped and double quotes would not. -/
def quoteFor (cs : List Char) : Char := if cs.contains '\x27' && !cs.contains '"' then '"' else '\x27'

def inspected (s : String) : String :=
  let quote := quoteFor s.toList
  String.ofList (quote :: s.toList.flatMap (inspectedChar quote) ++ [quote])

end CallRedirect.Text
