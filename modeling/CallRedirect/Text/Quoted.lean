/-! # Quoted texts

`quoted` writes a text as a string literal between double quotes: quotes, backslashes and control characters
are escaped, all else stands as it is. `unquoted` takes the quotes off a string literal and leaves its escapes
alone.
-/

namespace CallRedirect.Text
set_option autoImplicit false

/-- How a character stands inside a string literal. -/
def escaped (c : Char) : List Char :=
  match c with
  | '"' => ['\\', '"']
  | '\\' => ['\\', '\\']
  | '\n' => ['\\', 'n']
  | '\r' => ['\\', 'r']
  | '\t' => ['\\', 't']
  | '\x08' => ['\\', 'b']
  | '\x0c' => ['\\', 'f']
  | c =>
    if c.toNat < 0x20 then
      ['\\', 'u', '0', '0', Nat.digitChar (c.toNat / 16), Nat.digitChar (c.toNat % 16)]
    else [c]

/-- The string literal of a text. -/
def quoted (s : String) : String := String.ofList ('"' :: s.toList.flatMap escaped ++ ['"'])

/-- The characters between two equal quotes; other characters stay as they are. -/
def unquotedChars : List Char → List Char
  | [] => []
  | q :: cs =>
    if (q == '"' || q == '\x27') && cs.getLast? == some q then cs.dropLast else q :: cs

/-- The contents of a string literal, escapes kept. -/
def unquoted (s : String) : String := String.ofList (unquotedChars s.toList)

end CallRedirect.Text
