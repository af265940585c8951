/-! # Decimal digits

A script with digits of its own has ten of them in a row, zero first.

* `digit?`: what a digit of any script counts.
* `readNumber`: the number that some digits spell.
-/

namespace CallRedirect.Text
set_option autoImplicit false

/-- The zeros of all scripts. -/
def zeros : List Nat :=
   [0x30, 0x660, 0x6F0, 0x7C0, 0x966, 0x9E6, 0xA66, 0xAE6, 0xB66, 0xBE6, 0xC66, 0xCE6, 0xD66, 0xDE6, 0xE50,
    0xED0, 0xF20, 0x1040, 0x1090, 0x17E0, 0x1810, 0x1946, 0x19D0, 0x1A80, 0x1A90, 0x1B50, 0x1BB0, 0x1C40, 0x1C50,
    0xA620, 0xA8D0, 0xA900, 0xA9D0, 0xA9F0, 0xAA50, 0xABF0, 0xFF10, 0x104A0, 0x10D30, 0x11066, 0x110F0, 0x11136,
    0x111D0, 0x112F0, 0x11450, 0x114D0, 0x11650, 0x116C0, 0x11730, 0x118E0, 0x11950, 0x11C50, 0x11D50, 0x11DA0,
    0x16A60, 0x16AC0, 0x16B50, 0x1D7CE, 0x1D7D8, 0x1D7E2, 0x1D7EC, 0x1D7F6, 0x1E140, 0x1E2F0, 0x1E950, 0x1FBF0]

/-- What a digit counts. -/
def digit? (c : Char) : Option Nat :=
  (zeros.find? fun first => first ≤ c.toNat && c.toNat < first + 10).map fun first => c.toNat - first

def isDigit (c : Char) : Bool := (digit? c).isSome

/-- Why digits spell no number. -/
inductive NumberFault where
  | empty
  | tooLong (digits : Nat)
  deriving DecidableEq, Repr

/-- The most digits that a number may have. -/
def digitLimit : Nat := 4300

def NumberFault.message : NumberFault → String
  | empty => "invalid literal for int() with base 10: ''"
  | tooLong digits =>
    "Exceeds the limit (" ++ digitLimit.repr ++ " digits) for integer string conversion: value has " ++ digits.repr ++
      " digits; use sys.set_int_max_str_digits() to increase the limit"

/-- The number that digits spell; a character that is no digit counts nothing. -/
def spelled (cs : List Char) : Nat := cs.foldl (fun n c => 10 * n + (digit? c).getD 0) 0

def readNumber (cs : List Char) : Except NumberFault Nat :=
  if cs.isEmpty then .error .empty
  else if digitLimit < cs.length then .error (.tooLong cs.length)
  else .ok (spelled cs)

end CallRedirect.Text
