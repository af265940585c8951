import CallRedirect.Text.Literal.Item
import CallRedirect.Text.Literal.Number
import CallRedirect.Text.WordRanges

/-! # Reading literals

A literal is read character by character. What has been read is a row of items in every bracket that is still open, and
what the last characters have begun: a word, a quoted text, a comment.

`read` gives the shape of a literal, or the fault of a text that is none.
-/

namespace CallRedirect.Text.Literal
set_option autoImplicit false

/-- A letter, a digit or an underscore, in any script. -/
def isWordChar (c : Char) : Bool := inRanges wordRanges c

/-- A character that goes on a word, well chosen or not. -/
def inWord (c : Char) : Bool := c.isAlphanum || c == '_' || 0x80 ≤ c.toNat

def isQuote (c : Char) : Bool := c == '"' || c == '\x27'

/-- What the last characters have begun. -/
inductive Mode where
  | between
  /-- A word, last character first. -/
  | word (cs : List Char)
  | point
  | comment
  | backslash
  /-- A backslash did not end its line: nothing is read any more. -/
  | stuck
  /-- The first quotes of a text: one or two. -/
  | quotes (kind : TextKind) (quote : Char) (two : Bool)
  /-- A text of one line; whether the last character was a backslash that escapes the next. -/
  | text (kind : TextKind) (quote : Char) (escaped : Bool)
  /-- A text between three quotes on each side, and how many of the last three have been read. -/
  | block (kind : TextKind) (quote : Char) (closing : Nat) (escaped : Bool)
  deriving DecidableEq, Repr

/-- An open bracket, its line, and the items before it, last one first. -/
structure Opened where
  bracket : Char
  line : Nat
  before : List Item

structure Reading where
  mode : Mode := .between
  line : Nat := 1
  /-- The open brackets, innermost first. -/
  opened : List Opened := []
  /-- The items in the innermost one, last one first. -/
  items : List Item := []

namespace Reading

def add (r : Reading) (item : Item) : Reading := { r with mode := .between, items := item :: r.items }

def within (r : Reading) (mode : Mode) : Reading := { r with mode := mode }

/-- The reading, one line further if the character ends one. -/
def past (r : Reading) (c : Char) : Reading := if c == '\n' then { r with line := r.line + 1 } else r

/-- A word is a number if it starts with a digit or a point. -/
def isNumeral (cs : List Char) : Bool := cs.getLast?.any fun c => c.isDigit || c == '.'

/-- Ends a word. -/
def endWord (r : Reading) (cs : List Char) : Except Fault Reading :=
  if isNumeral cs then (readNumeral cs.reverse).map fun imaginary => r.add (.number imaginary)
  else
    match cs.reverse.find? fun c => !isWordChar c with
    | some c => .error (.character c)
    | none => .ok (r.add (.name (String.ofList cs.reverse)))

/-- A number goes on with a point if it has been digits so far, and with a sign after the letter of its exponent. -/
def numeralGoesOn (cs : List Char) (c : Char) : Bool :=
  if c == '.' then cs.all fun d => d.isDigit || d == '_'
  else if c == '+' || c == '-' then
    match cs with
    | e :: d :: _ => (e == 'e' || e == 'E') && (d.isDigit || d == '.') && !(cs.any fun x => x == 'x' || x == 'X')
    | _ => false
  else c.isAlphanum || c == '_'

/-- A word goes on with a character. -/
def goesOn (cs : List Char) (c : Char) : Bool := if isNumeral cs then numeralGoesOn cs c else inWord c

/-- The kind of text that a word right before a quote announces. -/
def kindOf? (cs : List Char) : Option TextKind :=
  match String.ofList (cs.reverse.map Char.toLower) with
  | "r" | "u" => some .characters
  | "b" | "br" | "rb" => some .bytes
  | "f" | "fr" | "rf" => some .computed
  | _ => none

def closingOf (bracket : Char) : Char :=
  if bracket == '(' then ')' else if bracket == '[' then ']' else '\x7d'

def isOpening (c : Char) : Bool := c == '(' || c == '[' || c == '\x7b'

def isClosing (c : Char) : Bool := c == ')' || c == ']' || c == '\x7d'

/-- Closes the innermost bracket: its items become one. -/
def close (r : Reading) (c : Char) : Except Fault Reading :=
  match r.opened with
  | [] => .error (.neverOpened c)
  | o :: outer =>
    if closingOf o.bracket != c then
      .error (.mismatched c o.bracket (if o.line = r.line then none else some o.line))
    else
      .ok { r with
        opened := outer
        items := .group o.bracket r.items.isEmpty (meaning (some o.bracket) r.items.reverse) :: o.before }

/-- Reads a character that belongs to nothing begun. A line ends only outside of brackets. -/
def stepBetween (r : Reading) (c : Char) : Except Fault Reading :=
  if c == '\n' then .ok ((if r.opened.isEmpty && !r.items.isEmpty then r.add .lineEnd else r).past c)
  else if c == ' ' || c == '\t' || c == '\x0c' then .ok r
  else if inWord c then .ok (r.within (.word [c]))
  else if c == '.' then .ok (r.within .point)
  else if c == '#' then .ok (r.within .comment)
  else if c == '\\' then .ok (r.within .backslash)
  else if isQuote c then .ok (r.within (.quotes .characters c false))
  else if isOpening c then .ok { r with opened := ⟨c, r.line, r.items⟩ :: r.opened, items := [] }
  else if isClosing c then r.close c
  else if isPrintable c then .ok (r.add (.mark c))
  else .error (.character c)

/-- Reads a character of a text on one line. -/
def stepText (r : Reading) (kind : TextKind) (quote : Char) (escaped : Bool) (c : Char) : Except Fault Reading :=
  if escaped then .ok ((r.within (.text kind quote false)).past c)
  else if c == '\n' then .error (.endlessText r.line)
  else if c == quote then .ok (r.add (.text kind))
  else .ok (r.within (.text kind quote (c == '\\')))

/-- Reads a character of a text between three quotes. -/
def stepBlock (r : Reading) (kind : TextKind) (quote : Char) (closing : Nat) (escaped : Bool) (c : Char) : Reading :=
  if escaped then (r.within (.block kind quote 0 false)).past c
  else if c == quote then if closing = 2 then r.add (.text kind) else r.within (.block kind quote (closing + 1) false)
  else (r.within (.block kind quote 0 (c == '\\'))).past c

/-- Reads one character. -/
def step (r : Reading) (c : Char) : Except Fault Reading :=
  match r.mode with
  | .between => r.stepBetween c
  | .word cs =>
    if goesOn cs c then .ok (r.within (.word (c :: cs)))
    else
      match if isQuote c then kindOf? cs else none with
      | some kind => .ok (r.within (.quotes kind c false))
      | none => (r.endWord cs).bind fun r => r.stepBetween c
  | .point => if c.isDigit then .ok (r.within (.word [c, '.'])) else (r.add (.mark '.')).stepBetween c
  | .comment => if c == '\n' then (r.within .between).stepBetween c else .ok r
  | .backslash => .ok (if c == '\n' then (r.within .between).past c else r.within .stuck)
  | .stuck => .ok r
  | .quotes kind quote false =>
    if c == quote then .ok (r.within (.quotes kind quote true)) else r.stepText kind quote false c
  | .quotes kind quote true =>
    if c == quote then .ok (r.within (.block kind quote 0 false)) else (r.add (.text kind)).stepBetween c
  | .text kind quote escaped => r.stepText kind quote escaped c
  | .block kind quote closing escaped => .ok (r.stepBlock kind quote closing escaped c)

/-- Ends what the last characters have begun. -/
def finish (r : Reading) : Except Fault Reading :=
  match r.mode with
  | .between | .comment | .stuck => .ok r
  | .word cs => r.endWord cs
  | .point => .ok (r.add (.mark '.'))
  | .backslash => .ok (r.within .stuck)
  | .quotes kind _ true => .ok (r.add (.text kind))
  | .quotes .. | .text .. => .error (.endlessText r.line)
  | .block .. => .error (.endlessBlock r.line)

/-- The row of an open bracket up to the next open bracket, as if that were closed. -/
def rowBefore (inner : Opened) : List Item := (.group inner.bracket false (.ok (.other none)) :: inner.before).reverse

/-- The first fault in the form of the rows before open brackets, innermost bracket first. -/
def outerFault? : List Opened → Option Fault
  | [] => none
  | inner :: outer =>
    match outerFault? outer with
    | some fault => some fault
    | none => brokenRowFault? (outer.head?.map Opened.bracket) (rowBefore inner)

/-- The fault of a reading that breaks off: that of what was read on the line, or else that it breaks off. -/
def brokenOffFault (r : Reading) (otherwise : Fault) : Fault :=
  if r.opened.any fun o => o.line != r.line then otherwise
  else
    match outerFault? r.opened with
    | some fault => fault
    | none => (brokenRowFault? (r.opened.head?.map Opened.bracket) r.items.reverse).getD otherwise

end Reading

/-- The characters with every line end written as a line feed. -/
def withLineFeeds : List Char → List Char
  | [] => []
  | '\r' :: '\n' :: cs => '\n' :: withLineFeeds cs
  | '\r' :: cs => '\n' :: withLineFeeds cs
  | c :: cs => c :: withLineFeeds cs

def isLineEnd : Item → Bool
  | .lineEnd => true
  | _ => false

/-- The items of a text, which has one line at most outside of brackets. -/
def items (cs : List Char) : Except Fault (List Item) := do
  if cs.contains '\x00' then throw .nul
  let r ← ((withLineFeeds cs).foldlM Reading.step {}) >>= Reading.finish
  if r.mode == .stuck then throw (r.brokenOffFault .afterBackslash)
  match r.opened with
  | o :: _ => throw (r.brokenOffFault (.neverClosed o.bracket))
  | [] => return (r.items.dropWhile isLineEnd).reverse

/-- The shape of a literal. -/
def read (s : String) : Except Fault Shape := (items s.toList).bind (meaning none)

end CallRedirect.Text.Literal
