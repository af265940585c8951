import CallRedirect.Text.Emoji
import CallRedirect.Text.Handler
import CallRedirect.Text.Style

/-! # Markup in messages

A message may hold style tags: a bracket, a lower case letter or one of `#`, `/`, `@`, and what follows up to
the closing bracket, with no other opening bracket in it. An odd number of backslashes before a tag makes it
plain text. A tag opens a style, or closes one if a slash comes first: `[/]` the last one that is open, `[/bold]`
the last open one of that style. A style need not be closed.

A tag that starts with `@` names a handler in place of a style.

* `tokens`: a text as plain characters and tags.
* `escapeMarkup`: a text that shows as the given one.
* `parts`: a message as what it shows and the tags that take effect.
* `paint`: what a message shows, with its tags removed, its escapes undone and its emoji codes replaced, and where its
  styles begin and end; or the fault of the first tag that has one.
-/

namespace CallRedirect.Text
set_option autoImplicit false

/-! ## Tags -/

def opensTag (c : Char) : Bool := c.isLower || c == '#' || c == '/' || c == '@'

/-- The inside of a tag at the start of the characters, and the rest. -/
def tag? : List Char → Option (List Char × List Char)
  | '[' :: c :: cs =>
    if opensTag c then (upTo? ']' (· == '[') cs).map fun (body, rest) => (c :: body, rest) else none
  | _ => none

theorem length_lt_of_tag? {cs inside rest : List Char} (h : tag? cs = some (inside, rest)) :
    rest.length < cs.length := by
  unfold tag? at h
  split at h
  · split at h
    · obtain ⟨⟨b, r⟩, hb, h⟩ := Option.map_eq_some_iff.1 h
      obtain ⟨rfl, rfl⟩ := by simpa using h
      have := length_lt_of_upTo? hb
      simp only [List.length_cons]
      omega
    · cases h
  · cases h

/-- A tag as it is written. -/
def bracketed (inside : List Char) : List Char := '[' :: inside ++ [']']

/-! ## Tokens -/

inductive Token where
  | char (c : Char)
  /-- A tag, without its brackets, and the number of backslashes right before it. -/
  | tag (backslashes : Nat) (inside : List Char)

def isBackslash (c : Char) : Bool := c == '\\'

/-- A text as plain characters and tags, each tag with the backslashes before it. -/
def tokens (cs : List Char) : List Token :=
  match h : tag? (cs.dropWhile isBackslash) with
  | some (inside, rest) =>
    have : rest.length < cs.length :=
      Nat.lt_of_lt_of_le (length_lt_of_tag? h) (List.dropWhile_sublist isBackslash).length_le
    .tag (cs.takeWhile isBackslash).length inside :: tokens rest
  | none =>
    match cs with
    | [] => []
    | c :: cs => .char c :: tokens cs
termination_by cs.length

namespace Token

/-- A tag that is plain text. -/
def isEscaped (backslashes : Nat) : Bool := backslashes % 2 == 1

def length : Token → Nat
  | .char _ => 1
  | .tag n inside => n + (bracketed inside).length

end Token

/-! ## Escaping -/

def Token.escape : Token → List Char
  | .char c => [c]
  | .tag n inside => List.replicate (2 * n + 1) '\\' ++ bracketed inside

/-- One more backslash after a single one at the end, which would otherwise escape what follows. -/
def closeBackslash (cs : List Char) : List Char :=
  match cs.reverse with
  | '\\' :: '\\' :: _ => cs
  | '\\' :: _ => cs ++ ['\\']
  | _ => cs

/-- A text in which no tag takes effect. -/
def escapeMarkup (s : String) : String :=
  String.ofList (closeBackslash ((tokens s.toList).flatMap Token.escape))

/-! ## Parts -/

/-- A message is a row of plain texts and tags. -/
inductive Part where
  | text (cs : List Char)
  /-- A tag that takes effect, and the position of its bracket in the message. -/
  | tag (position : Nat) (inside : List Char)
  deriving DecidableEq, Repr

/-- The parts of tokens that start at a position, after the plain characters `run`, last one first. -/
def partsFrom (position : Nat) (run : List Char) : List Token → List Part
  | [] => [.text run.reverse]
  | .char c :: rest => partsFrom (position + 1) (c :: run) rest
  | .tag n inside :: rest =>
    .text run.reverse :: .text (List.replicate (n / 2) '\\') ::
      (if Token.isEscaped n then .text (bracketed inside) else .tag (position + n) inside) ::
      partsFrom (position + (Token.tag n inside).length) [] rest

def parts (s : String) : List Part := partsFrom 0 [] (tokens s.toList)

/-! ## Plain texts -/

/-- A backslash before a bracket that opens no tag is not shown. -/
def bareBrackets : List Char → List Char
  | [] => []
  | '\\' :: '[' :: cs => '[' :: bareBrackets cs
  | c :: cs => c :: bareBrackets cs

/-- Bell, backspace, vertical tab, form feed and carriage return are not shown. -/
def isSilent (c : Char) : Bool :=
  let n := c.toNat
  n == 0x07 || n == 0x08 || n == 0x0B || n == 0x0C || n == 0x0D

/-- What a plain text shows. -/
def shown (cs : List Char) : List Char := (withEmoji (bareBrackets cs)).filter fun c => !isSilent c

/-! ## Styles -/

/-- Why a tag cannot take effect. -/
inductive MarkupFault where
  /-- It closes a style which is not open. -/
  | unmatched (tag : String) (position : Nat)
  | nothingOpen (position : Nat)
  /-- It names a color with a part that is no number. -/
  | number (fault : NumberFault)
  /-- It closes a handler with arguments that are no literals. -/
  | handler (fault : HandlerFault)
  deriving DecidableEq, Repr

def MarkupFault.message : MarkupFault → String
  | unmatched tag position =>
    "closing tag '" ++ tag ++ "' at position " ++ position.repr ++ " doesn't match any open tag"
  | nothingOpen position => "closing tag '[/]' at position " ++ position.repr ++ " has nothing to close"
  | number fault => fault.message
  | handler fault => fault.message

/-- A style that is open: its canonical name, what follows the equals sign in its tag, and where it starts in the text
that is shown. -/
structure OpenStyle where
  name : String
  extra : Option String
  start : Nat
  deriving DecidableEq, Repr

/-- Text that is shown in a style. -/
structure Span where
  start : Nat
  stop : Nat
  definition : String
  deriving DecidableEq, Repr

namespace OpenStyle

/-- The name of a style and all that follows it. -/
def definition (o : OpenStyle) : String :=
  match o.extra with
  | none => o.name
  | some extra => o.name ++ " " ++ extra

def isHandler (o : OpenStyle) : Bool := o.name.toList.head? == some '@'

/-- The style up to where it ends. -/
def span (o : OpenStyle) (stop : Nat) : Span := ⟨o.start, stop, o.definition⟩

/-- The fault of a handler's arguments, if there are any. -/
def fault? (o : OpenStyle) : Option HandlerFault :=
  match o.extra with
  | none => none
  | some extra => if extra.isEmpty then none else handlerFault? extra

end OpenStyle

/-- What has been shown of a message, its styles that are open, last one first, and those that are closed. -/
structure Canvas where
  text : List Char := []
  opened : List OpenStyle := []
  spans : List Span := []
  deriving DecidableEq, Repr

/-- The style that a tag names; what follows an equals sign is not part of its name. -/
def styleName (inside : List Char) : String := String.ofList (inside.takeWhile (· != '='))

/-- What follows the equals sign. -/
def styleExtra (inside : List Char) : Option String :=
  (inside.dropWhile (· != '=')).tail?.map String.ofList

/-- The canonical name of a style, or the fault of its color. -/
def styleNamed (name : String) : Except MarkupFault String := (canonicalStyle name).mapError .number

namespace Canvas

def write (c : Canvas) (cs : List Char) : Canvas := { c with text := c.text ++ shown cs }

/-- Opens a style. -/
def push (c : Canvas) (name : String) (extra : Option String) : Canvas :=
  { c with opened := ⟨name, extra, c.text.length⟩ :: c.opened }

/-- Closes one of the open styles, of which the others stay. A handler is no style of its text. -/
def close (c : Canvas) (style : OpenStyle) (others : List OpenStyle) : Except MarkupFault Canvas :=
  if style.isHandler then
    match style.fault? with
    | some fault => .error (.handler fault)
    | none => .ok { c with opened := others }
  else .ok { c with opened := others, spans := style.span c.text.length :: c.spans }

/-- Closes the last style that is open. -/
def closeLast (c : Canvas) (position : Nat) : Except MarkupFault Canvas :=
  match c.opened with
  | [] => .error (.nothingOpen position)
  | style :: others => c.close style others

/-- Closes the last open style of a name. -/
def closeNamed (c : Canvas) (tag : String) (position : Nat) (name : String) : Except MarkupFault Canvas :=
  match c.opened.find? fun o => o.name == name with
  | none => .error (.unmatched tag position)
  | some style => c.close style (c.opened.eraseP fun o => o.name == name)

/-- Shows a plain text, opens a style, or closes one. -/
def step (c : Canvas) : Part → Except MarkupFault Canvas
  | .text cs => .ok (c.write cs)
  | .tag position ('/' :: closed) =>
    if isBlankText (styleName closed) then c.closeLast position
    else (styleNamed (styleName closed)).bind (c.closeNamed (String.ofList (bracketed ('/' :: closed))) position)
  | .tag _ inside => (styleNamed (styleName inside)).map fun name => c.push name (styleExtra inside)

/-- All styles: those that are open end with the text. -/
def allSpans (c : Canvas) : List Span := (c.opened.map fun o => o.span c.text.length) ++ c.spans

end Canvas

/-- Paints a message. -/
def paint (s : String) : Except MarkupFault Canvas := (parts s).foldlM Canvas.step {}

end CallRedirect.Text
