import CallRedirect.Text.Color
import CallRedirect.Text.Join
import CallRedirect.Text.Lower

/-! # Styles

A style says how text is shown: which traits it has or has not, its color, its background and the address it links to.
Definitions that say the same may differ in words: `b` and `bold`, `red bold` and `bold red`.

* `style?`: the style of a definition, which may fail on a color with a part that is no number.
* `canonicalStyle`: a definition in the one way that all definitions of its style share.
-/

namespace CallRedirect.Text
set_option autoImplicit false

/-! ## Traits -/

inductive Trait where
  | bold
  | dim
  | italic
  | underline
  | blink
  | blinkFast
  | reverse
  | conceal
  | strike
  | underlineTwice
  | frame
  | encircle
  | overline
  deriving DecidableEq, Repr

namespace Trait

/-- All traits, in the order in which they are written. -/
def all : List Trait :=
  [bold, dim, italic, underline, blink, blinkFast, reverse, conceal, strike, underlineTwice, frame, encircle, overline]

def name : Trait → String
  | bold => "bold"
  | dim => "dim"
  | italic => "italic"
  | underline => "underline"
  | blink => "blink"
  | blinkFast => "blink2"
  | reverse => "reverse"
  | conceal => "conceal"
  | strike => "strike"
  | underlineTwice => "underline2"
  | frame => "frame"
  | encircle => "encircle"
  | overline => "overline"

/-- The short name that some traits have. -/
def shortName? : Trait → Option String
  | bold => some "b"
  | dim => some "d"
  | italic => some "i"
  | underline => some "u"
  | reverse => some "r"
  | conceal => some "c"
  | strike => some "s"
  | underlineTwice => some "uu"
  | overline => some "o"
  | _ => none

def ofWord? (word : String) : Option Trait := all.find? fun t => t.name == word || t.shortName? == some word

end Trait

/-! ## Styles -/

structure Style where
  /-- Whether text has a trait, for the traits that the style is about. -/
  traits : Trait → Option Bool := fun _ => none
  color : Option String := none
  background : Option String := none
  link : Option String := none

namespace Style

/-- The style with one trait settled. -/
def settle (s : Style) (t : Trait) (has : Bool) : Style :=
  { s with traits := fun u => if u = t then some has else s.traits u }

/-- Reads one word that needs no other. -/
def readWord? (s : Style) (word : String) : Except NumberFault (Option Style) :=
  match Trait.ofWord? word with
  | some t => .ok (some (s.settle t true))
  | none => (isColor word).map fun known => if known then some { s with color := some word } else none

/-- The word says something about the next one. -/
def isParticle (word : String) : Bool := word == "on" || word == "not" || word == "link"

/-- Reads a word that another one follows, and says whether the other one is read with it. -/
def readWords? (s : Style) (word next : String) : Except NumberFault (Option (Style × Bool)) :=
  if !isParticle word then (s.readWord? word).map fun read => read.map (·, false)
  else if word == "on" then
    (isColor (lower next)).map fun known =>
      if known then some ({ s with background := some (lower next) }, true) else none
  else if word == "not" then .ok ((Trait.ofWord? next).map fun t => (s.settle t false, true))
  else .ok (some ({ s with link := some next }, true))

/-- Reads the words of a definition, which add to a style one after the other; `none` if one of them says nothing. -/
def read? (s : Style) : List String → Except NumberFault (Option Style)
  | [] => .ok (some s)
  | [word] => if isParticle (lower word) then .ok none else s.readWord? (lower word)
  | word :: next :: rest =>
    match s.readWords? (lower word) next with
    | .error fault => .error fault
    | .ok none => .ok none
    | .ok (some (s, false)) => s.read? (next :: rest)
    | .ok (some (s, true)) => s.read? rest

/-- The words of a style. -/
def words (s : Style) : List String :=
  (Trait.all.filterMap fun t => (s.traits t).map fun has => if has then t.name else "not " ++ t.name) ++
    s.color.toList ++ (s.background.toList.map fun c => "on " ++ c) ++ (s.link.toList.map fun l => "link " ++ l)

def print (s : Style) : String := if s.words.isEmpty then "none" else joined " " s.words

end Style

/-- The style that a definition gives, if it gives one. -/
def style? (definition : String) : Except NumberFault (Option Style) :=
  if trim definition == "none" then .ok (some {}) else ({} : Style).read? (words definition)

/-- A definition in canonical words; one that gives no style is only trimmed and written in small letters. -/
def canonicalStyle (definition : String) : Except NumberFault String :=
  (style? definition).map fun
    | some s => s.print
    | none => lower (trim definition)

end CallRedirect.Text
