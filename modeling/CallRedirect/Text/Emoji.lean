import CallRedirect.Text.Blank
import CallRedirect.Text.Delimited
import CallRedirect.Text.EmojiNames
import CallRedirect.Text.Lower
import CallRedirect.Text.Width

/-! # Emoji codes

A name between two colons, with no blank in it, stands for an emoji: `:key:`. Capital letters do not matter, and the
name may say which variant is meant: `:key-text:`, `:key-emoji:`. A name that is not known is left as it stands, and its
second colon opens no other code.
-/

namespace CallRedirect.Text
set_option autoImplicit false

/-- Words taken two by two. -/
def inPairs : List String → List (String × String)
  | a :: b :: rest => (a, b) :: inPairs rest
  | _ => []

/-- The emoji by their names. -/
def emojiTable : List (String × String) := inPairs (words emojiNames)

def emoji? (name : List Char) : Option String := emojiTable.lookup (lower (String.ofList name))

/-- The characters without an ending, if they have it. -/
def withoutEnd? (ending : String) (cs : List Char) : Option (List Char) :=
  if ending.toList.isSuffixOf cs then some (cs.take (cs.length - ending.length)) else none

/-- The name in a code, and what marks the variant. -/
def nameAndVariant (code : List Char) : List Char × List Char :=
  match withoutEnd? "-emoji" code, withoutEnd? "-text" code with
  | some name, _ => (name, [emojiVariant])
  | none, some name => (name, [textVariant])
  | none, none => (code, [])

/-- What a code shows. -/
def shownCode (code : List Char) : List Char :=
  match emoji? (nameAndVariant code).1 with
  | some emoji => emoji.toList ++ (nameAndVariant code).2
  | none => ':' :: code ++ [':']

/-- The characters with emoji in place of their codes. -/
def withEmoji : List Char → List Char
  | [] => []
  | c :: cs =>
    if c == ':' then
      match h : upTo? ':' isBlank cs with
      | none => c :: withEmoji cs
      | some (code, rest) =>
        have := length_lt_of_upTo? h
        shownCode code ++ withEmoji rest
    else c :: withEmoji cs
termination_by cs => cs.length

end CallRedirect.Text
