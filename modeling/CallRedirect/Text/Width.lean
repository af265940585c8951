import CallRedirect.Text.Ranges
import CallRedirect.Text.WidthRanges

/-! # Widths and tab stops

A console is a grid of columns, of which a character takes none, one or two.

* `columns`: the number of columns that a text takes.
* `expandTabs`: a line with every tab written as blanks, up to the next multiple of eight columns.
-/

namespace CallRedirect.Text
set_option autoImplicit false

/-- The number of columns of a character that stands by itself. -/
def width (c : Char) : Nat :=
  if inRanges zeroWidthRanges c then 0 else if inRanges wideRanges c then 2 else 1

/-- A character that joins the next one to the last one. -/
def joiner : Char := '\u200d'

/-- A character that has the last one shown as an emoji. -/
def emojiVariant : Char := '\ufe0f'

/-- A character that has the last one shown as a letter. -/
def textVariant : Char := '\ufe0e'

/-- The columns of characters that follow one which may yet be shown as an emoji. What is joined to another character
takes no column. -/
def columnsAfter (last : Option Char) : List Char → Nat
  | [] => 0
  | [c] =>
    if c == joiner then 0
    else if c == emojiVariant then (if last.any (inRanges emojiVariantRanges) then 1 else 0)
    else width c
  | c :: d :: cs =>
    if c == joiner then columnsAfter last cs
    else if c == emojiVariant then
      (if last.any (inRanges emojiVariantRanges) then 1 else 0) + columnsAfter none (d :: cs)
    else width c + columnsAfter (if width c = 0 then last else some c) (d :: cs)

/-- The number of columns that a text takes. -/
def columns (cs : List Char) : Nat := columnsAfter none cs

/-! ## Tab stops -/

def tabSize : Nat := 8

/-- How far it is from a column to the next tab stop. -/
def toTabStop (column : Nat) : Nat := (tabSize - column % tabSize) % tabSize

/-- The line from a column on, with its tabs expanded; `part` is what stands before it since the last tab stop, last
character first. A tab takes one blank and as many more as lead to the next tab stop. -/
def expandFrom (column : Nat) (part : List Char) : List Char → List Char
  | [] => part.reverse
  | c :: cs =>
    if c == '\t' then
      let reached := column + columns (' ' :: part).reverse
      (' ' :: part).reverse ++ List.replicate (toTabStop reached) ' ' ++
        expandFrom (reached + toTabStop reached) [] cs
    else expandFrom column (c :: part) cs

/-- A line with its tabs expanded. -/
def expandTabs (line : String) : String := String.ofList (expandFrom 0 [] line.toList)

end CallRedirect.Text
