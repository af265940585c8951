/-! # Blank characters

`isBlank` is the white space of Unicode together with the four information separators; a zero width space or
a byte order mark is not blank. `trim` cuts blanks at both ends of a text, `trimEnd` at the end only, and `words` is
what stands between blanks.
-/

namespace CallRedirect.Text
set_option autoImplicit false

def isBlank (c : Char) : Bool :=
  let n := c.toNat
  (0x09 ≤ n && n ≤ 0x0D) || (0x1C ≤ n && n ≤ 0x20) || n == 0x85 || n == 0xA0 || n == 0x1680 ||
    (0x2000 ≤ n && n ≤ 0x200A) || n == 0x2028 || n == 0x2029 || n == 0x202F || n == 0x205F || n == 0x3000

/-- The text without the blanks at its end. -/
def trimEnd (s : String) : String := String.ofList (s.toList.reverse.dropWhile isBlank).reverse

/-- The text without the blanks at its two ends. -/
def trim (s : String) : String := trimEnd (String.ofList (s.toList.dropWhile isBlank))

/-- The words among some characters, the first of which goes on from the characters `word`, last one first. -/
def wordsAfter (word : List Char) : List Char → List String
  | [] => if word.isEmpty then [] else [String.ofList word.reverse]
  | c :: cs =>
    if !isBlank c then wordsAfter (c :: word) cs
    else if word.isEmpty then wordsAfter [] cs
    else String.ofList word.reverse :: wordsAfter [] cs

/-- The words of a text. -/
def words (s : String) : List String := wordsAfter [] s.toList

/-- The text holds blanks only. -/
def isBlankText (s : String) : Bool := s.toList.all isBlank

end CallRedirect.Text
