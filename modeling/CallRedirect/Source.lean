/-! # Source bytes

A file is the list of the bytes of its UTF-8 text, and every position in it is a byte offset.

* `Bytes.slice`: the bytes between two offsets, cut at the end of the file.
* `Bytes.text?`: the text that some bytes spell, unless they are not valid UTF-8.
* `Bytes.line`, `Bytes.column`: counted from one; a line ends at a line feed.
* `Bytes.newline`: the line end that new lines of a file take.
-/

namespace CallRedirect
set_option autoImplicit false

/-- The bytes of a file, or of a part of one. -/
abbrev Bytes := List UInt8

namespace Bytes

def lineFeed : UInt8 := 10

def carriageReturn : UInt8 := 13

/-! ## Text -/

/-- The UTF-8 encoding of a text. -/
def ofString (s : String) : Bytes := s.toUTF8.data.toList

/-- The text spelled by the bytes; `none` if they are not valid UTF-8. -/
def text? (b : Bytes) : Option String := String.fromUTF8? ⟨b.toArray⟩

/-- The text spelled by the bytes, empty if they are not valid UTF-8. It is asked only of the nodes of a syntax tree, which
start and stop at the boundaries of characters; there decoding never fails. -/
def text (b : Bytes) : String := b.text?.getD ""

/-! ## Windows -/

/-- The bytes from offset `start` up to offset `stop`; empty when `stop ≤ start`. -/
def slice (b : Bytes) (start stop : Nat) : Bytes := (b.take stop).drop start

@[simp] theorem slice_self (b : Bytes) (p : Nat) : b.slice p p = [] := by
  simp [slice]

theorem slice_append_slice (b : Bytes) {p q r : Nat} (hpq : p ≤ q) (hqr : q ≤ r) :
    b.slice p q ++ b.slice q r = b.slice p r := by
  have hq : b.take q = (b.take r).take q := by rw [List.take_take, Nat.min_eq_left hqr]
  have hp : (b.take r).drop q = ((b.take r).drop p).drop (q - p) := by
    rw [List.drop_drop, Nat.add_sub_cancel' hpq]
  rw [slice, slice, slice, hq, List.drop_take, hp, List.take_append_drop]

/-! ## Lines -/

def hasLineFeed (b : Bytes) : Bool := b.contains lineFeed

def lineFeeds (b : Bytes) : Nat := b.count lineFeed

/-- The line of an offset. -/
def line (b : Bytes) (p : Nat) : Nat := lineFeeds (b.take p) + 1

/-- The column of an offset, in bytes. -/
def column (b : Bytes) (p : Nat) : Nat :=
  ((b.take p).reverse.takeWhile (· != lineFeed)).length + 1

/-- Some carriage return is followed at once by a line feed. -/
def hasCrLf : Bytes → Bool
  | a :: b :: rest => (a == carriageReturn && b == lineFeed) || hasCrLf (b :: rest)
  | _ => false

/-- The line end of the file: carriage return and line feed if that pair occurs in it, else a line feed. -/
def newline (b : Bytes) : Bytes :=
  if hasCrLf b then [carriageReturn, lineFeed] else [lineFeed]

end Bytes
end CallRedirect
