import CallRedirect.Text.Blank
import CallRedirect.Text.Width

/-! # Wrapped lines

A line that is too wide for its place is broken before words, and inside of a word that is wider than the place alone.

* `clusters`: characters with the marks that belong to them, which are never parted.
* `chop`: a word cut to a width.
* `wrap`: a line broken to a width. Nothing is lost: `flatten_wrap`.
-/

namespace CallRedirect.Text
set_option autoImplicit false

/-! ## Clusters -/

/-- A character and what is shown on top of it, last one first, with the columns that they take. -/
structure Cluster where
  chars : List Char
  columns : Nat

/-- The clusters with more characters in the last one, or in a new one if there is none yet. -/
def extendLast (done : List Cluster) (chars : List Char) (columns : Nat) : List Cluster :=
  match done with
  | [] => [⟨chars, columns⟩]
  | c :: done => ⟨chars ++ c.chars, c.columns + columns⟩ :: done

/-- The clusters of characters after some others, last one first; `last` is the last character that took a column and
may yet be shown as an emoji. A joiner takes the next character into the cluster before it. -/
def clustersAfter (done : List Cluster) (last : Option Char) : List Char → List Cluster
  | [] => done.reverse
  | [c] =>
    if c == emojiVariant && !done.isEmpty then
      (extendLast done [c] (if last.any (inRanges emojiVariantRanges) then 1 else 0)).reverse
    else if c == joiner || width c = 0 then (extendLast done [c] 0).reverse
    else (⟨[c], width c⟩ :: done).reverse
  | c :: d :: cs =>
    if c == joiner && !done.isEmpty then clustersAfter (extendLast done [d, c] 0) last cs
    else if c == emojiVariant && !done.isEmpty then
      clustersAfter (extendLast done [c] (if last.any (inRanges emojiVariantRanges) then 1 else 0)) none (d :: cs)
    else if width c = 0 then clustersAfter (extendLast done [c] 0) last (d :: cs)
    else clustersAfter (⟨[c], width c⟩ :: done) (some c) (d :: cs)

def clusters (cs : List Char) : List Cluster := clustersAfter [] none cs

/-- The characters of clusters, in order. -/
def clusterChars (cs : List Cluster) : List Char := cs.flatMap fun c => c.chars.reverse

theorem clusterChars_extendLast (done : List Cluster) (chars : List Char) (columns : Nat) :
    clusterChars (extendLast done chars columns).reverse = clusterChars done.reverse ++ chars.reverse := by
  cases done <;> simp [extendLast, clusterChars]

theorem clusterChars_clustersAfter (done : List Cluster) (last : Option Char) (cs : List Char) :
    clusterChars (clustersAfter done last cs) = clusterChars done.reverse ++ cs := by
  fun_induction clustersAfter done last cs with
  | case1 => simp [clusterChars]
  | case2 => rw [clusterChars_extendLast]; rfl
  | case3 => rw [clusterChars_extendLast]; rfl
  | case4 => simp [clusterChars]
  | case5 done last c d cs _ ih => rw [ih, clusterChars_extendLast]; simp
  | case6 done last c d cs _ _ ih => rw [ih, clusterChars_extendLast]; simp
  | case7 done last c d cs _ _ _ ih => rw [ih, clusterChars_extendLast]; simp
  | case8 done last c d cs _ _ _ ih => rw [ih]; simp [clusterChars]

/-! ## Words -/

/-- Lines that are finished, last one first, and one that is not, last character first. -/
structure Broken where
  lines : List (List Char) := []
  line : List Char := []
  columns : Nat := 0

namespace Broken

/-- Adds characters to the line. -/
def add (b : Broken) (cs : List Char) (columns : Nat) : Broken :=
  { b with line := cs.reverse ++ b.line, columns := b.columns + columns }

/-- Finishes the line, unless nothing stands on it. -/
def next (b : Broken) : Broken :=
  if b.line.isEmpty then { b with columns := 0 } else { lines := b.line.reverse :: b.lines }

def all (b : Broken) : List (List Char) := (b.line.reverse :: b.lines).reverse

theorem flatten_all (b : Broken) : b.all.flatten = b.lines.reverse.flatten ++ b.line.reverse := by
  simp [all]

theorem flatten_all_add (b : Broken) (cs : List Char) (columns : Nat) :
    (b.add cs columns).all.flatten = b.all.flatten ++ cs := by
  simp [flatten_all, add]

theorem flatten_all_next (b : Broken) : b.next.all.flatten = b.all.flatten := by
  unfold next
  split
  · simp [flatten_all]
  · simp [flatten_all]

end Broken

/-- Puts a cluster on the line, or on the next one if it would be too wide. -/
def addCluster (limit : Nat) (b : Broken) (c : Cluster) : Broken :=
  (if limit < b.columns + c.columns then b.next else b).add c.chars.reverse c.columns

/-- Cuts a word that is too wide for any line. -/
def chop (limit : Nat) (b : Broken) (word : List Char) : Broken := (clusters word).foldl (addCluster limit) b

theorem flatten_all_addClusters (limit : Nat) (b : Broken) (cs : List Cluster) :
    (cs.foldl (addCluster limit) b).all.flatten = b.all.flatten ++ clusterChars cs := by
  induction cs generalizing b with
  | nil => simp [clusterChars]
  | cons c cs ih =>
    have h : (addCluster limit b c).all.flatten = b.all.flatten ++ c.chars.reverse := by
      unfold addCluster
      split
      · rw [Broken.flatten_all_add, Broken.flatten_all_next]
      · rw [Broken.flatten_all_add]
    rw [List.foldl_cons, ih, h]
    simp [clusterChars]

theorem flatten_all_chop (limit : Nat) (b : Broken) (word : List Char) :
    (chop limit b word).all.flatten = b.all.flatten ++ word := by
  rw [chop, flatten_all_addClusters, clusters, clusterChars_clustersAfter]
  simp [clusterChars]

/-- A character starts a new word: it is not blank, a blank stands before it and a word before that. -/
def startsWord (word : List Char) (c : Char) : Bool :=
  !isBlank c && word.head?.any isBlank && word.any fun d => !isBlank d

/-- The words of a line, each with the blanks after it, and the first one with those before it. The first of them goes
on from the characters `word`, last one first. -/
def spacedWordsAfter (word : List Char) : List Char → List (List Char)
  | [] => [word.reverse]
  | c :: cs =>
    if startsWord word c then word.reverse :: spacedWordsAfter [c] cs else spacedWordsAfter (c :: word) cs

theorem flatten_spacedWordsAfter (word cs : List Char) :
    (spacedWordsAfter word cs).flatten = word.reverse ++ cs := by
  induction cs generalizing word with
  | nil => simp [spacedWordsAfter]
  | cons c cs ih =>
    unfold spacedWordsAfter
    split
    · simp [ih]
    · simp [ih]

/-- The characters without the blanks at their end. -/
def withoutBlanks (cs : List Char) : List Char := (cs.reverse.dropWhile isBlank).reverse

/-- Puts a word on the line if it fits there without its blanks, else on the next one; a word that fits on no line is
cut. -/
def addWord (limit : Nat) (b : Broken) (word : List Char) : Broken :=
  let size := columns (withoutBlanks word)
  if b.columns + size ≤ limit then b.add word (columns word)
  else if limit < size then chop limit b.next word
  else b.next.add word (columns word)

theorem flatten_all_addWord (limit : Nat) (b : Broken) (word : List Char) :
    (addWord limit b word).all.flatten = b.all.flatten ++ word := by
  simp only [addWord]
  split
  · rw [Broken.flatten_all_add]
  · split
    · rw [flatten_all_chop, Broken.flatten_all_next]
    · rw [Broken.flatten_all_add, Broken.flatten_all_next]

theorem flatten_all_addWords (limit : Nat) (b : Broken) (words : List (List Char)) :
    (words.foldl (addWord limit) b).all.flatten = b.all.flatten ++ words.flatten := by
  induction words generalizing b with
  | nil => simp
  | cons word words ih =>
    rw [List.foldl_cons, ih, flatten_all_addWord]
    simp

/-- A line broken to a width. -/
def wrap (limit : Nat) (line : List Char) : List (List Char) :=
  ((spacedWordsAfter [] line).foldl (addWord limit) {}).all

/-- Nothing of a line is lost. -/
theorem flatten_wrap (limit : Nat) (line : List Char) : (wrap limit line).flatten = line := by
  rw [wrap, flatten_all_addWords, flatten_spacedWordsAfter]
  simp [Broken.flatten_all]

end CallRedirect.Text
