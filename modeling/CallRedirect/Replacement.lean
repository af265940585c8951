import CallRedirect.Source

/-! # Replacements

A replacement puts a call with a new callee in place of a span of the file, and copies the region of the call's
arguments. Replacements may be nested, in the arguments of one another, and may overlap.

* `splice`: a range of the file with the outermost replacements in it carried out, each of which carries out
  those in its own arguments. Where two compete for a position, the one that starts first is taken, and of those
  that start together the longest, and then the one recorded first.
* `Replacement.render`: the text of one replacement.

`splice` descends at most once into each replacement on the way down: a longer way would come back to a
replacement, whose text would then contain itself. It answers `none` in that case alone.
-/

namespace CallRedirect
set_option autoImplicit false

structure Replacement where
  /-- The span that is replaced. -/
  start : Nat
  stop : Nat
  callee : String
  /-- The argument region: all that follows the replaced callee, up to the end of the call. -/
  argsStart : Nat
  argsStop : Nat
  deriving DecidableEq, Repr

namespace Replacement

/-! ## The order of splicing -/

/-- By start, and of those that start together the longer one first. -/
def precedes (a b : Replacement) : Bool :=
  a.start < b.start || (a.start == b.start && b.stop ≤ a.stop)

/-- Puts a replacement before the first that it precedes. -/
def insert (a : Replacement) : List Replacement → List Replacement
  | [] => [a]
  | b :: rest => if a.precedes b then a :: b :: rest else b :: insert a rest

/-- In the order of splicing; those of equal span keep their order. -/
def sort : List Replacement → List Replacement
  | [] => []
  | a :: rest => a.insert (sort rest)

def inside (start stop : Nat) (r : Replacement) : Bool := start ≤ r.start && r.stop ≤ stop

/-! ## Splicing -/

/-- The file from `pos` to `stop` with replacements in order, each written by `render`; one that starts before
the current position is passed over. -/
def stitch (src : Bytes) (render : Replacement → Option Bytes) (stop : Nat) :
    Nat → List Replacement → Option Bytes
  | pos, [] => some (src.slice pos stop)
  | pos, r :: rest =>
    if r.start < pos then stitch src render stop pos rest
    else do
      let call ← render r
      let after ← stitch src render stop r.stop rest
      some (src.slice pos r.start ++ call ++ after)

/-- A range of the file with its replacements, nested at most `depth` deep. -/
def spliceTo (src : Bytes) (all : List Replacement) : Nat → Nat → Nat → Option Bytes
  | 0, _, _ => none
  | depth + 1, start, stop =>
    stitch src
      (fun r => (spliceTo src all depth r.argsStart r.argsStop).map (Bytes.ofString r.callee ++ ·))
      stop start (sort (all.filter (inside start stop)))

/-- The text of a range of the file with the replacements in it. -/
def splice (src : Bytes) (all : List Replacement) (start stop : Nat) : Option Bytes :=
  spliceTo src all (all.length + 1) start stop

/-- The text of one replacement: its callee, and its arguments with the replacements in them. -/
def render (src : Bytes) (all : List Replacement) (r : Replacement) : Option Bytes :=
  (splice src all r.argsStart r.argsStop).map (Bytes.ofString r.callee ++ ·)

end Replacement
end CallRedirect
