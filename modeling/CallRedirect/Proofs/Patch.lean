import CallRedirect.Source
import Mathlib.Data.List.Basic

/-! # Patches

A patch puts a text in the place of a span. `Bytes.patched` carries out all patches at once, byte by byte: where a span
starts, its text is written; the bytes of a span are left out; every other byte stays.

* `Bytes.patched_append`: a range is patched piece by piece.
* `Bytes.patched_of_apart`: where no span reaches, nothing changes.
* `Bytes.patched_span`: a span becomes its text. -/

namespace CallRedirect
set_option autoImplicit false

/-- A span of the file and the text in its place. -/
structure Patch where
  start : Nat
  stop : Nat
  text : Bytes
  deriving DecidableEq

/-- The offset lies in the span. -/
def Patch.covers (p : Patch) (i : Nat) : Bool := p.start ≤ i && i < p.stop

namespace Bytes

/-- What stands for the byte at an offset. -/
def patchedAt (src : Bytes) (ps : List Patch) (i : Nat) : Bytes :=
  ((ps.find? fun p => p.start == i).map Patch.text).getD [] ++
    if ps.any fun p => p.covers i then [] else src[i]?.toList

/-- A range of the file with all patches carried out at once. -/
def patched (src : Bytes) (ps : List Patch) (start stop : Nat) : Bytes :=
  (List.range' start (stop - start)).flatMap (src.patchedAt ps)

@[simp] theorem patched_self (src : Bytes) (ps : List Patch) (p : Nat) : src.patched ps p p = [] := by
  simp [patched]

theorem patched_append (src : Bytes) (ps : List Patch) {p q r : Nat} (hpq : p ≤ q) (hqr : q ≤ r) :
    src.patched ps p q ++ src.patched ps q r = src.patched ps p r := by
  have hsplit : List.range' p (r - p) = List.range' p (q - p) ++ List.range' q (r - q) := by
    have hlen : r - p = (q - p) + (r - q) := by omega
    have hq : p + (q - p) = q := by omega
    rw [hlen, ← List.range'_append_1, hq]
  rw [patched, patched, patched, hsplit, List.flatMap_append]

theorem patched_congr {src : Bytes} {ps qs : List Patch} {start stop : Nat}
    (h : ∀ i, start ≤ i → i < stop → src.patchedAt ps i = src.patchedAt qs i) :
    src.patched ps start stop = src.patched qs start stop := by
  apply List.flatMap_congr
  intro i hi
  have hrange := List.mem_range'_1.1 hi
  exact h i hrange.1 (by omega)

theorem slice_succ (src : Bytes) (i : Nat) : src.slice i (i + 1) = src[i]?.toList := by
  rw [slice, List.drop_take, Nat.add_sub_cancel_left, List.take_one, List.head?_drop]

theorem slice_eq_flatMap (src : Bytes) (start stop : Nat) :
    src.slice start stop = (List.range' start (stop - start)).flatMap fun i => src[i]?.toList := by
  induction h : stop - start generalizing start with
  | zero =>
    simp only [List.range'_zero, List.flatMap_nil, slice, List.drop_eq_nil_iff, List.length_take]
    omega
  | succ n ih =>
    have htail := ih (start + 1) (by omega)
    have hlt : start + 1 ≤ stop := by omega
    rw [← src.slice_append_slice (Nat.le_succ start) hlt, htail, List.range'_succ, List.flatMap_cons, slice_succ]

theorem patchedAt_of_apart {src : Bytes} {ps : List Patch} {i : Nat}
    (h : ∀ p ∈ ps, p.start ≠ i ∧ p.covers i = false) : src.patchedAt ps i = src[i]?.toList := by
  have hfind : (ps.find? fun p => p.start == i) = none := by
    rw [List.find?_eq_none]
    exact fun p hp => by simpa using (h p hp).1
  have hany : (ps.any fun p => p.covers i) = false := by
    rw [List.any_eq_false]
    exact fun p hp => by simpa using (h p hp).2
  simp [patchedAt, hfind, hany]

/-- Where no span reaches, the file stays as it is. -/
theorem patched_of_apart {src : Bytes} {ps : List Patch} {start stop : Nat}
    (h : ∀ p ∈ ps, p.start < p.stop ∧ (p.stop ≤ start ∨ stop ≤ p.start)) :
    src.patched ps start stop = src.slice start stop := by
  rw [patched, slice_eq_flatMap]
  apply List.flatMap_congr
  intro i hi
  have hrange := List.mem_range'_1.1 hi
  apply patchedAt_of_apart
  intro p hp
  have hspan := h p hp
  constructor
  · omega
  · simp only [Patch.covers, Bool.and_eq_false_iff, decide_eq_false_iff_not]
    omega

theorem patchedAt_of_covered {src : Bytes} {ps : List Patch} {i : Nat} (hcovered : ∃ p ∈ ps, p.covers i = true)
    (hstart : ∀ p ∈ ps, p.start ≠ i) : src.patchedAt ps i = [] := by
  have hfind : (ps.find? fun p => p.start == i) = none := by
    rw [List.find?_eq_none]
    exact fun p hp => by simpa using hstart p hp
  have hany : (ps.any fun p => p.covers i) = true := List.any_eq_true.2 hcovered
  simp [patchedAt, hfind, hany]

/-- Patches that do not reach into a range can be left out there. -/
theorem patched_filter {α : Type} {src : Bytes} {l : List α} {patch : α → Patch} {keep : α → Bool} {start stop : Nat}
    (h : ∀ a ∈ l, keep a = false →
      (patch a).start < (patch a).stop ∧ ((patch a).stop ≤ start ∨ stop ≤ (patch a).start)) :
    src.patched ((l.filter keep).map patch) start stop = src.patched (l.map patch) start stop := by
  have hsame (q : Patch → Bool) (hq : ∀ a ∈ l, keep a = false → q (patch a) = false) :
      ((l.filter keep).map patch).find? q = (l.map patch).find? q := by
    rw [← List.head?_filter, ← List.head?_filter, List.filter_map, List.filter_map, List.filter_filter]
    congr 2
    apply List.filter_congr
    intro a ha
    cases hkeep : keep a with
    | true => simp
    | false => simp [hq a ha hkeep]
  apply patched_congr
  intro i hle hlt
  have hfind := hsame (fun p => p.start == i) fun a ha hkeep => by
    have := h a ha hkeep
    simp only [beq_eq_false_iff_ne]
    omega
  have hany := hsame (fun p => p.covers i) fun a ha hkeep => by
    have := h a ha hkeep
    simp only [Patch.covers, Bool.and_eq_false_iff, decide_eq_false_iff_not]
    omega
  rw [patchedAt, patchedAt, hfind, ← List.isSome_find?, ← List.isSome_find?, hany]

/-- A span in which no other one starts becomes its text. -/
theorem patched_span {src : Bytes} {ps : List Patch} {p : Patch}
    (hfirst : (ps.find? fun q => q.start == p.start) = some p) (hspan : p.start < p.stop)
    (halone : ∀ q ∈ ps, q.start ≤ p.start ∨ p.stop ≤ q.start) :
    src.patched ps p.start p.stop = p.text := by
  have hmem : p ∈ ps := List.mem_of_find?_eq_some hfirst
  have hcovers : ∀ i, p.start ≤ i → i < p.stop → ∃ q ∈ ps, q.covers i = true := fun i hle hlt =>
    ⟨p, hmem, by simp [Patch.covers, hle, hlt]⟩
  have hhead : src.patchedAt ps p.start = p.text := by
    have hany : (ps.any fun q => q.covers p.start) = true :=
      List.any_eq_true.2 (hcovers p.start (Nat.le_refl _) hspan)
    simp [patchedAt, hfirst, hany]
  have htail : src.patched ps (p.start + 1) p.stop = [] := by
    rw [patched, List.flatMap_eq_nil_iff]
    intro i hi
    have hrange := List.mem_range'_1.1 hi
    apply patchedAt_of_covered (hcovers i (by omega) (by omega))
    intro q hq
    have := halone q hq
    omega
  rw [← src.patched_append ps (Nat.le_succ p.start) hspan, htail, List.append_nil, patched]
  simp [hhead]

end Bytes
end CallRedirect
