import CallRedirect.Document.Layout
import CallRedirect.Proofs.Patch

/-! # Cuts

A text that differs from a file in some places is the file with spans cut out, one after the other, and a text put in
the place of each. A row of pieces prints such a text, if each piece stands for a strip of the file: the pieces bring the
cuts in their strips, and what is put between two pieces is one cut more.

* `Patch.Ordered.split_around`: cuts before a span, in it and behind it.
* `Bytes.edited`: a range of the file with cuts in it.
* `Bytes.patched_eq_edited`: patches that stand one after the other are cuts.
* `Bytes.Retained`: what no cut reaches is in the new text, and where.
* `Strip.Laid.row`: the cuts that a row of pieces makes. -/

namespace CallRedirect
set_option autoImplicit false

/-! ## Cuts in order -/

namespace Patch

/-- The spans stand one after the other between two offsets; they may be empty. -/
def Ordered : Nat → Nat → List Patch → Prop
  | lo, hi, [] => lo ≤ hi
  | lo, hi, p :: ps => lo ≤ p.start ∧ p.start ≤ p.stop ∧ Ordered p.stop hi ps

/-- The span of the node lies in the span of the patch. -/
def Holds (p : Patch) (n : Node) : Prop := p.start ≤ n.start ∧ n.stop ≤ p.stop

section Ordered
variable {lo mid hi start stop : Nat} {ps qs : List Patch}

theorem Ordered.le (h : Ordered lo hi ps) : lo ≤ hi := by
  induction ps generalizing lo with
  | nil => exact h
  | cons p ps ih =>
    have := ih h.2.2
    have := h.1
    have := h.2.1
    omega

theorem Ordered.mono (h : Ordered mid hi ps) (hle : lo ≤ mid) : Ordered lo hi ps := by
  cases ps with
  | nil => exact Nat.le_trans hle h
  | cons p ps => exact ⟨Nat.le_trans hle h.1, h.2⟩

theorem Ordered.append (hps : Ordered lo mid ps) (hqs : Ordered mid hi qs) : Ordered lo hi (ps ++ qs) := by
  induction ps generalizing lo with
  | nil => exact hqs.mono hps
  | cons p ps ih => exact ⟨hps.1, hps.2.1, ih hps.2.2⟩

theorem ordered_of_pairwise (hle : lo ≤ hi) (hps : ps.Pairwise fun p q => p.stop ≤ q.start)
    (hspans : ∀ p ∈ ps, lo ≤ p.start ∧ p.start ≤ p.stop ∧ p.stop ≤ hi) : Ordered lo hi ps := by
  induction ps generalizing lo with
  | nil => exact hle
  | cons p ps ih =>
    obtain ⟨hp, hps⟩ := List.pairwise_cons.1 hps
    have hspan := hspans p List.mem_cons_self
    refine ⟨hspan.1, hspan.2.1, ih hspan.2.2 hps fun q hq => ?_⟩
    exact ⟨hp q hq, (hspans q (List.mem_cons_of_mem p hq)).2⟩

theorem Ordered.span (h : Ordered lo hi ps) {p : Patch} (hp : p ∈ ps) : lo ≤ p.start ∧ p.start ≤ p.stop ∧ p.stop ≤ hi := by
  induction ps generalizing lo with
  | nil => exact absurd hp List.not_mem_nil
  | cons q ps ih =>
    have hle := h.2.2.le
    rcases List.mem_cons.1 hp with rfl | hp
    · exact ⟨h.1, h.2.1, hle⟩
    · have hspan := ih h.2.2 hp
      have := h.1
      have := h.2.1
      omega

/-- Cuts that do not reach into a span stand before it or behind it. -/
theorem Ordered.split (h : Ordered lo hi ps) (hlo : lo ≤ start) (hhi : stop ≤ hi)
    (hapart : ∀ p ∈ ps, p.stop ≤ start ∨ stop ≤ p.start) :
    ∃ upper lower, ps = upper ++ lower ∧ Ordered lo start upper ∧ Ordered stop hi lower := by
  induction ps generalizing lo with
  | nil => exact ⟨[], [], rfl, hlo, hhi⟩
  | cons p ps ih =>
    by_cases hbefore : p.stop ≤ start
    · obtain ⟨upper, lower, rfl, hupper, hlower⟩ := ih h.2.2 hbefore fun q hq => hapart q (List.mem_cons_of_mem p hq)
      exact ⟨p :: upper, lower, rfl, ⟨h.1, h.2.1, hupper⟩, hlower⟩
    · have hbehind := (hapart p List.mem_cons_self).resolve_left hbefore
      exact ⟨[], p :: ps, rfl, hlo, hbehind, h.2⟩

theorem Ordered.split_behind (h : Ordered lo hi ps) (hlo : lo ≤ stop) (hhi : stop ≤ hi)
    (hcases : ∀ p ∈ ps, stop ≤ p.start ∨ p.start < p.stop ∧ p.stop ≤ stop) :
    ∃ own lower, ps = own ++ lower ∧ Ordered lo stop own ∧ Ordered stop hi lower ∧ ∀ p ∈ own, p.start < p.stop := by
  induction ps generalizing lo with
  | nil => exact ⟨[], [], rfl, hlo, hhi, nofun⟩
  | cons p ps ih =>
    rcases hcases p List.mem_cons_self with hbehind | ⟨hwidth, hinside⟩
    · exact ⟨[], p :: ps, rfl, hlo, ⟨hbehind, h.2⟩, nofun⟩
    · obtain ⟨own, lower, rfl, hown, hlower, hspans⟩ :=
        ih h.2.2 hinside fun q hq => hcases q (List.mem_cons_of_mem p hq)
      exact ⟨p :: own, lower, rfl, ⟨h.1, h.2.1, hown⟩, hlower, List.forall_mem_cons.2 ⟨hwidth, hspans⟩⟩

/-- Cuts that stand before a span, in it or behind it. Empty ones at its ends stand outside. -/
theorem Ordered.split_around (h : Ordered lo hi ps) (hlo : lo ≤ start) (hle : start ≤ stop) (hhi : stop ≤ hi)
    (hcases : ∀ p ∈ ps, p.stop ≤ start ∨ stop ≤ p.start ∨ start ≤ p.start ∧ p.start < p.stop ∧ p.stop ≤ stop) :
    ∃ upper own lower, ps = upper ++ own ++ lower ∧ Ordered lo start upper ∧ Ordered start stop own ∧
      Ordered stop hi lower ∧ ∀ p ∈ own, p.start < p.stop := by
  induction ps generalizing lo with
  | nil => exact ⟨[], [], [], rfl, hlo, hle, hhi, nofun⟩
  | cons p ps ih =>
    by_cases hbefore : p.stop ≤ start
    · obtain ⟨upper, own, lower, rfl, hupper, hrest⟩ :=
        ih h.2.2 hbefore fun q hq => hcases q (List.mem_cons_of_mem p hq)
      exact ⟨p :: upper, own, lower, rfl, ⟨h.1, h.2.1, hupper⟩, hrest⟩
    · -- this cut reaches behind the start, and so do all that follow
      have hstart : start ≤ p.start := by
        have := hcases p List.mem_cons_self
        omega
      have hcases' : ∀ q ∈ p :: ps, stop ≤ q.start ∨ q.start < q.stop ∧ q.stop ≤ stop := by
        intro q hq
        have hq' := hcases q hq
        rcases List.mem_cons.1 hq with rfl | hq
        · omega
        · have := h.2.2.span hq
          omega
      have hordered : Ordered start hi (p :: ps) := ⟨hstart, h.2⟩
      obtain ⟨own, lower, hps, hown, hlower⟩ := hordered.split_behind hle hhi hcases'
      exact ⟨[], own, lower, hps, hlo, hown, hlower⟩

/-- One cut of some width stands before another. -/
def Before (p q : Patch) : Prop := p.start < p.stop ∧ p.stop ≤ q.start ∧ q.start < q.stop

instance : Std.Irrefl Before := ⟨fun p h => by unfold Before at h; omega⟩

instance : Std.Antisymm Before := ⟨fun p q h h' => by unfold Before at h h'; omega⟩

theorem Ordered.pairwise_before (h : Ordered lo hi ps) (hspans : ∀ p ∈ ps, p.start < p.stop) : ps.Pairwise Before := by
  induction ps generalizing lo with
  | nil => exact .nil
  | cons p ps ih =>
    obtain ⟨hp, hspans⟩ := List.forall_mem_cons.1 hspans
    exact .cons (fun q hq => ⟨hp, (h.2.2.span hq).1, hspans q hq⟩) (ih h.2.2 hspans)

end Ordered
end Patch

/-! ## The new text -/

namespace Bytes

/-- A range of the file with cuts in it. -/
def edited (src : Bytes) : Nat → Nat → List Patch → Bytes
  | lo, hi, [] => src.slice lo hi
  | lo, hi, p :: ps => src.slice lo p.start ++ p.text ++ src.edited p.stop hi ps

variable {src : Bytes} {lo mid hi : Nat} {ps qs : List Patch}

theorem slice_append_edited (hle : lo ≤ mid) (h : Patch.Ordered mid hi ps) :
    src.slice lo mid ++ src.edited mid hi ps = src.edited lo hi ps := by
  cases ps with
  | nil => exact src.slice_append_slice hle h
  | cons p ps =>
    rw [edited, edited, ← src.slice_append_slice hle h.1]
    simp only [List.append_assoc]

theorem edited_append (hps : Patch.Ordered lo mid ps) (hqs : Patch.Ordered mid hi qs) :
    src.edited lo mid ps ++ src.edited mid hi qs = src.edited lo hi (ps ++ qs) := by
  induction ps generalizing lo with
  | nil => exact slice_append_edited hps hqs
  | cons p ps ih =>
    rw [List.cons_append, edited, edited, ← ih hps.2.2]
    simp only [List.append_assoc]

/-- Patches that stand one after the other are cuts. -/
theorem patched_eq_edited (hps : Patch.Ordered lo hi ps) (hspans : ∀ p ∈ ps, p.start < p.stop) :
    src.patched ps lo hi = src.edited lo hi ps := by
  induction ps generalizing lo with
  | nil => exact patched_of_apart fun p hp => absurd hp List.not_mem_nil
  | cons p ps ih =>
    have hspan := hspans p List.mem_cons_self
    have hbehind : ∀ q ∈ ps, p.stop ≤ q.start := fun q hq => (hps.2.2.span hq).1
    have hgap : src.patched (p :: ps) lo p.start = src.slice lo p.start := by
      apply patched_of_apart
      intro q hq
      refine ⟨hspans q hq, .inr ?_⟩
      rcases List.mem_cons.1 hq with rfl | hq
      · exact Nat.le_refl _
      · exact Nat.le_trans hps.2.1 (hbehind q hq)
    have htext : src.patched (p :: ps) p.start p.stop = p.text := by
      apply patched_span (List.find?_cons_of_pos (beq_self_eq_true p.start)) hspan
      intro q hq
      rcases List.mem_cons.1 hq with rfl | hq
      · exact .inl (Nat.le_refl _)
      · exact .inr (hbehind q hq)
    have hrest : src.patched (p :: ps) p.stop hi = src.edited p.stop hi ps := by
      rw [← ih hps.2.2 fun q hq => hspans q (List.mem_cons_of_mem p hq)]
      apply patched_congr
      intro i hle _
      have hstart : (p.start == i) = false := by
        rw [beq_eq_false_iff_ne]
        omega
      have hcovers : p.covers i = false := by
        simp only [Patch.covers, Bool.and_eq_false_iff, decide_eq_false_iff_not]
        omega
      rw [patchedAt, patchedAt, List.find?_cons_of_neg (by simp [hstart]), List.any_cons, hcovers, Bool.false_or]
    rw [edited, ← src.patched_append _ hps.1 (Nat.le_trans hps.2.1 hps.2.2.le),
      ← src.patched_append _ hps.2.1 hps.2.2.le, hgap, htext, hrest, List.append_assoc]

/-- No cut reaches into a span of the file, and its bytes stand in the new text between what becomes of the bytes before
it and what becomes of the bytes behind it. -/
def Retained (src : Bytes) (cuts : List Patch) (out : Bytes) (start stop : Nat) : Prop :=
  ∃ upper lower, cuts = upper ++ lower ∧ Patch.Ordered 0 start upper ∧ Patch.Ordered stop src.length lower ∧
    out = src.edited 0 start upper ++ src.slice start stop ++ src.edited stop src.length lower

theorem retained_edited {cuts : List Patch} {start stop : Nat} (h : Patch.Ordered 0 src.length cuts)
    (hle : start ≤ stop) (hstop : stop ≤ src.length) (hapart : ∀ p ∈ cuts, p.stop ≤ start ∨ stop ≤ p.start) :
    src.Retained cuts (src.edited 0 src.length cuts) start stop := by
  obtain ⟨upper, lower, rfl, hupper, hlower⟩ := h.split (Nat.zero_le start) hstop hapart
  refine ⟨upper, lower, rfl, hupper, hlower, ?_⟩
  rw [List.append_assoc, slice_append_edited hle hlower, edited_append hupper (hlower.mono hle)]

end Bytes

/-! ## Rows of strips -/

/-- A part of the file with the cuts in it. -/
structure Strip where
  start : Nat
  stop : Nat
  cuts : List Patch

/-- A part of the file that is cut out as a whole. -/
def Patch.strip (p : Patch) : Strip := ⟨p.start, p.stop, [p]⟩

theorem Patch.edited_strip (src : Bytes) (p : Patch) : src.edited p.strip.start p.strip.stop p.strip.cuts = p.text := by
  simp [strip, Bytes.edited]

/-- The cut lies between the strips, and puts a line end or what was there. -/
def Patch.Joins (src : Bytes) (ss : List Strip) (p : Patch) : Prop :=
  (∀ s ∈ ss, p.stop ≤ s.start ∨ s.stop ≤ p.start) ∧ (p.text = src.newline ∨ p.text = src.slice p.start p.stop)

namespace Strip

/-- The pieces print strips of the file that stand one after the other between two offsets. A piece that has a slot prints
the strip there, and any other one stands where the strip before it stops. -/
inductive Laid (src : Bytes) : Nat → Nat → List Strip → List Piece → Prop where
  | nil (lo : Nat) : Laid src lo lo [] []
  | cons {lo hi : Nat} {s : Strip} {p : Piece} {ss : List Strip} {ps : List Piece} (hlo : lo ≤ s.start)
    (hcuts : Patch.Ordered s.start s.stop s.cuts) (hbytes : p.bytes = src.edited s.start s.stop s.cuts)
    (hold : ∀ slot ∈ p.slot, slot.start = s.start ∧ slot.stop = s.stop) (hnew : p.slot = none → s.stop = lo)
    (hps : Laid src s.stop hi ss ps) : Laid src lo hi (s :: ss) (p :: ps)

/-- The cuts are those in the strips, and some between them. -/
structure Joined (src : Bytes) (ss : List Strip) (cuts : List Patch) : Prop where
  own : ∀ s ∈ ss, ∀ c ∈ s.cuts, c ∈ cuts
  other : ∀ c ∈ cuts, (∃ s ∈ ss, c ∈ s.cuts) ∨ c.Joins src ss

section Laid
variable {src : Bytes} {lo hi : Nat} {ss : List Strip} {ps : List Piece}

theorem Laid.span (h : Laid src lo hi ss ps) : ∀ s ∈ ss, lo ≤ s.start ∧ s.start ≤ s.stop := by
  induction h with
  | nil lo => exact fun s hs => absurd hs List.not_mem_nil
  | cons hlo hcuts _ _ _ _ ih =>
    intro s hs
    have hle := hcuts.le
    rcases List.mem_cons.1 hs with rfl | hs
    · exact ⟨hlo, hle⟩
    · have := ih s hs
      omega

theorem Laid.pairwise (h : Laid src lo hi ss ps) : ss.Pairwise fun a b => a.stop ≤ b.start := by
  induction h with
  | nil lo => exact .nil
  | cons _ _ _ _ _ hps ih => exact List.pairwise_cons.2 ⟨fun b hb => (hps.span b hb).1, ih⟩

/-- The cuts of a strip and those of the strips behind it. -/
theorem Joined.cons {s : Strip} {cuts : List Patch} (h : Joined src ss cuts) (hs : Patch.Ordered s.start s.stop s.cuts)
    (hcuts : Patch.Ordered s.stop hi cuts) : Joined src (s :: ss) (s.cuts ++ cuts) := by
  constructor
  · intro s' hs' c hc
    rcases List.mem_cons.1 hs' with rfl | hs'
    · exact List.mem_append_left _ hc
    · exact List.mem_append_right _ (h.own s' hs' c hc)
  · intro c hc
    rcases List.mem_append.1 hc with hc | hc
    · exact .inl ⟨s, List.mem_cons_self, hc⟩
    · rcases h.other c hc with ⟨s', hs', hc⟩ | hjoins
      · exact .inl ⟨s', List.mem_cons_of_mem s hs', hc⟩
      · exact .inr ⟨List.forall_mem_cons.2 ⟨.inr (hcuts.span hc).1, hjoins.1⟩, hjoins.2⟩

theorem Joined.gap {c : Patch} {cuts : List Patch} (h : Joined src ss cuts) (hc : c.Joins src ss) :
    Joined src ss (c :: cuts) := by
  refine ⟨fun s hs c' hc' => List.mem_cons_of_mem c (h.own s hs c' hc'), ?_⟩
  exact List.forall_mem_cons.2 ⟨.inr hc, h.other⟩

end Laid
end Strip

/-- What is put between two pieces is a line end, or what stood between the slots. -/
theorem Piece.separator_cases (src : Bytes) (previous current : Piece) (anchor : Option Slot) :
    separator src previous current anchor = src.newline ∨
      ∃ left right, (previous.slot = some left ∨ anchor = some left) ∧ current.slot = some right ∧
        separator src previous current anchor = src.slice left.stop right.start := by
  unfold separator
  split
  · next left right hleft hright =>
    split
    · split
      · exact .inl rfl
      · exact .inr ⟨left, right, .inl hleft, hright, rfl⟩
    · exact .inl rfl
  · next right left hnone hright =>
    split
    · exact .inr ⟨left, right, .inr rfl, hright, rfl⟩
    · exact .inl rfl
  · exact .inl rfl

namespace Strip
variable {src : Bytes} {lo hi : Nat} {ss : List Strip} {ps : List Piece}

/-- The cuts that the pieces after the first make, with what is put before each. -/
theorem Laid.continued (h : Laid src lo hi ss ps) {previous : Piece} {anchor : Option Slot}
    (hprevious : ∀ slot ∈ previous.slot, slot.stop = lo) (hanchor : ∀ slot ∈ anchor, slot.stop = lo) :
    ∃ cuts, Patch.Ordered lo hi cuts ∧ Piece.continued src previous anchor ps = src.edited lo hi cuts ∧
      Joined src ss cuts := by
  induction h generalizing previous anchor with
  | nil lo => exact ⟨[], Nat.le_refl lo, by simp [Piece.continued, Bytes.edited], by simp, by simp⟩
  | @cons lo hi s p ss ps hlo hcuts hbytes hold hnew hps ih =>
    have hanchor' : ∀ slot ∈ p.slot.or anchor, slot.stop = s.stop := by
      cases hslot : p.slot with
      | none => exact fun slot hmem => (hanchor slot hmem).trans (hnew hslot).symm
      | some slot => exact fun slot' hmem => Option.some.inj hmem ▸ (hold slot hslot).2
    obtain ⟨cuts, hordered, hcontinued, hjoined⟩ := ih (fun slot hslot => (hold slot hslot).2) hanchor'
    have hgap : Patch.Joins src (s :: ss) ⟨lo, s.start, Piece.separator src previous p anchor⟩ := by
      refine ⟨List.forall_mem_cons.2 ⟨.inl (Nat.le_refl _), fun s' hs' => .inl ?_⟩, ?_⟩
      · exact Nat.le_trans hcuts.le (hps.span s' hs').1
      · refine (Piece.separator_cases src previous p anchor).imp_right ?_
        rintro ⟨left, right, hleft, hright, heq⟩
        have hstop : left.stop = lo := hleft.elim (hprevious left) (hanchor left)
        rw [heq, hstop, (hold right hright).1]
    refine ⟨⟨lo, s.start, Piece.separator src previous p anchor⟩ :: (s.cuts ++ cuts),
      ⟨Nat.le_refl lo, hlo, hcuts.append hordered⟩, ?_, (hjoined.cons hcuts hordered).gap hgap⟩
    rw [Piece.continued, hbytes, hcontinued, Bytes.edited, List.append_assoc, Bytes.edited_append hcuts hordered,
      Bytes.slice_self, List.nil_append]

/-- The cuts that a row of pieces makes. -/
theorem Laid.row (h : Laid src lo hi ss ps) (hfirst : ∀ s ∈ ss.head?, s.start = lo) :
    ∃ cuts, Patch.Ordered lo hi cuts ∧ Piece.row src ps = src.edited lo hi cuts ∧ Joined src ss cuts := by
  cases h with
  | nil => exact ⟨[], Nat.le_refl lo, by simp [Piece.row, Bytes.edited], by simp, by simp⟩
  | @cons _ _ s p ss ps hlo hcuts hbytes hold hnew hps =>
    obtain rfl := hfirst s rfl
    obtain ⟨cuts, hordered, hcontinued, hjoined⟩ :=
      hps.continued (fun slot hslot => (hold slot hslot).2) fun slot hslot => (hold slot hslot).2
    refine ⟨s.cuts ++ cuts, hcuts.append hordered, ?_, hjoined.cons hcuts hordered⟩
    rw [Piece.row, hbytes, hcontinued, Bytes.edited_append hcuts hordered]

end Strip
end CallRedirect
