import CallRedirect.Replacement
import CallRedirect.Proofs.Encoding
import CallRedirect.Proofs.Patch
import Mathlib.Data.List.Sort

/-! # Splicing as patching

Replacements are spliced from the outside in: each one is written with those in its arguments already carried out. If
of any two of them one stands behind the other or in its arguments, the result is that of patching all replaced
callees at once.

* `Replacement.Compatible`: how two replacements may lie.
* `Replacement.stitch_eq_patched`: one level of splicing.
* `Replacement.splice_eq_patched`: all levels.
* `Replacement.good_spliceTo`: what holds of windows of the file and of callees, holds of the result.
* `Replacement.isText_patched`: between characters the result is a text. -/

namespace CallRedirect
set_option autoImplicit false

namespace Replacement

/-! ## The order of splicing -/

theorem insert_eq_orderedInsert (a : Replacement) (rs : List Replacement) :
    a.insert rs = rs.orderedInsert (fun a b => a.precedes b = true) a := by
  induction rs with
  | nil => rfl
  | cons b rs ih => rw [insert, List.orderedInsert_cons, ih]

theorem sort_eq_insertionSort (rs : List Replacement) :
    sort rs = rs.insertionSort fun a b => a.precedes b = true := by
  induction rs with
  | nil => rfl
  | cons a rs ih => rw [sort, List.insertionSort_cons, ih, insert_eq_orderedInsert]

theorem precedes_iff {a b : Replacement} :
    a.precedes b = true ↔ a.start < b.start ∨ a.start = b.start ∧ b.stop ≤ a.stop := by
  simp [precedes]

instance : Std.Total fun a b : Replacement => a.precedes b = true :=
  ⟨fun a b => by simp only [precedes_iff]; omega⟩

instance : IsTrans Replacement fun a b => a.precedes b = true :=
  ⟨fun a b c hab hbc => by simp only [precedes_iff] at *; omega⟩

theorem pairwise_sort (rs : List Replacement) : (sort rs).Pairwise fun a b => a.precedes b = true := by
  rw [sort_eq_insertionSort]
  exact List.pairwise_insertionSort _ rs

theorem perm_sort (rs : List Replacement) : (sort rs).Perm rs := by
  rw [sort_eq_insertionSort]
  exact List.perm_insertionSort _ rs

theorem mem_sort {rs : List Replacement} {r : Replacement} : r ∈ sort rs ↔ r ∈ rs := (perm_sort rs).mem_iff

/-- Sorting keeps the order of those that precede each other as they stand. -/
theorem filter_sort {rs : List Replacement} {p : Replacement → Bool}
    (h : (rs.filter p).Pairwise fun a b => a.precedes b = true) : (sort rs).filter p = rs.filter p := by
  have hsub : (rs.filter p).Sublist (sort rs) := by
    rw [sort_eq_insertionSort]
    exact List.sublist_insertionSort h List.filter_sublist
  have hself : (rs.filter p).filter p = rs.filter p := List.filter_eq_self.2 fun _ hr => List.of_mem_filter hr
  have hfilter : (rs.filter p).Sublist ((sort rs).filter p) := by
    have := hsub.filter p
    rwa [hself] at this
  have hlength : ((sort rs).filter p).length ≤ (rs.filter p).length :=
    Nat.le_of_eq ((perm_sort rs).filter p).length_eq
  exact (hfilter.eq_of_length_le hlength).symm

/-! ## How replacements may lie -/

/-- The replaced callee comes first and is not empty, and the arguments are all the rest. -/
structure Proper (r : Replacement) : Prop where
  callee : r.start < r.argsStart
  args : r.argsStart ≤ r.stop
  argsStop : r.argsStop = r.stop

/-- One replacement stands in the arguments of another. -/
def Holds (a b : Replacement) : Prop := a.argsStart ≤ b.start ∧ b.stop ≤ a.stop

/-- Two replacements are apart, or one holds the other, or they replace the same callee. -/
def Compatible (a b : Replacement) : Prop :=
  a.stop ≤ b.start ∨ b.stop ≤ a.start ∨ a.Holds b ∨ b.Holds a ∨
    (a.start = b.start ∧ a.argsStart = b.argsStart ∧ a.stop = b.stop)

/-- Replacements that can be spliced as if all callees were patched at once. -/
structure Laminar (rs : List Replacement) : Prop where
  proper : ∀ r ∈ rs, r.Proper
  compatible : ∀ a ∈ rs, ∀ b ∈ rs, a.Compatible b

/-- The patch of the callee. -/
def patch (r : Replacement) : Patch := ⟨r.start, r.argsStart, Bytes.ofString r.callee⟩

theorem find?_patch (rs : List Replacement) (i : Nat) :
    ((rs.map patch).find? fun p => p.start == i) = (rs.find? fun r => r.start == i).map patch := by
  rw [List.find?_map]
  rfl

/-! ## One level -/

section Stitch
variable {src : Bytes} {all : List Replacement} {write : Replacement → Option Bytes} {stop : Nat}

/-- The replacements that remain at a position, in order, are those that matter for the rest of the range. -/
structure Remaining (all : List Replacement) (pos stop : Nat) (rs : List Replacement) : Prop where
  sorted : rs.Pairwise fun a b => a.precedes b = true
  mem : ∀ r ∈ rs, r ∈ all
  inside : ∀ r ∈ rs, r.stop ≤ stop
  /-- None is cut by the position. -/
  uncut : ∀ r ∈ rs, pos ≤ r.start ∨ r.stop ≤ pos
  /-- All others reach no callee into the rest of the range. -/
  others : ∀ r ∈ all, r ∈ rs ∨ r.argsStart ≤ pos ∨ stop ≤ r.start
  /-- Of those that start together the one recorded first comes first. -/
  first : ∀ i, pos ≤ i → i < stop → (rs.find? fun r => r.start == i) = all.find? fun r => r.start == i

theorem Remaining.skip {pos : Nat} {r : Replacement} {rs : List Replacement} (hall : Laminar all)
    (h : Remaining all pos stop (r :: rs)) (hr : r.start < pos) : Remaining all pos stop rs := by
  have hstop : r.stop ≤ pos := by
    have := h.uncut r List.mem_cons_self
    omega
  have hproper := hall.proper r (h.mem r List.mem_cons_self)
  refine ⟨(List.pairwise_cons.1 h.sorted).2, fun a ha => h.mem a (List.mem_cons_of_mem r ha),
    fun a ha => h.inside a (List.mem_cons_of_mem r ha), fun a ha => h.uncut a (List.mem_cons_of_mem r ha), ?_, ?_⟩
  · intro a ha
    rcases h.others a ha with hmem | hout
    · rcases List.mem_cons.1 hmem with rfl | hmem
      · exact .inr (.inl (Nat.le_trans hproper.args hstop))
      · exact .inl hmem
    · exact .inr hout
  · intro i hle hlt
    rw [← h.first i hle hlt, List.find?_cons_of_neg]
    simp only [beq_iff_eq]
    omega

theorem Remaining.take {pos : Nat} {r : Replacement} {rs : List Replacement} (hall : Laminar all)
    (h : Remaining all pos stop (r :: rs)) (hr : pos ≤ r.start) : Remaining all r.stop stop rs := by
  have hmem := h.mem r List.mem_cons_self
  have hproper := hall.proper r hmem
  obtain ⟨hprecedes, hsorted⟩ := List.pairwise_cons.1 h.sorted
  refine ⟨hsorted, fun a ha => h.mem a (List.mem_cons_of_mem r ha),
    fun a ha => h.inside a (List.mem_cons_of_mem r ha), ?_, ?_, ?_⟩
  · intro a ha
    have hproper' := hall.proper a (h.mem a (List.mem_cons_of_mem r ha))
    have horder := precedes_iff.1 (hprecedes a ha)
    have hcompatible := hall.compatible r hmem a (h.mem a (List.mem_cons_of_mem r ha))
    simp only [Compatible, Holds] at hcompatible
    have := hproper'.callee
    have := hproper'.args
    omega
  · intro a ha
    rcases h.others a ha with hmem' | hout | hout
    · rcases List.mem_cons.1 hmem' with rfl | hmem'
      · exact .inr (.inl hproper.args)
      · exact .inl hmem'
    · have := hproper.callee
      have := hproper.args
      exact .inr (.inl (by omega))
    · exact .inr (.inr hout)
  · intro i hle hlt
    have := hproper.callee
    have := hproper.args
    rw [← h.first i (by omega) hlt, List.find?_cons_of_neg]
    simp only [beq_iff_eq]
    omega

theorem Remaining.patched_before {pos : Nat} {r : Replacement} {rs : List Replacement} (hall : Laminar all)
    (h : Remaining all pos stop (r :: rs)) : src.patched (all.map patch) pos r.start = src.slice pos r.start := by
  have hmem := h.mem r List.mem_cons_self
  apply Bytes.patched_of_apart
  intro p hp
  obtain ⟨a, ha, rfl⟩ := List.mem_map.1 hp
  have hproper := (hall.proper a ha).callee
  refine ⟨hproper, ?_⟩
  show a.argsStart ≤ pos ∨ r.start ≤ a.start
  have hinside := h.inside r List.mem_cons_self
  have hproper' := hall.proper r hmem
  rcases h.others a ha with hmem' | hout | hout
  · right
    rcases List.mem_cons.1 hmem' with rfl | hmem'
    · exact Nat.le_refl _
    · have := precedes_iff.1 ((List.pairwise_cons.1 h.sorted).1 a hmem')
      omega
  · exact .inl hout
  · have := hproper'.callee
    have := hproper'.args
    exact .inr (by omega)

theorem Remaining.patched_callee {pos : Nat} {r : Replacement} {rs : List Replacement} (hall : Laminar all)
    (h : Remaining all pos stop (r :: rs)) (hr : pos ≤ r.start) :
    src.patched (all.map patch) r.start r.argsStart = Bytes.ofString r.callee := by
  have hmem := h.mem r List.mem_cons_self
  have hproper := hall.proper r hmem
  have hinside := h.inside r List.mem_cons_self
  have hcallee := hproper.callee
  have hargs := hproper.args
  have hfirst : ((all.map patch).find? fun p => p.start == r.patch.start) = some r.patch := by
    rw [find?_patch, patch, ← h.first r.start hr (by omega), List.find?_cons_of_pos (by simp)]
    rfl
  apply Bytes.patched_span hfirst hcallee
  intro p hp
  obtain ⟨a, ha, rfl⟩ := List.mem_map.1 hp
  have hproper' := hall.proper a ha
  have hcompatible := hall.compatible r hmem a ha
  simp only [Compatible, Holds] at hcompatible
  have := hproper'.callee
  have := hproper'.args
  show a.start ≤ r.start ∨ r.argsStart ≤ a.start
  omega

theorem stitch_eq_patched {pos : Nat} {rs : List Replacement} (hall : Laminar all)
    (hwrite : ∀ r ∈ rs, write r = some (Bytes.ofString r.callee ++ src.patched (all.map patch) r.argsStart r.stop))
    (hpos : pos ≤ stop) (h : Remaining all pos stop rs) :
    stitch src write stop pos rs = some (src.patched (all.map patch) pos stop) := by
  induction rs generalizing pos with
  | nil =>
    rw [stitch, Bytes.patched_of_apart]
    intro p hp
    obtain ⟨a, ha, rfl⟩ := List.mem_map.1 hp
    have hcallee := (hall.proper a ha).callee
    rcases h.others a ha with hmem | hout
    · cases hmem
    · exact ⟨hcallee, hout⟩
  | cons r rs ih =>
    rw [stitch]
    split
    · next hr => exact ih (fun a ha => hwrite a (List.mem_cons_of_mem r ha)) hpos (h.skip hall hr)
    · next hr =>
      have hr : pos ≤ r.start := Nat.le_of_not_lt hr
      have hproper := hall.proper r (h.mem r List.mem_cons_self)
      have hcallee := hproper.callee
      have hargs := hproper.args
      have hstop := h.inside r List.mem_cons_self
      have hrest := ih (fun a ha => hwrite a (List.mem_cons_of_mem r ha)) hstop (h.take hall hr)
      rw [hwrite r List.mem_cons_self, hrest]
      show some _ = some _
      rw [← h.patched_before hall, ← h.patched_callee hall hr, src.patched_append _ (by omega) hargs,
        src.patched_append _ hr (by omega), src.patched_append _ (by omega) hstop]

end Stitch

/-! ## All levels -/

section Splice
variable {src : Bytes} {all : List Replacement}

/-- No replacement reaches with its callee into the range unless all of it stands there. -/
def Clean (all : List Replacement) (start stop : Nat) : Prop :=
  ∀ r ∈ all, inside start stop r = true ∨ r.argsStart ≤ start ∨ stop ≤ r.start

theorem inside_iff {start stop : Nat} {r : Replacement} :
    inside start stop r = true ↔ start ≤ r.start ∧ r.stop ≤ stop := by
  simp [inside]

theorem Laminar.stop_eq {a b : Replacement} (hall : Laminar all) (ha : a ∈ all) (hb : b ∈ all)
    (h : a.start = b.start) : a.stop = b.stop := by
  have hcompatible := hall.compatible a ha b hb
  simp only [Compatible, Holds] at hcompatible
  have := (hall.proper a ha).callee
  have := (hall.proper a ha).args
  have := (hall.proper b hb).callee
  have := (hall.proper b hb).args
  omega

theorem filter_start_inside {start stop i : Nat} (hall : Laminar all) (hclean : Clean all start stop) (hle : start ≤ i)
    (hlt : i < stop) :
    (all.filter (inside start stop)).filter (fun r => r.start == i) = all.filter fun r => r.start == i := by
  rw [List.filter_filter]
  apply List.filter_congr
  intro r hr
  by_cases hi : r.start = i
  · rcases hclean r hr with hinside | hout | hout
    · simp [hi, hinside]
    · have := (hall.proper r hr).callee
      omega
    · omega
  · simp [hi]

theorem remaining_sort {start stop : Nat} (hall : Laminar all) (hclean : Clean all start stop) :
    Remaining all start stop (sort (all.filter (inside start stop))) := by
  have hmem : ∀ r ∈ sort (all.filter (inside start stop)), r ∈ all ∧ start ≤ r.start ∧ r.stop ≤ stop := by
    intro r hr
    obtain ⟨hr, hinside⟩ := List.mem_filter.1 (mem_sort.1 hr)
    exact ⟨hr, inside_iff.1 hinside⟩
  refine ⟨pairwise_sort _, fun r hr => (hmem r hr).1, fun r hr => (hmem r hr).2.2, fun r hr => .inl (hmem r hr).2.1,
    ?_, ?_⟩
  · intro r hr
    rcases hclean r hr with hinside | hout
    · exact .inl (mem_sort.2 (List.mem_filter.2 ⟨hr, hinside⟩))
    · exact .inr hout
  · intro i hle hlt
    -- those that start at `i` share their span, so sorting leaves them in the order in which they were recorded
    have hpairwise : ((all.filter (inside start stop)).filter fun r => r.start == i).Pairwise
        fun a b => a.precedes b = true := by
      rw [filter_start_inside hall hclean hle hlt]
      apply List.pairwise_of_forall_mem_list
      intro a ha b hb
      obtain ⟨ha, hai⟩ := List.mem_filter.1 ha
      obtain ⟨hb, hbi⟩ := List.mem_filter.1 hb
      have hstart : a.start = b.start := (beq_iff_eq.1 hai).trans (beq_iff_eq.1 hbi).symm
      exact precedes_iff.2 (.inr ⟨hstart, Nat.le_of_eq (hall.stop_eq ha hb hstart).symm⟩)
    rw [← List.head?_filter, filter_sort hpairwise, filter_start_inside hall hclean hle hlt, List.head?_filter]

theorem Laminar.clean_args {r : Replacement} (hall : Laminar all) (hr : r ∈ all) : Clean all r.argsStart r.stop := by
  intro a ha
  have hcompatible := hall.compatible r hr a ha
  simp only [Compatible, Holds] at hcompatible
  have := (hall.proper r hr).callee
  have := (hall.proper r hr).args
  have := (hall.proper a ha).callee
  have := (hall.proper a ha).args
  rw [inside_iff]
  omega

/-- Fewer replacements start in the arguments of one, or behind them, than at its own start or behind. -/
theorem length_from_args {r : Replacement} {start : Nat} (hcallee : r.start < r.argsStart) (hr : r ∈ all)
    (hstart : start ≤ r.start) :
    (all.filter fun a => r.argsStart ≤ a.start).length < (all.filter fun a => start ≤ a.start).length := by
  have hsub : (all.filter fun a => r.argsStart ≤ a.start).Sublist (all.filter fun a => start ≤ a.start) := by
    apply List.monotone_filter_right
    intro a ha
    have := of_decide_eq_true ha
    exact decide_eq_true (by omega)
  by_contra hlength
  have hmem : r ∈ all.filter fun a => r.argsStart ≤ a.start := by
    rw [hsub.eq_of_length_le (Nat.le_of_not_lt hlength)]
    exact List.mem_filter.2 ⟨hr, decide_eq_true hstart⟩
  have := of_decide_eq_true (List.mem_filter.1 hmem).2
  omega

theorem spliceTo_eq_patched {depth start stop : Nat} (hall : Laminar all) (hclean : Clean all start stop)
    (hle : start ≤ stop) (hdepth : (all.filter fun a => start ≤ a.start).length < depth) :
    spliceTo src all depth start stop = some (src.patched (all.map patch) start stop) := by
  induction depth generalizing start stop with
  | zero => omega
  | succ depth ih =>
    rw [spliceTo]
    apply stitch_eq_patched hall _ hle (remaining_sort hall hclean)
    intro r hr
    obtain ⟨hmem, hinside⟩ := List.mem_filter.1 (mem_sort.1 hr)
    have hproper := hall.proper r hmem
    have hlength := length_from_args hproper.callee hmem (inside_iff.1 hinside).1
    rw [hproper.argsStop, ih (hall.clean_args hmem) hproper.args (by omega)]
    rfl

/-- Splicing is patching all callees at once. -/
theorem splice_eq_patched {start stop : Nat} (hall : Laminar all) (hclean : Clean all start stop) (hle : start ≤ stop) :
    splice src all start stop = some (src.patched (all.map patch) start stop) := by
  apply spliceTo_eq_patched hall hclean hle
  exact Nat.lt_succ_of_le (List.length_filter_le _ all)

theorem exists_stitch {write : Replacement → Option Bytes} {stop : Nat} {rs : List Replacement}
    (hwrite : ∀ r ∈ rs, ∃ call, write r = some call) (pos : Nat) : ∃ b, stitch src write stop pos rs = some b := by
  induction rs generalizing pos with
  | nil => exact ⟨_, rfl⟩
  | cons r rs ih =>
    obtain ⟨call, hcall⟩ := hwrite r List.mem_cons_self
    have htail := ih fun a ha => hwrite a (List.mem_cons_of_mem r ha)
    rw [stitch]
    split
    · exact htail pos
    · obtain ⟨after, hafter⟩ := htail r.stop
      rw [hcall, hafter]
      exact ⟨_, rfl⟩

theorem exists_spliceTo {depth start stop : Nat} (hcallee : ∀ r ∈ all, r.start < r.argsStart)
    (hdepth : (all.filter fun a => start ≤ a.start).length < depth) :
    ∃ b, spliceTo src all depth start stop = some b := by
  induction depth generalizing start stop with
  | zero => omega
  | succ depth ih =>
    rw [spliceTo]
    refine exists_stitch (fun r hr => ?_) start
    obtain ⟨hmem, hinside⟩ := List.mem_filter.1 (mem_sort.1 hr)
    have hlength := length_from_args (hcallee r hmem) hmem (inside_iff.1 hinside).1
    obtain ⟨args, hargs⟩ := @ih r.argsStart r.argsStop (by omega)
    rw [hargs]
    exact ⟨_, rfl⟩

/-- Replacements with callees of some width never come back to themselves, however they lie. -/
theorem exists_splice (src : Bytes) (hcallee : ∀ r ∈ all, r.start < r.argsStart) (start stop : Nat) :
    ∃ b, splice src all start stop = some b := by
  apply exists_spliceTo hcallee
  exact Nat.lt_succ_of_le (List.length_filter_le _ all)

end Splice

/-! ## What splicing copies -/

section Copies
variable {code : String} {all : List Replacement}

/-- No span of the replacement cuts a character. -/
structure Bounded (code : String) (r : Replacement) : Prop where
  start : Bytes.Boundary code r.start
  stop : Bytes.Boundary code r.stop
  argsStart : Bytes.Boundary code r.argsStart
  argsStop : Bytes.Boundary code r.argsStop

/-- The windows of the file that carrying out the replacement copies are admitted, and its callee is good. -/
structure Fits (opens closes : Nat → Prop) (good : Bytes → Prop) (r : Replacement) : Prop where
  start : closes r.start
  stop : opens r.stop
  argsStart : opens r.argsStart
  argsStop : closes r.argsStop
  callee : good (Bytes.ofString r.callee)

theorem Bounded.fits {r : Replacement} (h : r.Bounded code) :
    r.Fits (Bytes.Boundary code) (Bytes.Boundary code) Bytes.IsText :=
  ⟨h.start, h.stop, h.argsStart, h.argsStop, Bytes.isText_ofString r.callee⟩

section Woven
variable {src : Bytes} {opens closes : Nat → Prop} {good : Bytes → Prop} (hwoven : src.Woven opens closes good)
include hwoven

theorem good_stitch {write : Replacement → Option Bytes} {pos stop : Nat} {rs : List Replacement} {b : Bytes}
    (hfits : ∀ r ∈ rs, r.Fits opens closes good) (hwrite : ∀ r ∈ rs, ∀ c, write r = some c → good c)
    (hpos : opens pos) (hstop : closes stop) (h : stitch src write stop pos rs = some b) : good b := by
  induction rs generalizing pos b with
  | nil =>
    obtain rfl := Option.some.inj h
    exact hwoven.window hpos hstop
  | cons r rs ih =>
    have hr := hfits r List.mem_cons_self
    have htail {pos : Nat} {b : Bytes} := @ih pos b (fun a ha => hfits a (List.mem_cons_of_mem r ha))
      (fun a ha => hwrite a (List.mem_cons_of_mem r ha))
    rw [stitch] at h
    split at h
    · exact htail hpos h
    · obtain ⟨call, hcall, h⟩ := Option.bind_eq_some_iff.1 h
      obtain ⟨after, hafter, h⟩ := Option.bind_eq_some_iff.1 h
      obtain rfl := Option.some.inj h
      have hgap := hwoven.window hpos hr.start
      exact hwoven.append (hwoven.append hgap (hwrite r List.mem_cons_self call hcall)) (htail hr.stop hafter)

/-- A range with replacements in it is put together out of windows of the file and of callees. -/
theorem good_spliceTo {depth start stop : Nat} {b : Bytes} (hfits : ∀ r ∈ all, r.Fits opens closes good)
    (hstart : opens start) (hstop : closes stop) (h : spliceTo src all depth start stop = some b) : good b := by
  induction depth generalizing start stop b with
  | zero => cases h
  | succ depth ih =>
    have hmem : ∀ r ∈ sort (all.filter (inside start stop)), r.Fits opens closes good :=
      fun r hr => hfits r (List.mem_filter.1 (mem_sort.1 hr)).1
    rw [spliceTo] at h
    refine good_stitch hwoven hmem ?_ hstart hstop h
    intro r hr c hc
    obtain ⟨args, hargs, rfl⟩ := Option.map_eq_some_iff.1 hc
    exact hwoven.append (hmem r hr).callee (ih (hmem r hr).argsStart (hmem r hr).argsStop hargs)

end Woven

theorem isText_spliceTo {depth start stop : Nat} {b : Bytes} (hbounded : ∀ r ∈ all, r.Bounded code)
    (hstart : Bytes.Boundary code start) (hstop : Bytes.Boundary code stop)
    (h : spliceTo (Bytes.ofString code) all depth start stop = some b) : b.IsText :=
  good_spliceTo (Bytes.woven_isText code) (fun r hr => (hbounded r hr).fits) hstart hstop h

theorem isText_patched {start stop : Nat} (hall : Laminar all) (hbounded : ∀ r ∈ all, r.Bounded code)
    (hclean : Clean all start stop) (hle : start ≤ stop) (hstart : Bytes.Boundary code start)
    (hstop : Bytes.Boundary code stop) : ((Bytes.ofString code).patched (all.map patch) start stop).IsText :=
  isText_spliceTo hbounded hstart hstop (splice_eq_patched hall hclean hle)

end Copies

end Replacement
end CallRedirect
