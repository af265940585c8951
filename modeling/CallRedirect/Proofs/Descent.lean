import CallRedirect.Proofs.Splice
import Mathlib.Data.List.Nodup
import Mathlib.Data.List.Perm.Subperm

/-! # How deep splicing goes

Splicing goes down into the arguments of every replacement it takes, and again in there, with all replacements at hand at
each level. `Replacement.Spliced` says what that comes to if nothing bounds the depth. One level for each replacement is
always deep enough, so `Replacement.splice` answers exactly where this descent ends.

* `Replacement.splice_eq_some_iff`: the bound on the depth does not matter.
* `Replacement.spliceTo_perm`: neither does the order in which replacements of different spans were recorded.
* `Replacement.splice_ends`: the descent ends if arguments start behind the start of their call. -/

namespace CallRedirect
set_option autoImplicit false

namespace Replacement

/-! ## Without a bound -/

/-- A text is what comes of the file from a position on, with the replacements that are left in the range. A replacement that
starts before the position is passed over. Any other one is written out, with all replacements in its arguments. -/
inductive Stitched (src : Bytes) (all : List Replacement) : Nat → Nat → List Replacement → Bytes → Prop
  | copied {stop pos : Nat} : Stitched src all stop pos [] (src.slice pos stop)
  | passed {stop pos : Nat} {r : Replacement} {rest : List Replacement} {out : Bytes} (hr : r.start < pos)
    (hrest : Stitched src all stop pos rest out) : Stitched src all stop pos (r :: rest) out
  | written {stop pos : Nat} {r : Replacement} {rest : List Replacement} {args after : Bytes} (hr : pos ≤ r.start)
    (hargs : Stitched src all r.argsStop r.argsStart (sort (all.filter (inside r.argsStart r.argsStop))) args)
    (hafter : Stitched src all stop r.stop rest after) :
    Stitched src all stop pos (r :: rest) (src.slice pos r.start ++ (Bytes.ofString r.callee ++ args) ++ after)

/-- A text is what comes of a range of the file with the replacements in it. -/
def Spliced (src : Bytes) (all : List Replacement) (start stop : Nat) (out : Bytes) : Prop :=
  Stitched src all stop start (sort (all.filter (inside start stop))) out

/-- What is written for a replacement at some depth. -/
def writeTo (src : Bytes) (all : List Replacement) (depth : Nat) (r : Replacement) : Option Bytes :=
  (spliceTo src all depth r.argsStart r.argsStop).map (Bytes.ofString r.callee ++ ·)

/-- The replacements that are written out, and not passed over. -/
def taken : Nat → List Replacement → List Replacement
  | _, [] => []
  | pos, r :: rest => if r.start < pos then taken pos rest else r :: taken r.stop rest

section Depth
variable {src : Bytes} {all : List Replacement}

theorem spliceTo_succ (depth start stop : Nat) :
    spliceTo src all (depth + 1) start stop =
      stitch src (writeTo src all depth) stop start (sort (all.filter (inside start stop))) := rfl

theorem mem_of_mem_taken {pos : Nat} {rs : List Replacement} {r : Replacement} (h : r ∈ taken pos rs) : r ∈ rs := by
  fun_induction taken pos rs with
  | case1 => cases h
  | case2 pos a rest _ ih => exact List.mem_cons_of_mem a (ih h)
  | case3 pos a rest _ ih => exact List.mem_cons.2 ((List.mem_cons.1 h).imp_right ih)

/-- One level can be put together exactly if all that is written out on it can be. -/
theorem isSome_stitch {write : Replacement → Option Bytes} {stop pos : Nat} {rs : List Replacement} :
    (stitch src write stop pos rs).isSome = true ↔ ∀ r ∈ taken pos rs, (write r).isSome = true := by
  fun_induction taken pos rs with
  | case1 => simp [stitch]
  | case2 pos a rest ha ih => rw [stitch, if_pos ha, ih]
  | case3 pos a rest ha ih =>
    rw [stitch, if_neg ha, List.forall_mem_cons, ← ih]
    cases write a <;> cases stitch src write stop a.stop rest <;> simp

theorem isSome_spliceTo_succ {depth start stop : Nat} :
    (spliceTo src all (depth + 1) start stop).isSome = true ↔
      ∀ r ∈ taken start (sort (all.filter (inside start stop))),
        (spliceTo src all depth r.argsStart r.argsStop).isSome = true := by
  rw [spliceTo_succ, isSome_stitch]
  simp [writeTo]

/-- The first replacement is passed over, or it is written out and the rest is put together behind it. -/
theorem stitch_cons_eq_some_iff {write : Replacement → Option Bytes} {stop pos : Nat} {r : Replacement}
    {rest : List Replacement} {out : Bytes} :
    stitch src write stop pos (r :: rest) = some out ↔
      (r.start < pos ∧ stitch src write stop pos rest = some out) ∨
        (pos ≤ r.start ∧ ∃ call after, write r = some call ∧ stitch src write stop r.stop rest = some after ∧
          src.slice pos r.start ++ call ++ after = out) := by
  rw [stitch]
  by_cases hr : r.start < pos
  · simp [hr, Nat.not_le.2 hr]
  · rw [if_neg hr]
    simp [Option.bind_eq_some_iff, hr, Nat.le_of_not_lt hr]

theorem stitch_mono {write write' : Replacement → Option Bytes}
    (hwrite : ∀ r call, write r = some call → write' r = some call) {stop pos : Nat} {rs : List Replacement} {out : Bytes}
    (h : stitch src write stop pos rs = some out) : stitch src write' stop pos rs = some out := by
  induction rs generalizing pos out with
  | nil => exact h
  | cons r rest ih =>
    rw [stitch_cons_eq_some_iff] at h ⊢
    rcases h with ⟨hr, hrest⟩ | ⟨hr, call, after, hcall, hafter, hout⟩
    · exact .inl ⟨hr, ih hrest⟩
    · exact .inr ⟨hr, call, after, hwrite r call hcall, ih hafter, hout⟩

theorem writeTo_mono {depth depth' : Nat}
    (hargs : ∀ {start stop out}, spliceTo src all depth start stop = some out → spliceTo src all depth' start stop = some out)
    (r : Replacement) (call : Bytes) (h : writeTo src all depth r = some call) : writeTo src all depth' r = some call := by
  obtain ⟨args, hsplice, rfl⟩ := Option.map_eq_some_iff.1 h
  rw [writeTo, hargs hsplice]
  rfl

/-- More depth does not change a text. -/
theorem spliceTo_mono {depth depth' start stop : Nat} {out : Bytes} (hle : depth ≤ depth')
    (h : spliceTo src all depth start stop = some out) : spliceTo src all depth' start stop = some out := by
  induction depth generalizing depth' start stop out with
  | zero => cases h
  | succ depth ih =>
    obtain ⟨depth', rfl⟩ := Nat.exists_eq_add_one_of_ne_zero (Nat.ne_zero_of_lt hle)
    rw [spliceTo_succ] at h ⊢
    exact stitch_mono (writeTo_mono (ih (Nat.le_of_succ_le_succ hle))) h

theorem stitched_of_stitch {depth : Nat}
    (hargs : ∀ start stop out, spliceTo src all depth start stop = some out → Spliced src all start stop out)
    {stop pos : Nat} {rs : List Replacement} {out : Bytes} (h : stitch src (writeTo src all depth) stop pos rs = some out) :
    Stitched src all stop pos rs out := by
  induction rs generalizing pos out with
  | nil =>
    obtain rfl := Option.some.inj h
    exact .copied
  | cons r rest ih =>
    rcases stitch_cons_eq_some_iff.1 h with ⟨hr, hrest⟩ | ⟨hr, call, after, hcall, hafter, rfl⟩
    · exact .passed hr (ih hrest)
    · obtain ⟨args, hsplice, rfl⟩ := Option.map_eq_some_iff.1 hcall
      exact .written hr (hargs _ _ _ hsplice) (ih hafter)

theorem spliced_of_spliceTo {depth start stop : Nat} {out : Bytes} (h : spliceTo src all depth start stop = some out) :
    Spliced src all start stop out := by
  induction depth generalizing start stop out with
  | zero => cases h
  | succ depth ih => exact stitched_of_stitch (fun _ _ _ h => ih h) h

theorem Stitched.exists_stitch {stop pos : Nat} {rs : List Replacement} {out : Bytes}
    (h : Stitched src all stop pos rs out) : ∃ depth, stitch src (writeTo src all depth) stop pos rs = some out := by
  induction h with
  | copied => exact ⟨0, rfl⟩
  | passed hr _ ih =>
    obtain ⟨depth, hdepth⟩ := ih
    exact ⟨depth, stitch_cons_eq_some_iff.2 (.inl ⟨hr, hdepth⟩)⟩
  | @written stop pos r rest args after hr _ _ ihargs ihafter =>
    obtain ⟨inner, hinner⟩ := ihargs
    obtain ⟨outer, houter⟩ := ihafter
    have hcall : writeTo src all (inner + 1) r = some (Bytes.ofString r.callee ++ args) := by
      rw [writeTo, spliceTo_succ, hinner]
      rfl
    refine ⟨max (inner + 1) outer, stitch_cons_eq_some_iff.2 (.inr ⟨hr, _, after, ?_, ?_, rfl⟩)⟩
    · exact writeTo_mono (spliceTo_mono (Nat.le_max_left _ _)) r _ hcall
    · exact stitch_mono (writeTo_mono (spliceTo_mono (Nat.le_max_right _ _))) houter

theorem Spliced.exists_spliceTo {start stop : Nat} {out : Bytes} (h : Spliced src all start stop out) :
    ∃ depth, spliceTo src all depth start stop = some out := by
  obtain ⟨depth, hdepth⟩ := Stitched.exists_stitch h
  exact ⟨depth + 1, hdepth⟩

/-! ## Deep enough -/

/-- Where some depth is needed, a way down leads through as many replacements, and no two of them are the same: the
arguments of each need one level less than those of the one above. -/
theorem exists_descent {depth start stop : Nat} (hdeep : (spliceTo src all (depth + 1) start stop).isSome = true)
    (hflat : (spliceTo src all depth start stop).isSome = false) :
    ∃ way : List Replacement, way.length = depth ∧ way.Nodup ∧
      ∀ r ∈ way, r ∈ all ∧ (spliceTo src all depth r.argsStart r.argsStop).isSome = true := by
  induction depth generalizing start stop with
  | zero => exact ⟨[], rfl, List.nodup_nil, nofun⟩
  | succ depth ih =>
    rw [← Bool.not_eq_true, isSome_spliceTo_succ] at hflat
    rw [isSome_spliceTo_succ] at hdeep
    push Not at hflat
    obtain ⟨r, hr, hargs⟩ := hflat
    obtain ⟨way, hlength, hnodup, hway⟩ := ih (hdeep r hr) (Bool.eq_false_iff.2 hargs)
    have hfresh : r ∉ way := fun hmem => hargs (hway r hmem).2
    refine ⟨r :: way, by rw [List.length_cons, hlength], List.nodup_cons.2 ⟨hfresh, hnodup⟩, ?_⟩
    rw [List.forall_mem_cons]
    refine ⟨⟨(List.mem_filter.1 (mem_sort.1 (mem_of_mem_taken hr))).1, hdeep r hr⟩, fun a ha => ⟨(hway a ha).1, ?_⟩⟩
    obtain ⟨args, hargs⟩ := Option.isSome_iff_exists.1 (hway a ha).2
    rw [spliceTo_mono (Nat.le_succ depth) hargs]
    rfl

/-- A text that some depth gives is there at one level for each replacement. -/
theorem splice_of_spliceTo {depth start stop : Nat} {out : Bytes} (h : spliceTo src all depth start stop = some out) :
    splice src all start stop = some out := by
  induction depth with
  | zero => cases h
  | succ depth ih =>
    cases hflat : spliceTo src all depth start stop with
    | some out' =>
      have hsame : out' = out := Option.some.inj ((spliceTo_mono (Nat.le_succ depth) hflat).symm.trans h)
      exact ih (hsame ▸ hflat)
    | none =>
      obtain ⟨way, hlength, hnodup, hway⟩ := exists_descent (by rw [h]; rfl) (by rw [hflat]; rfl)
      have hle : way.length ≤ all.length := (List.subperm_of_subset hnodup fun r hr => (hway r hr).1).length_le
      exact spliceTo_mono (Nat.succ_le_succ (hlength ▸ hle)) h

/-- Splicing answers exactly where the descent ends, with what it comes to. -/
theorem splice_eq_some_iff {start stop : Nat} {out : Bytes} :
    splice src all start stop = some out ↔ Spliced src all start stop out := by
  constructor
  · exact spliced_of_spliceTo
  · intro h
    obtain ⟨depth, hdepth⟩ := h.exists_spliceTo
    exact splice_of_spliceTo hdepth

end Depth

/-! ## The order of recording -/

/-- No two replacements take the place of the same span. -/
def SpansDiffer (all : List Replacement) : Prop := (all.map fun r => (r.start, r.stop)).Nodup

instance (all : List Replacement) : Decidable (SpansDiffer all) := inferInstanceAs (Decidable (List.Nodup _))

section Order
variable {src : Bytes} {all all' : List Replacement}

theorem SpansDiffer.eq_of_span (h : SpansDiffer all) {a b : Replacement} (ha : a ∈ all) (hb : b ∈ all)
    (hstart : a.start = b.start) (hstop : a.stop = b.stop) : a = b :=
  List.inj_on_of_nodup_map h ha hb (by rw [hstart, hstop])

theorem SpansDiffer.filter (h : SpansDiffer all) (p : Replacement → Bool) : SpansDiffer (all.filter p) :=
  h.sublist (List.filter_sublist.map _)

theorem sort_perm (h : SpansDiffer all) (hperm : all'.Perm all) : sort all' = sort all := by
  refine List.Perm.eq_of_pairwise ?_ (pairwise_sort all') (pairwise_sort all)
    ((perm_sort all').trans (hperm.trans (perm_sort all).symm))
  intro a b ha hb hab hba
  rw [precedes_iff] at hab hba
  exact h.eq_of_span (hperm.mem_iff.1 (mem_sort.1 ha)) (mem_sort.1 hb) (by omega) (by omega)

theorem spliceTo_perm (h : SpansDiffer all) (hperm : all'.Perm all) (depth start stop : Nat) :
    spliceTo src all' depth start stop = spliceTo src all depth start stop := by
  induction depth generalizing start stop with
  | zero => rfl
  | succ depth ih =>
    have hwrite : writeTo src all' depth = writeTo src all depth := by
      funext r
      rw [writeTo, writeTo, ih]
    rw [spliceTo_succ, spliceTo_succ, hwrite, sort_perm (h.filter _) (hperm.filter _)]

end Order

/-- If the arguments of every replacement start behind its own start, the descent ends in every range, however the
replacements lie and wherever their arguments stop. It comes to one text, which is the one that `splice` finds; and if
no two of the replacements have the same span, the order in which they were recorded does not matter. -/
theorem splice_ends {all : List Replacement} (hargs : ∀ r ∈ all, r.start < r.argsStart) (src : Bytes) (start stop : Nat) :
    ∃ out, (∀ out', Spliced src all start stop out' ↔ out' = out) ∧ splice src all start stop = some out ∧
      (SpansDiffer all → ∀ all', all'.Perm all →
        (∀ out', Spliced src all' start stop out' ↔ out' = out) ∧ splice src all' start stop = some out) := by
  have hunique {all : List Replacement} {out : Bytes} (h : splice src all start stop = some out) (out' : Bytes) :
      Spliced src all start stop out' ↔ out' = out := by
    rw [← splice_eq_some_iff, h, Option.some_inj, eq_comm]
  obtain ⟨out, hout⟩ := exists_splice src hargs start stop
  refine ⟨out, hunique hout, hout, fun hspans all' hperm => ?_⟩
  have hout' : splice src all' start stop = some out := by
    rw [← hout, splice, splice, hperm.length_eq, spliceTo_perm hspans hperm]
  exact ⟨hunique hout', hout'⟩

/-- A replacement with another one in its arguments, one that crosses both, and one that reaches out of the file. -/
def crossing : List Replacement := [⟨4, 12, "q", 6, 12⟩, ⟨10, 20, "s", 11, 20⟩, ⟨5, 7, "r", 6, 7⟩, ⟨0, 8, "p", 2, 8⟩]

theorem splice_ends_crossing :
    Spliced (Bytes.ofString "0123456789ab") crossing 0 12 (Bytes.ofString "p234r6789ab") ∧
      splice (Bytes.ofString "0123456789ab") crossing.reverse 0 12 = some (Bytes.ofString "p234r6789ab") := by
  obtain ⟨out, hspliced, hsplice, hany⟩ :=
    @splice_ends crossing (by decide) (Bytes.ofString "0123456789ab") 0 12
  have htext : splice (Bytes.ofString "0123456789ab") crossing 0 12 = some (Bytes.ofString "p234r6789ab") := by
    decide +kernel
  obtain rfl : Bytes.ofString "p234r6789ab" = out := Option.some.inj (htext.symm.trans hsplice)
  exact ⟨(hspliced _).2 rfl, (hany (by decide) _ (List.reverse_perm _)).2⟩

end Replacement
end CallRedirect
