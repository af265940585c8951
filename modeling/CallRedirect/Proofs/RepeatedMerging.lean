import CallRedirect.Proofs.Requests

/-! # Merging many entries

Entries may be merged into a declaration one after the other. Each merge writes the declaration anew, and what comes out
in the end is the same as if all entries had been listed first and then reduced to one for each key.

* `Specifier.lastOfEach`: each key at the place of its first entry, with its last one; `dedup_eq_lastOfEach` says that
  this is what merging keeps.
* `Specifier.dedup_dedup_append`: entries that were reduced before may be reduced again with others.
* `Statement.foldl_mergeEntry`: a whole list of merges. -/

namespace CallRedirect
set_option autoImplicit false

namespace Specifier

/-! ## First places, last entries -/

/-- The last entry with a key. -/
def lastOf? (ss : List Specifier) (k : String) : Option Specifier := (ss.filter fun s => s.key == k).getLast?

/-- For each key, in the order of the first entries, the last one. -/
def lastOfEach (ss : List Specifier) : List Specifier := (ss.map key).eraseDups.filterMap (lastOf? ss)

theorem lastOf?_concat (ss : List Specifier) (s : Specifier) (k : String) :
    lastOf? (ss ++ [s]) k = if s.key = k then some s else lastOf? ss k := by
  by_cases hk : s.key = k <;> simp [lastOf?, hk]

theorem key_of_lastOf? {ss : List Specifier} {k : String} {e : Specifier} (h : lastOf? ss k = some e) : e.key = k := by
  simpa using (List.mem_filter.1 (List.mem_of_getLast? h)).2

theorem lastOf?_isSome {ss : List Specifier} {k : String} (hk : k ∈ ss.map key) : (lastOf? ss k).isSome := by
  obtain ⟨s, hs, rfl⟩ := List.mem_map.1 hk
  have hmem : s ∈ ss.filter fun t => t.key == s.key := List.mem_filter.2 ⟨hs, beq_self_eq_true _⟩
  rw [lastOf?, List.getLast?_isSome]
  exact List.ne_nil_of_mem hmem

theorem map_key_lastOfEach (ss : List Specifier) : (lastOfEach ss).map key = (ss.map key).eraseDups := by
  have hkey : ∀ k ∈ (ss.map key).eraseDups, (lastOf? ss k).map key = some k := by
    intro k hk
    obtain ⟨e, he⟩ := Option.isSome_iff_exists.1 (lastOf?_isSome (List.mem_eraseDups.1 hk))
    rw [he, Option.map_some, key_of_lastOf? he]
  rw [lastOfEach, List.map_filterMap, List.filterMap_congr hkey, List.filterMap_some]

theorem mem_lastOfEach {ss : List Specifier} {e : Specifier} (he : e ∈ lastOfEach ss) : lastOf? ss e.key = some e := by
  obtain ⟨k, -, hk⟩ := List.mem_filterMap.1 he
  rwa [key_of_lastOf? hk]

/-- An entry whose key is there already takes the place of the one that has it. -/
theorem put_of_mem {s : Specifier} {kept : List Specifier} (h : Distinct kept) (hs : s.key ∈ kept.map key) :
    put s kept = kept.map fun t => if t.key = s.key then s else t := by
  induction kept with
  | nil => cases hs
  | cons t kept ih =>
    obtain ⟨hhead, htail⟩ := List.pairwise_cons.1 h
    rw [put, List.map_cons]
    split
    · next hkey =>
      have hothers : ∀ u ∈ kept, (if u.key = s.key then s else u) = u := fun u hu =>
        if_neg fun hus => hhead u hu (hkey.trans hus.symm)
      rw [List.map_congr_left hothers, List.map_id']
    · next hkey =>
      rw [List.map_cons, List.mem_cons] at hs
      rw [ih htail (hs.resolve_left (Ne.symm hkey))]

theorem distinct_lastOfEach (ss : List Specifier) : Distinct (lastOfEach ss) := by
  rw [Distinct, ← List.pairwise_map (R := fun k l => k ≠ l), map_key_lastOfEach]
  exact Session.nodup_eraseDups _

/-- One more entry in the list is one more entry put in. -/
theorem lastOfEach_concat (ss : List Specifier) (s : Specifier) : lastOfEach (ss ++ [s]) = put s (lastOfEach ss) := by
  have hkeys : (ss ++ [s]).map key = ss.map key ++ [s.key] := by rw [List.map_append, List.map_singleton]
  rw [lastOfEach, hkeys, eraseDups_concat]
  split
  · next hmem =>
    rw [put_of_mem (distinct_lastOfEach ss) (by rwa [map_key_lastOfEach, List.mem_eraseDups]), lastOfEach,
      List.map_filterMap]
    refine List.filterMap_congr fun k hk => ?_
    obtain ⟨e, he⟩ := Option.isSome_iff_exists.1 (lastOf?_isSome (List.mem_eraseDups.1 hk))
    have hkey : e.key = k := key_of_lastOf? he
    rw [lastOf?_concat, he, Option.map_some, hkey]
    by_cases hsk : s.key = k
    · rw [if_pos hsk, if_pos hsk.symm]
    · rw [if_neg hsk, if_neg (Ne.symm hsk)]
  · next hmem =>
    have habsent : ∀ t ∈ lastOfEach ss, t.key ≠ s.key := by
      intro t ht hts
      have : t.key ∈ (lastOfEach ss).map key := List.mem_map_of_mem ht
      rw [map_key_lastOfEach, List.mem_eraseDups, hts] at this
      exact hmem this
    rw [put_of_absent habsent, List.filterMap_append, lastOfEach]
    congr 1
    · refine List.filterMap_congr fun k hk => ?_
      rw [lastOf?_concat, if_neg]
      rintro rfl
      exact hmem (List.mem_eraseDups.1 hk)
    · rw [List.filterMap_cons_some (b := s) (by rw [lastOf?_concat, if_pos rfl]), List.filterMap_nil]

/-- What a merge keeps, entry by entry, is the last entry of each key at the place of the first. -/
theorem dedup_eq_lastOfEach (ss : List Specifier) : dedup ss = lastOfEach ss := by
  induction ss using List.reverseRecOn with
  | nil => rfl
  | append_singleton ss s ih => rw [dedup_append_singleton, ih, lastOfEach_concat]

theorem dedup_dedup_append (xs ys : List Specifier) : dedup (dedup xs ++ ys) = dedup (xs ++ ys) := by
  have hfold (zs : List Specifier) : dedup (zs ++ ys) = ys.foldl (fun kept s => put s kept) (dedup zs) := by
    rw [dedup, List.foldl_append]
    rfl
  rw [hfold, hfold, dedup_of_distinct (distinct_dedup xs)]

theorem Distinct.eq_of_key {kept : List Specifier} (h : Distinct kept) {e t : Specifier} (he : e ∈ kept) (ht : t ∈ kept)
    (hkey : e.key = t.key) : e = t :=
  List.inj_on_of_nodup_map (List.pairwise_map.2 h) he ht hkey

/-- An entry that is there already changes nothing. -/
theorem put_of_entry {e : Specifier} {kept : List Specifier} (h : Distinct kept) (he : e ∈ kept) : put e kept = kept := by
  have hsame : ∀ t ∈ kept, (if t.key = e.key then e else t) = t := by
    intro t ht
    split
    · next hkey => exact h.eq_of_key he ht hkey.symm
    · rfl
  rw [put_of_mem h (List.mem_map_of_mem he), List.map_congr_left hsame, List.map_id']

end Specifier

/-! ## Merging into a statement -/

namespace Statement

/-- An import with one more entry; any other statement stays as it is. -/
def mergeEntry (s : Statement) (spec : Specifier) : Statement :=
  match s.form with
  | .plain _ => s
  | .importing decl => s.merge decl spec

/-- The import of a declaration that was written anew. -/
def rewrittenAs (s : Statement) (decl : ImportDecl) (specs : List Specifier) : Statement :=
  { s with form := .importing { decl with specifiers := specs }, verbatim := false, replacements := [] }

theorem mergeEntry_of_importing {s : Statement} {decl : ImportDecl} (hs : s.form = .importing decl) (spec : Specifier) :
    s.mergeEntry spec = s.rewrittenAs decl (Specifier.dedup (decl.specifiers ++ [spec])) := by
  rw [mergeEntry, hs]
  rfl

/-- One merge after the other: what was written anew is written anew again. -/
theorem mergeEntry_rewrittenAs (s : Statement) (decl : ImportDecl) (specs : List Specifier) (spec : Specifier) :
    (s.rewrittenAs decl specs).mergeEntry spec = s.rewrittenAs decl (Specifier.dedup (specs ++ [spec])) := rfl

theorem foldl_mergeEntry_rewrittenAs (s : Statement) (decl : ImportDecl) (xs specs : List Specifier) :
    specs.foldl mergeEntry (s.rewrittenAs decl (Specifier.dedup xs)) =
      s.rewrittenAs decl (Specifier.dedup (xs ++ specs)) := by
  induction specs generalizing xs with
  | nil => rw [List.append_nil, List.foldl_nil]
  | cons spec specs ih =>
    rw [List.foldl_cons, mergeEntry_rewrittenAs, Specifier.dedup_dedup_append, ih, List.append_assoc,
      List.singleton_append]

theorem foldl_mergeEntry_eq {s : Statement} {decl : ImportDecl} (hs : s.form = .importing decl)
    {specs : List Specifier} (hspecs : specs ≠ []) :
    specs.foldl mergeEntry s = s.rewrittenAs decl (Specifier.dedup (decl.specifiers ++ specs)) := by
  obtain ⟨spec, rest, rfl⟩ := List.exists_cons_of_ne_nil hspecs
  rw [List.foldl_cons, mergeEntry_of_importing hs, foldl_mergeEntry_rewrittenAs, List.append_assoc,
    List.singleton_append]

/-- Merging any entries into an import, one after the other, lists them behind its own and leaves the last one of each key
at the place of the first. All else about the statement is as it was, but that it is written anew. An entry that is there
then may be merged once more without effect, and one with a new key goes to the end. -/
theorem foldl_mergeEntry {s : Statement} {decl : ImportDecl} (hs : s.form = .importing decl) {specs : List Specifier}
    (hspecs : specs ≠ []) :
    let merged := Specifier.lastOfEach (decl.specifiers ++ specs)
    specs.foldl mergeEntry s =
        { form := .importing
            { origin := decl.origin, specifiers := merged, typeOnly := decl.typeOnly, attributes := decl.attributes }
          slot := s.slot, verbatim := false, leading := s.leading, trailing := s.trailing, replacements := [] } ∧
      merged = Specifier.dedup (decl.specifiers ++ specs) ∧
      merged.map Specifier.key = ((decl.specifiers ++ specs).map Specifier.key).eraseDups ∧
      (merged.map Specifier.key).Nodup ∧
      (∀ e ∈ merged, Specifier.lastOf? (decl.specifiers ++ specs) e.key = some e) ∧
      (∀ e ∈ merged, (specs.foldl mergeEntry s).mergeEntry e = specs.foldl mergeEntry s) ∧
      (∀ spec, (s.mergeEntry spec).mergeEntry spec = s.mergeEntry spec) ∧
      ∀ spec, (decl.specifiers.map Specifier.key).Nodup → spec.key ∉ decl.specifiers.map Specifier.key →
        (s.mergeEntry spec).form = .importing { decl with specifiers := decl.specifiers ++ [spec] } := by
  intro merged
  have hmerged : merged = Specifier.dedup (decl.specifiers ++ specs) := (Specifier.dedup_eq_lastOfEach _).symm
  have hall : specs.foldl mergeEntry s = s.rewrittenAs decl merged := by rw [foldl_mergeEntry_eq hs hspecs, hmerged]
  have hagain {xs : List Specifier} {e : Specifier} (he : e ∈ Specifier.dedup xs) :
      (s.rewrittenAs decl (Specifier.dedup xs)).mergeEntry e = s.rewrittenAs decl (Specifier.dedup xs) := by
    rw [mergeEntry_rewrittenAs, Specifier.dedup_append_singleton,
      Specifier.dedup_of_distinct (Specifier.distinct_dedup xs),
      Specifier.put_of_entry (Specifier.distinct_dedup xs) he]
  refine ⟨hall, hmerged, Specifier.map_key_lastOfEach _, ?_, fun e he => Specifier.mem_lastOfEach he, fun e he => ?_,
    fun spec => ?_, fun spec hdistinct hnew => ?_⟩
  · exact List.pairwise_map.2 (Specifier.distinct_lastOfEach _)
  · rw [hall, hmerged]
    exact hagain (hmerged ▸ he)
  · rw [mergeEntry_of_importing hs]
    exact hagain (Specifier.mem_dedup_append_singleton _ _)
  · have hdistinct : Specifier.Distinct (decl.specifiers ++ [spec]) := by
      refine List.pairwise_append.2 ⟨List.pairwise_map.1 hdistinct, List.pairwise_singleton _ _, fun t ht u hu => ?_⟩
      rw [List.mem_singleton.1 hu]
      exact fun hkey => hnew (hkey ▸ List.mem_map_of_mem ht)
    rw [mergeEntry_of_importing hs, Specifier.dedup_of_distinct hdistinct]
    rfl

/-- An import of some entries. -/
def loggerImport (specs : List Specifier) : ImportDecl := { origin := "src/lib.logger", specifiers := specs }

/-- A default entry takes the place of an export that is spelled like its key, and an entry may have no name at all. -/
theorem foldl_mergeEntry_sentinel :
    ([⟨.named, some "__default__", none, false⟩, ⟨.named, none, none, false⟩, ⟨.default, none, some "d", false⟩] :
        List Specifier).foldl mergeEntry
        { form := .importing (loggerImport Session.twiceNamed), slot := some ⟨0, 0, 51⟩ } =
      { form := .importing (loggerImport
          [⟨.named, some "a", some "y", false⟩, ⟨.named, some "b", none, false⟩, ⟨.default, none, some "d", false⟩,
            ⟨.named, none, none, false⟩]),
        slot := some ⟨0, 0, 51⟩, verbatim := false } := by
  have hmerged := (@foldl_mergeEntry
    { form := .importing (loggerImport Session.twiceNamed), slot := some ⟨0, 0, 51⟩ } _ rfl
    [⟨.named, some "__default__", none, false⟩, ⟨.named, none, none, false⟩, ⟨.default, none, some "d", false⟩]
    nofun).1
  exact hmerged.trans (by decide +kernel)

end Statement
end CallRedirect
