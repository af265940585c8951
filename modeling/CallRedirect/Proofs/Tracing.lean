import CallRedirect.Proofs.Redirection
import CallRedirect.Proofs.Runs
import CallRedirect.Proofs.Stations

/-! # The trace of a run

Every entry of a trace names the phase that it belongs to. Reading the entries in order, one can follow which phases are
open, and check that every entry names the innermost of them.

* `Trace.replay`: the phases that are open after some entries, if every entry is in its place.
* `Trace.WellNested`: what recording, opening and closing keep up.
* `Session.flatMap_byIndex`: changes are recorded statement by statement, and yet in the order of the file.
* `Session.trace_redirect`: what redirecting records.
* `Settings.traced_process`: the whole trace. -/

namespace CallRedirect
set_option autoImplicit false

/-- The event opens or closes a phase. -/
def Event.isBracket : Event → Bool
  | phaseStart .. => true
  | phaseEnd => true
  | _ => false

/-- The event opens a phase of this name. -/
def Event.opens (name : String) : Event → Bool
  | phaseStart phase _ => phase == name
  | _ => false

theorem Event.opens_of_not {e : Event} (h : e.isBracket = false) (name : String) : e.opens name = false := by
  cases e with
  | phaseStart phase detail => cases h
  | _ => rfl

namespace Trace

/-! ## Phases -/

/-- The phases that are open after the entry with a number. It has to name the innermost open phase, and an end closes
the phase that it names. -/
def openedAfter? (n : Nat) (opened : List Nat) (e : Entry) : Option (List Nat) :=
  if e.parent = opened.head? then
    match e.event with
    | .phaseStart .. => some (n :: opened)
    | .phaseEnd => opened.tail?
    | _ => some opened
  else none

/-- The phases that are open after the entries from a number on, innermost first, if each is in its place. -/
def replay (n : Nat) (opened : List Nat) : List Entry → Option (List Nat)
  | [] => some opened
  | e :: es => (openedAfter? n opened e).bind fun opened => replay (n + 1) opened es

/-- The open phases are those that the entries leave open. -/
def WellNested (t : Trace) : Prop := replay 0 [] t.entries = some t.opened

theorem replay_append (n : Nat) (opened : List Nat) (es es' : List Entry) :
    replay n opened (es ++ es') = (replay n opened es).bind fun opened => replay (n + es.length) opened es' := by
  induction es generalizing n opened with
  | nil => rfl
  | cons e es ih =>
    have hlength : n + 1 + es.length = n + (e :: es).length := by
      rw [List.length_cons]
      omega
    rw [List.cons_append, replay, replay]
    cases openedAfter? n opened e with
    | none => rfl
    | some opened' => rw [Option.bind_some, Option.bind_some, ih, hlength]

/-- A trace grows by an entry that is in its place. -/
theorem WellNested.concat {t : Trace} (h : t.WellNested) {e : Entry} {opened : List Nat}
    (he : openedAfter? t.entries.length t.opened e = some opened) : WellNested ⟨t.entries ++ [e], opened⟩ := by
  rw [WellNested, replay_append, h, Option.bind_some, Nat.zero_add, replay, he]
  rfl

theorem WellNested.note {t : Trace} (h : t.WellNested) {e : Event} (he : e.isBracket = false) :
    (t.note e).WellNested := by
  refine h.concat ?_
  rw [openedAfter?, if_pos rfl]
  cases e with
  | phaseStart name detail => cases he
  | phaseEnd => cases he
  | mutation target before after line => rfl
  | inspection text outcome detail => rfl
  | importAction action origin name => rfl

theorem WellNested.start {t : Trace} (h : t.WellNested) (name detail : String) : (t.start name detail).WellNested := by
  refine h.concat ?_
  rw [openedAfter?, if_pos rfl]

theorem WellNested.finish {t : Trace} (h : t.WellNested) : t.finish.WellNested := by
  unfold Trace.finish
  split
  · exact h
  · next p outer hopened =>
    refine h.concat ?_
    rw [openedAfter?, hopened]
    exact if_pos rfl

theorem WellNested.foldl_note {t : Trace} (h : t.WellNested) {es : List Event} (hes : ∀ e ∈ es, e.isBracket = false) :
    (es.foldl Trace.note t).WellNested := by
  induction es generalizing t with
  | nil => exact h
  | cons e es ih => exact ih (h.note (hes e List.mem_cons_self)) fun e' he' => hes e' (List.mem_cons_of_mem e he')

theorem foldl_note (t : Trace) (es : List Event) :
    es.foldl Trace.note t = ⟨t.entries ++ es.map fun e => ⟨e, t.opened.head?⟩, t.opened⟩ := by
  induction es generalizing t with
  | nil => simp
  | cons e es ih => simp [ih, Trace.note]

/-- The numbers of the entries that open a phase of this name. -/
def phases (t : Trace) (name : String) : List Nat :=
  (t.entries.zipIdx.filter fun p => p.1.event.opens name).map Prod.snd

/-- The events of a phase. -/
def eventsUnder (t : Trace) (phase : Nat) : List Event :=
  (t.entries.filter fun e => e.parent == some phase).map Entry.event

end Trace

namespace Session

theorem trace_noteAll (s : Session) (es : List Event) : (s.noteAll es).trace = es.foldl Trace.note s.trace := by
  induction es generalizing s with
  | nil => rfl
  | cons e es ih => exact ih (s.note e)

/-! ## Changes in the order of the file -/

theorem filter_append_filter {found : List (Nat × Replacement)} {k : Nat} (hle : ∀ p ∈ found, k ≤ p.1)
    (hsorted : found.Pairwise fun p q => p.1 ≤ q.1) :
    (found.filter fun p => p.1 == k) ++ (found.filter fun p => !(p.1 == k)) = found := by
  induction found with
  | nil => rfl
  | cons p found ih =>
    obtain ⟨hp, hsorted⟩ := List.pairwise_cons.1 hsorted
    by_cases hk : p.1 = k
    · have hrest := ih (fun q hq => hle q (List.mem_cons_of_mem p hq)) hsorted
      simp [hk, hrest]
    · -- the keys below are larger still
      have hlt : ∀ q ∈ p :: found, q.1 ≠ k := by
        intro q hq
        have hkp := hle p List.mem_cons_self
        rcases List.mem_cons.1 hq with rfl | hq
        · exact hk
        · have := hp q hq
          omega
      rw [List.filter_eq_nil_iff.2 (by simpa using hlt), List.filter_eq_self.2 (by simpa using hlt), List.nil_append]

/-- Where the indices do not go down, grouping by them keeps the order. -/
theorem flatMap_byIndex {found : List (Nat × Replacement)} (hsorted : found.Pairwise fun p q => p.1 ≤ q.1) :
    (byIndex found).flatMap Prod.snd = found.map Prod.snd := by
  induction hlength : found.length using Nat.strongRecOn generalizing found with
  | ind n ih =>
    cases found with
    | nil => rfl
    | cons p found =>
      have hle : ∀ q ∈ p :: found, p.1 ≤ q.1 :=
        List.forall_mem_cons.2 ⟨Nat.le_refl _, (List.pairwise_cons.1 hsorted).1⟩
      have hrest : (found.filter fun q => !(q.1 == p.1)).length < n := by
        have := List.length_filter_le (fun q => !(q.1 == p.1)) found
        rw [List.length_cons] at hlength
        omega
      have hgroup (i : Nat) (hi : i ∈ ((found.filter fun q => !(q.1 == p.1)).map Prod.fst).eraseDups) :
          ((p :: found).filter fun q => q.1 == i) =
            (found.filter fun q => !(q.1 == p.1)).filter fun q => q.1 == i := by
        obtain ⟨q, hq, rfl⟩ := List.mem_map.1 (List.mem_eraseDups.1 hi)
        have hne : q.1 ≠ p.1 := by simpa using (List.mem_filter.1 hq).2
        rw [List.filter_cons_of_neg (by simpa using hne.symm), List.filter_filter]
        apply List.filter_congr
        intro q' _
        by_cases hq' : q'.1 = q.1 <;> simp [hq', hne]
      have hkeys : (((p :: found).map Prod.fst).eraseDups) =
          p.1 :: ((found.filter fun q => !(q.1 == p.1)).map Prod.fst).eraseDups := by
        rw [List.map_cons, List.eraseDups_cons, List.filter_map]
        rfl
      rw [byIndex, hkeys, List.map_cons, List.flatMap_cons, List.flatMap_map]
      have htail : (((found.filter fun q => !(q.1 == p.1)).map Prod.fst).eraseDups.flatMap fun i =>
          ((p :: found).filter fun q => q.1 == i).map Prod.snd) =
            (found.filter fun q => !(q.1 == p.1)).map Prod.snd := by
        rw [← ih _ hrest ((List.pairwise_cons.1 hsorted).2.filter _) rfl, byIndex, List.flatMap_map]
        exact List.flatMap_congr fun i hi => congrArg (List.map Prod.snd) (hgroup i hi)
      rw [htail, ← List.map_append]
      congr 1
      have hsplit := filter_append_filter hle hsorted
      rwa [List.filter_cons_of_neg (by simp) (l := found) (p := fun q => !(q.1 == p.1))] at hsplit

/-! ## What redirecting records -/

theorem replaceIn_trace {s s' : Session} {g : Nat × List Replacement}
    (hfresh : ∀ st, s.document.statements[g.1]? = some st → st.replacements = []) (h : s.replaceIn g = .ok s') :
    ∃ events, g.2.mapM (mutation s.document.source g.2) = .ok events ∧ s'.trace = events.foldl Trace.note s.trace ∧
      s'.document = s.document.modify g.1 fun st => { st with replacements := g.2 } := by
  have hpresent : ((s.document.statements[g.1]?).map Statement.replacements).getD [] = [] := by
    cases hst : s.document.statements[g.1]? with
    | none => rfl
    | some st => exact hfresh st hst
  rw [replaceIn, hpresent, List.nil_append] at h
  obtain ⟨events, hevents, h⟩ := Failure.bind_eq_ok_iff.1 h
  obtain rfl := Except.ok.inj h
  exact ⟨events, hevents, trace_noteAll s events, rfl⟩

theorem foldlM_replaceIn_trace {s s' : Session} {gs : List (Nat × List Replacement)} (hkeys : (gs.map Prod.fst).Nodup)
    (hfresh : ∀ g ∈ gs, ∀ st, s.document.statements[g.1]? = some st → st.replacements = [])
    (h : gs.foldlM replaceIn s = .ok s') :
    ∃ events, List.Forall₂ (fun r e => ∃ g ∈ gs, r ∈ g.2 ∧ mutation s.document.source g.2 r = .ok e)
        (gs.flatMap Prod.snd) events ∧ s'.trace = events.foldl Trace.note s.trace := by
  induction gs generalizing s with
  | nil =>
    obtain rfl := Except.ok.inj h
    exact ⟨[], .nil, rfl⟩
  | cons g gs ih =>
    obtain ⟨hg, hkeys⟩ := List.nodup_cons.1 hkeys
    rw [List.foldlM_cons] at h
    obtain ⟨s₁, hs₁, h⟩ := Failure.bind_eq_ok_iff.1 h
    obtain ⟨events, hevents, htrace, hdocument⟩ := replaceIn_trace (hfresh g List.mem_cons_self) hs₁
    have hsource : s₁.document.source = s.document.source := by rw [hdocument, Document.modify]
    -- the statements of the rest are other ones, so they are still as they were
    obtain ⟨rest, hrest, htrace'⟩ := @ih s₁ hkeys (fun g' hg' st hst => by
      have hne : g.1 ≠ g'.1 := fun heq => hg (heq ▸ List.mem_map_of_mem hg')
      rw [hdocument, Document.modify, List.getElem?_modify_ne _ _ hne] at hst
      exact hfresh g' (List.mem_cons_of_mem g hg') st hst) h
    rw [hsource] at hrest
    refine ⟨events ++ rest, ?_, by rw [htrace', htrace, List.foldl_append]⟩
    rw [List.flatMap_cons]
    have hmutations := (List.forall₂_and_left _ _).2 ⟨fun r hr => hr, Document.forall₂_mapM hevents⟩
    refine List.rel_append (hmutations.imp fun r e hr => ⟨g, List.mem_cons_self, hr⟩) (hrest.imp fun r e hre => ?_)
    obtain ⟨g', hg', hr⟩ := hre
    exact ⟨g', List.mem_cons_of_mem g hg', hr⟩

/-- The statements of the file do not go back, from call to call. -/
theorem sorted_placed {code : String} {root : Node} {src : Bytes} {t : Target} (hroot : root.WellFormed code)
    (hproper : ∀ c ∈ CallSite.all src t root, c.Proper) :
    (placed (.ofItems src root) t).Pairwise fun p q => p.1 ≤ q.1 := by
  rw [placed, List.pairwise_filterMap]
  refine (pairwise_callee_ambientCalls hroot hproper).imp_of_mem fun {a b} ha hb hab p hp q hq => ?_
  obtain ⟨j, hj, rfl⟩ := Option.map_eq_some_iff.1 hp
  obtain ⟨k, hk, rfl⟩ := Option.map_eq_some_iff.1 hq
  obtain ⟨j', g, hg, hat, hinside⟩ :=
    CallSite.exists_statement hroot ((sublist_ambientCalls src root t).subset ha)
  obtain ⟨k', g', hg', hat', hinside'⟩ :=
    CallSite.exists_statement hroot ((sublist_ambientCalls src root t).subset hb)
  obtain rfl := Option.some.inj (hat.symm.trans hj)
  obtain rfl := Option.some.inj (hat'.symm.trans hk)
  by_contra hlt
  obtain ⟨hj', rfl⟩ := List.getElem?_eq_some_iff.1 hg
  obtain ⟨hk', rfl⟩ := List.getElem?_eq_some_iff.1 hg'
  have hapart := List.pairwise_iff_getElem.1 (Document.pairwise_groups hroot src) k' j' hk' hj' (by omega)
  have hb' := CallSite.callee_span hroot.nested ((sublist_ambientCalls src root t).subset hb)
  have hbproper := hproper b ((sublist_ambientCalls src root t).subset hb)
  have := hbproper.nonempty
  have := hbproper.start
  omega

/-- Redirecting records the calls it leaves alone, and then those it changes, all in the order of the file. -/
theorem trace_redirect {code : String} {root : Node} {t : Target} {s s' : Session} {n : Nat}
    (hroot : root.WellFormed code) (hproper : ∀ c ∈ CallSite.all (Bytes.ofString code) t root, c.Proper)
    (hs : s.document = .ofItems (Bytes.ofString code) root) (h : s.redirect t = .ok (n, s')) :
    ∃ mutations, List.Forall₂ (fun c e => ∃ j, c.replacement t ∈ placedOn (.ofItems (Bytes.ofString code) root) t j ∧
          mutation (Bytes.ofString code) (placedOn (.ofItems (Bytes.ofString code) root) t j) (c.replacement t) = .ok e)
        (ambientCalls (.ofItems (Bytes.ofString code) root) t) mutations ∧
      s'.trace = (((boundCalls (.ofItems (Bytes.ofString code) root) t).map fun p =>
        inspection (Bytes.ofString code) t p.1 p.2) ++ mutations).foldl Trace.note s.trace := by
  have hsource : s.document.source = Bytes.ofString code := by rw [hs, Document.source_ofItems]
  obtain ⟨s₁, hs₁, h⟩ := Failure.bind_eq_ok_iff.1 h
  obtain ⟨-, rfl⟩ := Prod.mk.inj (Except.ok.inj h)
  have hinspected := s.document_noteAll
    ((boundCalls s.document t).map fun p => inspection s.document.source t p.1 p.2)
  obtain ⟨mutations, hmutations, htrace⟩ := foldlM_replaceIn_trace (keys_byIndex _ ▸ nodup_eraseDups _)
    (fun g _ st hst => by
      rw [hinspected, hs] at hst
      exact Document.fresh_ofItems _ _ st (List.mem_of_getElem? hst)) hs₁
  rw [hinspected, hsource, hs, flatMap_byIndex (sorted_placed hroot hproper), map_snd_placed hroot,
    List.forall₂_map_left_iff] at hmutations
  rw [hsource, hs] at htrace
  refine ⟨mutations, hmutations.imp fun c e hce => ?_, ?_⟩
  · obtain ⟨g, hg, hmem, hmutation⟩ := hce
    rw [mem_byIndex hg] at hmem hmutation
    exact ⟨g.1, hmem, hmutation⟩
  · show s₁.trace = _
    rw [htrace, List.foldl_append, trace_noteAll]

end Session

/-! ## The trace of a run -/

theorem Session.trace_ensure {r : Request} {s s' : Session} {changed : Bool} (h : s.ensure r = .ok (changed, s')) :
    ∃ action, s'.trace = s.trace.note (.importAction action r.origin r.name) := by
  have hinserted : ∃ action, (s.insertImport r).trace = s.trace.note (.importAction action r.origin r.name) := by
    unfold insertImport
    split
    · exact ⟨_, rfl⟩
    · dsimp only
      split <;> exact ⟨_, rfl⟩
  rw [ensure_eq] at h
  split at h
  · obtain ⟨-, rfl⟩ := Prod.mk.inj (Except.ok.inj h)
    exact hinserted
  · split at h
    · obtain ⟨-, rfl⟩ := Prod.mk.inj (Except.ok.inj h)
      exact hinserted
    · split at h
      · obtain ⟨-, rfl⟩ := Prod.mk.inj (Except.ok.inj h)
        exact ⟨_, rfl⟩
      · obtain ⟨-, rfl⟩ := Prod.mk.inj (Except.ok.inj h)
        exact ⟨_, rfl⟩
  · cases h

namespace Settings
variable {s : Settings}

/-- After the calls are redirected their phase is closed, and the phase of the import is opened and closed if there is
one. -/
theorem trace_process {d : Document} {p : Processed} (h : s.process d = .ok p) :
    ∃ n done, (s.opened d).redirect s.target = .ok (n, done) ∧
      (p.session.trace = done.trace.finish ∨ ∃ action, p.session.trace =
        ((done.trace.finish.start "Ensure Import" s.origin).note (.importAction action s.origin s.function)).finish) := by
  obtain ⟨n, done, hredirect, hcases⟩ := process_cases h
  refine ⟨n, done, hredirect, ?_⟩
  rcases hcases with ⟨-, rfl⟩ | ⟨-, changed, final, hensure, rfl⟩
  · exact .inl rfl
  · obtain ⟨action, htrace⟩ := Session.trace_ensure hensure
    exact .inr ⟨action, congrArg Trace.finish htrace⟩

/-- The entries up to the point where calls are redirected. -/
def openingEntries (s : Settings) : List Trace.Entry :=
  [⟨.phaseStart "Codemod Pipeline" (s.object ++ "." ++ s.severity ++ " -> " ++ s.callee), none⟩,
    ⟨.phaseStart "Parse" ("dialect=" ++ s.dialect.name), some 0⟩, ⟨.phaseEnd, some 1⟩,
    ⟨.phaseStart "Rewrite Call Sites" "Scope-aware call matching", some 0⟩]

theorem trace_opened (s : Settings) (d : Document) : (s.opened d).trace = ⟨s.openingEntries, [3, 0]⟩ := rfl

theorem wellNested_opened (s : Settings) (d : Document) : (s.opened d).trace.WellNested := by
  have hempty : Trace.WellNested {} := rfl
  exact (((hempty.start _ _).start _ _).finish).start _ _

/-- The phases of a run are nested and closed, one of them is about the calls, and it holds the events given. -/
structure Traced (t : Trace) (phase : Nat) (events : List Event) : Prop where
  nested : Trace.replay 0 [] t.entries = some []
  phases_eq : t.phases "Rewrite Call Sites" = [phase]
  eventsUnder_eq : t.eventsUnder phase = events ++ [.phaseEnd]

section
variable {events : List Event} {rest : List Trace.Entry}

/-- The entries of a run: `rest` comes behind the phase of the calls. -/
def allEntries (s : Settings) (events : List Event) (rest : List Trace.Entry) : List Trace.Entry :=
  s.openingEntries ++ (events ++ [Event.phaseEnd]).map (⟨·, some 3⟩) ++ rest

theorem phases_allEntries (hevents : ∀ e ∈ events, e.isBracket = false)
    (hrest : ∀ e ∈ rest, e.event.opens "Rewrite Call Sites" = false) (opened : List Nat) :
    Trace.phases ⟨s.allEntries events rest, opened⟩ "Rewrite Call Sites" = [3] := by
  have hnone {es : List Trace.Entry} (hes : ∀ e ∈ es, e.event.opens "Rewrite Call Sites" = false) (n : Nat) :
      ((es.zipIdx n).filter fun p => p.1.event.opens "Rewrite Call Sites") = [] := by
    rw [List.filter_eq_nil_iff]
    intro p hp
    rw [hes p.1 (List.fst_mem_of_mem_zipIdx hp)]
    exact Bool.false_ne_true
  have hinner : ∀ e ∈ (events ++ [Event.phaseEnd]).map (Trace.Entry.mk · (some 3)),
      e.event.opens "Rewrite Call Sites" = false := by
    intro e he
    obtain ⟨e', he', rfl⟩ := List.mem_map.1 he
    rcases List.mem_append.1 he' with he' | he'
    · exact Event.opens_of_not (hevents e' he') _
    · rw [List.mem_singleton.1 he']
      rfl
  rw [Trace.phases, allEntries, List.zipIdx_append, List.zipIdx_append, List.filter_append, List.filter_append,
    hnone hinner, hnone hrest, List.append_nil, List.append_nil]
  rfl

theorem eventsUnder_allEntries (hrest : ∀ e ∈ rest, e.parent ≠ some 3) (opened : List Nat) :
    Trace.eventsUnder ⟨s.allEntries events rest, opened⟩ 3 = events ++ [.phaseEnd] := by
  have hopening : (s.openingEntries.filter fun e => e.parent == some 3) = [] := rfl
  have hinner : (((events ++ [Event.phaseEnd]).map (Trace.Entry.mk · (some 3))).filter fun e => e.parent == some 3) =
      (events ++ [Event.phaseEnd]).map (Trace.Entry.mk · (some 3)) := by
    rw [List.filter_eq_self]
    intro e he
    obtain ⟨e', -, rfl⟩ := List.mem_map.1 he
    rfl
  have hnone : (rest.filter fun e => e.parent == some 3) = [] := by
    rw [List.filter_eq_nil_iff]
    intro e he
    simpa using hrest e he
  rw [Trace.eventsUnder, allEntries, List.filter_append, List.filter_append, hopening, hinner, hnone, List.nil_append,
    List.append_nil, List.map_map]
  exact List.map_id _

theorem traced_allEntries (rest : List Trace.Entry) {t : Trace} (hnested : t.WellNested)
    (ht : t = ⟨s.allEntries events rest, []⟩) (hevents : ∀ e ∈ events, e.isBracket = false)
    (hrest : ∀ e ∈ rest, e.event.opens "Rewrite Call Sites" = false ∧ e.parent ≠ some 3) : Traced t 3 events := by
  subst ht
  exact ⟨hnested, phases_allEntries hevents (fun e he => (hrest e he).1) _,
    eventsUnder_allEntries (fun e he => (hrest e he).2) _⟩

/-- The trace of a run in which redirecting records the events given. -/
theorem traced_process {d : Document} {p : Processed} (hp : s.process d = .ok p)
    (hevents : ∀ e ∈ events, e.isBracket = false)
    (hredirect : ∀ n done, (s.opened d).redirect s.target = .ok (n, done) →
      done.trace = events.foldl Trace.note (s.opened d).trace) : Traced p.session.trace.finish 3 events := by
  obtain ⟨n, done, hdone, htrace⟩ := trace_process hp
  have hnested := (wellNested_opened s d).foldl_note hevents
  have hdone := hredirect n done hdone
  rw [← hdone] at hnested
  rw [Trace.foldl_note, trace_opened] at hdone
  have hfinish : done.trace.finish = ⟨s.allEntries events [], [0]⟩ := by
    rw [hdone, allEntries, List.map_append, List.append_nil, ← List.append_assoc]
    rfl
  rcases htrace with htrace | ⟨action, htrace⟩
  · rw [htrace]
    refine @traced_allEntries s events [⟨.phaseEnd, some 0⟩] _ hnested.finish.finish ?_ hevents ?_
    · rw [hfinish, Trace.finish]
      simp [allEntries]
    · simp [Event.opens]
  · rw [htrace]
    have hnested := ((hnested.finish.start "Ensure Import" s.origin).note
      (e := .importAction action s.origin s.function) rfl).finish.finish
    have hlength : (s.allEntries events []).length ≠ 3 := by
      simp [allEntries, openingEntries]
    refine @traced_allEntries s events [⟨.phaseStart "Ensure Import" s.origin, some 0⟩,
      ⟨.importAction action s.origin s.function, some (s.allEntries events []).length⟩,
      ⟨.phaseEnd, some (s.allEntries events []).length⟩, ⟨.phaseEnd, some 0⟩] _ hnested ?_ hevents ?_
    · rw [hfinish]
      simp [Trace.start, Trace.note, Trace.finish, allEntries]
    · simp [Event.opens, hlength]

end

end Settings
end CallRedirect
