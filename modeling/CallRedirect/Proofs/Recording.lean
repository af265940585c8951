import CallRedirect.Session.Redirect
import Mathlib.Data.List.Basic

/-! # Recording replacements

`Session.redirect` records the replacements of the calls on the statements that hold them, one statement after the
other. Only the record of each statement changes, and every statement gets all that belongs to it.

* `Document.recorded`: the document with given replacements on its statements.
* `Session.foldlM_replaceIn`: what recording on several statements leaves.
* `Session.redirect_eq`: what redirecting leaves of a document without replacements. -/

namespace CallRedirect
set_option autoImplicit false

namespace Document

/-- The document with every statement changed, by its index. -/
def mapStatements (f : Nat → Statement → Statement) (d : Document) : Document :=
  { d with statements := d.statements.mapIdx f }

theorem mapStatements_congr {f g : Nat → Statement → Statement} {d : Document}
    (h : ∀ i st, d.statements[i]? = some st → f i st = g i st) : d.mapStatements f = d.mapStatements g := by
  have hstatements : d.statements.mapIdx f = d.statements.mapIdx g := by
    apply List.ext_getElem?
    intro i
    rw [List.getElem?_mapIdx, List.getElem?_mapIdx]
    exact Option.map_congr fun st hst => h i st hst
  rw [mapStatements, mapStatements, hstatements]

theorem mapStatements_id (d : Document) : d.mapStatements (fun _ st => st) = d := by
  simp [mapStatements, List.mapIdx_eq_zipIdx_map]

theorem modify_eq_mapStatements (d : Document) (i : Nat) (f : Statement → Statement) :
    d.modify i f = d.mapStatements fun k st => if k = i then f st else st := by
  have hstatements : d.statements.modify i f = d.statements.mapIdx fun k st => if k = i then f st else st := by
    apply List.ext_getElem?
    intro k
    rw [List.getElem?_modify, List.getElem?_mapIdx]
    simp [eq_comm]
  rw [modify, mapStatements, hstatements]

theorem forms_modify (d : Document) (i : Nat) {f : Statement → Statement} (hf : ∀ st, (f st).form = st.form) :
    (d.modify i f).statements.map Statement.form = d.statements.map Statement.form := by
  apply List.ext_getElem?
  intro k
  rw [modify, List.getElem?_map, List.getElem?_map, List.getElem?_modify]
  cases d.statements[k]? with
  | none => rfl
  | some st => by_cases hik : i = k <;> simp [hik, hf]

theorem mapStatements_mapStatements (f g : Nat → Statement → Statement) (d : Document) :
    (d.mapStatements f).mapStatements g = d.mapStatements fun i st => g i (f i st) := by
  simp [mapStatements, List.mapIdx_mapIdx, Function.comp_def]

/-- The document with the replacements of each statement, by its index. -/
def recorded (d : Document) (on : Nat → List Replacement) : Document :=
  d.mapStatements fun i st => { st with replacements := on i }

end Document

/-! ## Steps that may fail -/

theorem Failure.bind_eq_ok_iff {α β : Type} {x : Except Failure α} {f : α → Except Failure β} {b : β} :
    x >>= f = .ok b ↔ ∃ a, x = .ok a ∧ f a = .ok b := by
  cases x with
  | error e => simp [bind, Except.bind]
  | ok a => simp [bind, Except.bind]

theorem Failure.mapM_eq_ok {α β : Type} {f : α → Except Failure β} {l : List α} (h : ∀ a ∈ l, ∃ b, f a = .ok b) :
    ∃ bs, l.mapM f = .ok bs := by
  induction l with
  | nil => exact ⟨[], rfl⟩
  | cons a l ih =>
    obtain ⟨b, hb⟩ := h a List.mem_cons_self
    obtain ⟨bs, hbs⟩ := ih fun a' ha' => h a' (List.mem_cons_of_mem a ha')
    refine ⟨b :: bs, ?_⟩
    rw [List.mapM_cons, hb, hbs]
    rfl

namespace Session

theorem document_noteAll (s : Session) (es : List Event) : (s.noteAll es).document = s.document := by
  induction es generalizing s with
  | nil => rfl
  | cons e es ih => exact ih (s.note e)

/-! ## One statement -/

/-- All changes of calls can be written down, if these replacements are recorded together. -/
def Writable (src : Bytes) (rs : List Replacement) : Prop := ∀ r ∈ rs, ∃ e, mutation src rs r = .ok e

theorem replaceIn_eq {s : Session} {g : Nat × List Replacement}
    (hfresh : ∀ st, s.document.statements[g.1]? = some st → st.replacements = [])
    (hwritable : Writable s.document.source g.2) :
    ∃ s', s.replaceIn g = .ok s' ∧
      s'.document = s.document.modify g.1 fun st => { st with replacements := g.2 } := by
  have hpresent : ((s.document.statements[g.1]?).map Statement.replacements).getD [] = [] := by
    cases h : s.document.statements[g.1]? with
    | none => rfl
    | some st => exact hfresh st h
  obtain ⟨events, hevents⟩ := Failure.mapM_eq_ok hwritable
  refine ⟨{ s.noteAll events with document := _ }, ?_, rfl⟩
  rw [replaceIn, hpresent, List.nil_append, hevents]
  rfl

/-! ## One statement after the other -/

theorem foldlM_replaceIn {s : Session} (gs : List (Nat × List Replacement)) (on : Nat → List Replacement)
    (hkeys : (gs.map Prod.fst).Nodup) (hon : ∀ g ∈ gs, g.2 = on g.1)
    (hfresh : ∀ g ∈ gs, ∀ st, s.document.statements[g.1]? = some st → st.replacements = [])
    (hwritable : ∀ g ∈ gs, Writable s.document.source g.2) :
    ∃ s', gs.foldlM replaceIn s = .ok s' ∧ s'.document =
      s.document.mapStatements fun i st => if i ∈ gs.map Prod.fst then { st with replacements := on i } else st := by
  induction gs generalizing s with
  | nil =>
    refine ⟨s, rfl, ?_⟩
    simp [s.document.mapStatements_id]
  | cons g gs ih =>
    obtain ⟨hg, hkeys⟩ := List.nodup_cons.1 hkeys
    obtain ⟨s₁, hs₁, hdocument⟩ := replaceIn_eq (hfresh g List.mem_cons_self) (hwritable g List.mem_cons_self)
    -- the statements of the rest are other ones, so they are still as they were
    have hrest : ∀ g' ∈ gs, s₁.document.statements[g'.1]? = s.document.statements[g'.1]? := by
      intro g' hg'
      have hne : g.1 ≠ g'.1 := fun heq => hg (heq ▸ List.mem_map_of_mem hg')
      rw [hdocument]
      exact List.getElem?_modify_ne _ _ hne
    have hsource : s₁.document.source = s.document.source := by rw [hdocument, Document.modify]
    obtain ⟨s₂, hs₂, hdocument₂⟩ := @ih s₁ hkeys (fun g' hg' => hon g' (List.mem_cons_of_mem g hg'))
      (fun g' hg' st hst => hfresh g' (List.mem_cons_of_mem g hg') st (hrest g' hg' ▸ hst))
      (fun g' hg' => hsource ▸ hwritable g' (List.mem_cons_of_mem g hg'))
    refine ⟨s₂, ?_, ?_⟩
    · rw [List.foldlM_cons, hs₁]
      exact hs₂
    · rw [hdocument₂, hdocument, Document.modify_eq_mapStatements, Document.mapStatements_mapStatements]
      apply Document.mapStatements_congr
      intro i st _
      rcases eq_or_ne i g.1 with rfl | hi
      · simp [hg, hon g List.mem_cons_self]
      · have hmem : i ∈ (g :: gs).map Prod.fst ↔ i ∈ gs.map Prod.fst := by
          rw [List.map_cons, List.mem_cons, or_iff_right hi]
        rw [if_neg hi]
        exact (if_congr hmem rfl rfl).symm

/-! ## All statements -/

/-- The replacements that belong to the statement at an index. -/
def placedOn (d : Document) (t : Target) (i : Nat) : List Replacement :=
  ((placed d t).filter fun p => p.1 == i).map Prod.snd

theorem mem_byIndex {found : List (Nat × Replacement)} {g : Nat × List Replacement} (hg : g ∈ byIndex found) :
    g.2 = (found.filter fun p => p.1 == g.1).map Prod.snd := by
  obtain ⟨i, -, rfl⟩ := List.mem_map.1 hg
  rfl

theorem keys_byIndex (found : List (Nat × Replacement)) :
    (byIndex found).map Prod.fst = (found.map Prod.fst).eraseDups := by
  rw [byIndex, List.map_map]
  exact List.map_id _

theorem nodup_eraseDups {α : Type} [DecidableEq α] (l : List α) : l.eraseDups.Nodup := by
  induction h : l.length using Nat.strongRecOn generalizing l with
  | ind n ih =>
    cases l with
    | nil => simp
    | cons a l =>
      have hlt : (l.filter fun b => !b == a).length < n := by
        have := List.length_filter_le (fun b => !b == a) l
        simp only [List.length_cons] at h
        omega
      rw [List.eraseDups_cons, List.nodup_cons]
      exact ⟨by simp, ih _ hlt _ rfl⟩

theorem placedOn_eq_nil {d : Document} {t : Target} {i : Nat} (h : i ∉ (byIndex (placed d t)).map Prod.fst) :
    placedOn d t i = [] := by
  rw [keys_byIndex, List.mem_eraseDups] at h
  rw [placedOn, List.map_eq_nil_iff, List.filter_eq_nil_iff]
  intro p hp heq
  exact h (beq_iff_eq.1 heq ▸ List.mem_map_of_mem hp)

theorem redirect_eq {t : Target} {s : Session} (hfresh : ∀ st ∈ s.document.statements, st.replacements = [])
    (hwritable : ∀ i, Writable s.document.source (placedOn s.document t i)) :
    ∃ s', s.redirect t = .ok ((placed s.document t).length, s') ∧
      s'.document = s.document.recorded (placedOn s.document t) := by
  have hredirect : s.redirect t =
      (byIndex (placed s.document t)).foldlM replaceIn
        (s.noteAll ((boundCalls s.document t).map fun p => inspection s.document.source t p.1 p.2)) >>= fun replaced =>
          .ok ((placed s.document t).length, replaced.tell (.redirected (placed s.document t).length)) := rfl
  have hinspected := s.document_noteAll
    ((boundCalls s.document t).map fun p => inspection s.document.source t p.1 p.2)
  generalize s.noteAll ((boundCalls s.document t).map fun p => inspection s.document.source t p.1 p.2) = s₀
    at hredirect hinspected
  have hon : ∀ g ∈ byIndex (placed s.document t), g.2 = placedOn s.document t g.1 := fun g hg => mem_byIndex hg
  obtain ⟨s', hs', hdocument⟩ := foldlM_replaceIn (s := s₀) (byIndex (placed s.document t)) (placedOn s.document t)
    (keys_byIndex _ ▸ nodup_eraseDups _) hon
    (fun g _ st hst => hfresh st (List.mem_of_getElem? (hinspected ▸ hst)))
    (fun g hg => by rw [hinspected, hon g hg]; exact hwritable g.1)
  refine ⟨s'.tell (.redirected (placed s.document t).length), ?_, ?_⟩
  · rw [hredirect, hs']
    rfl
  · show s'.document = _
    rw [hdocument, hinspected, Document.recorded]
    apply Document.mapStatements_congr
    intro i st hst
    by_cases hi : i ∈ (byIndex (placed s.document t)).map Prod.fst
    · rw [if_pos hi]
    · rw [if_neg hi, placedOn_eq_nil hi, ← hfresh st (List.mem_of_getElem? hst)]

/-! ## What a document with replacements gets -/

theorem replaceIn_eq_ok {s s' : Session} {g : Nat × List Replacement} (h : s.replaceIn g = .ok s') :
    s'.document = s.document.mapStatements fun i st =>
      if i = g.1 then { st with replacements := st.replacements ++ g.2 } else st := by
  obtain ⟨events, -, h⟩ := Failure.bind_eq_ok_iff.1 h
  obtain rfl := Except.ok.inj h
  show s.document.modify g.1 _ = _
  rw [Document.modify_eq_mapStatements]
  apply Document.mapStatements_congr
  intro i st hst
  by_cases hi : i = g.1
  · rw [if_pos hi, if_pos hi, ← hi, hst, Option.map_some, Option.getD_some]
  · rw [if_neg hi, if_neg hi]

theorem foldlM_replaceIn_eq_ok {s s' : Session} {gs : List (Nat × List Replacement)} (on : Nat → List Replacement)
    (hkeys : (gs.map Prod.fst).Nodup) (hon : ∀ g ∈ gs, g.2 = on g.1) (h : gs.foldlM replaceIn s = .ok s') :
    s'.document = s.document.mapStatements fun i st =>
      if i ∈ gs.map Prod.fst then { st with replacements := st.replacements ++ on i } else st := by
  induction gs generalizing s with
  | nil =>
    obtain rfl := Except.ok.inj h
    simp [s.document.mapStatements_id]
  | cons g gs ih =>
    obtain ⟨hg, hkeys⟩ := List.nodup_cons.1 hkeys
    rw [List.foldlM_cons] at h
    obtain ⟨s₁, hs₁, h⟩ := Failure.bind_eq_ok_iff.1 h
    rw [ih hkeys (fun g' hg' => hon g' (List.mem_cons_of_mem g hg')) h, replaceIn_eq_ok hs₁,
      Document.mapStatements_mapStatements]
    apply Document.mapStatements_congr
    intro i st _
    by_cases hi : i = g.1
    · subst hi
      simp [hg, hon g List.mem_cons_self]
    · have hmem : i ∈ (g :: gs).map Prod.fst ↔ i ∈ gs.map Prod.fst := by
        rw [List.map_cons, List.mem_cons, or_iff_right hi]
      rw [if_neg hi]
      exact (if_congr hmem rfl rfl).symm

/-- Each statement gets the replacements that belong to it, after those it has. -/
theorem redirect_eq_ok {t : Target} {s s' : Session} {n : Nat} (h : s.redirect t = .ok (n, s')) :
    n = (placed s.document t).length ∧ s'.document = s.document.mapStatements fun i st =>
      { st with replacements := st.replacements ++ placedOn s.document t i } := by
  obtain ⟨s₁, hs₁, h⟩ := Failure.bind_eq_ok_iff.1 h
  obtain ⟨rfl, rfl⟩ := Prod.mk.inj (Except.ok.inj h)
  have hdocument := foldlM_replaceIn_eq_ok (placedOn s.document t) (keys_byIndex _ ▸ nodup_eraseDups _)
    (fun g hg => mem_byIndex hg) hs₁
  rw [document_noteAll] at hdocument
  refine ⟨rfl, hdocument.trans (Document.mapStatements_congr fun i st _ => ?_)⟩
  by_cases hi : i ∈ (byIndex (placed s.document t)).map Prod.fst
  · rw [if_pos hi]
  · rw [if_neg hi, placedOn_eq_nil hi, List.append_nil]

/-! ## What redirecting leaves alone -/

theorem forms_replaceIn {s s' : Session} {g : Nat × List Replacement} (h : s.replaceIn g = .ok s') :
    s'.document.statements.map Statement.form = s.document.statements.map Statement.form := by
  obtain ⟨events, -, h⟩ := Failure.bind_eq_ok_iff.1 h
  obtain rfl := Except.ok.inj h
  exact s.document.forms_modify g.1 fun _ => rfl

theorem forms_foldlM_replaceIn {s s' : Session} {gs : List (Nat × List Replacement)}
    (h : gs.foldlM replaceIn s = .ok s') :
    s'.document.statements.map Statement.form = s.document.statements.map Statement.form := by
  induction gs generalizing s with
  | nil =>
    obtain rfl := Except.ok.inj h
    rfl
  | cons g gs ih =>
    rw [List.foldlM_cons] at h
    obtain ⟨s₁, hs₁, h⟩ := Failure.bind_eq_ok_iff.1 h
    rw [ih h, forms_replaceIn hs₁]

/-- Redirecting changes no statement to another. -/
theorem forms_redirect {t : Target} {s s' : Session} {n : Nat} (h : s.redirect t = .ok (n, s')) :
    s'.document.statements.map Statement.form = s.document.statements.map Statement.form := by
  obtain ⟨s₁, hs₁, h⟩ := Failure.bind_eq_ok_iff.1 h
  obtain ⟨rfl, rfl⟩ := Prod.mk.inj (Except.ok.inj h)
  have hforms := forms_foldlM_replaceIn hs₁
  rwa [document_noteAll] at hforms

end Session
end CallRedirect
