import CallRedirect.Proofs.Printing
import CallRedirect.Proofs.Recording
import CallRedirect.Run

/-! # What a run comes to

A run that succeeds redirects the calls that have a place in the document, and ends in one of two ways: if there are none
the file comes back as it is, and else the function is imported and the document is printed.

* `Settings.process_cases`: the two ways, for a document.
* `Settings.run_outcome`: the two ways, for a file.
* `Settings.run_eq_unchanged`: when the file comes back as it is. -/

namespace CallRedirect
set_option autoImplicit false

namespace Session

theorem count_redirect {t : Target} {s s' : Session} {n : Nat} (h : s.redirect t = .ok (n, s')) :
    n = (placed s.document t).length := by
  obtain ⟨replaced, -, h⟩ := Failure.bind_eq_ok_iff.1 h
  exact (Prod.mk.inj (Except.ok.inj h)).1.symm

theorem redirect_eq_zero {t : Target} {s : Session} (h : placed s.document t = []) :
    ∃ done, s.redirect t = .ok (0, done) := by
  rw [redirect, h]
  exact ⟨_, rfl⟩

end Session

namespace Settings

/-- What processing a document comes to: there is nothing to redirect, or the function is imported as well. -/
theorem process_cases {s : Settings} {d : Document} {p : Processed} (h : s.process d = .ok p) :
    ∃ n done, (s.opened d).redirect s.target = .ok (n, done) ∧
      (n = 0 ∧ p = ⟨done.finishPhase, 0, false⟩ ∨
        0 < n ∧ ∃ changed final, (done.finishPhase.startPhase "Ensure Import" s.origin).ensure s.request =
          .ok (changed, final) ∧ p = ⟨final.finishPhase, n, changed⟩) := by
  unfold process at h
  dsimp only at h
  split at h
  · cases h
  · next n done hredirect =>
    refine ⟨n, done, hredirect, ?_⟩
    split at h
    · next hzero => exact .inl ⟨hzero, (Except.ok.inj h).symm⟩
    · next hne =>
      unfold importFunction at h
      dsimp only at h
      split at h
      · cases h
      · next changed final hensure =>
        exact .inr ⟨Nat.pos_of_ne_zero hne, changed, final, hensure, (Except.ok.inj h).symm⟩

theorem redirected_process {s : Settings} {d : Document} {p : Processed} (h : s.process d = .ok p) :
    p.redirected = (Session.placed d s.target).length := by
  obtain ⟨n, done, hredirect, hcases⟩ := process_cases h
  have hcount := Session.count_redirect hredirect
  rcases hcases with ⟨hzero, rfl⟩ | ⟨-, changed, final, -, rfl⟩
  · exact hzero ▸ hcount
  · exact hcount

theorem run_eq (s : Settings) (file : SourceText) :
    s.run file =
      match Document.ofTree s.dialect (Bytes.ofString file.code) file.root with
      | .error e => ⟨[], .error e⟩
      | .ok d =>
        match s.process d with
        | .error i => ⟨i.notices, .error i.failure⟩
        | .ok p => s.conclude file p :=
  rfl

/-- What is known of a run that succeeds: nothing was changed, or the processed document was printed, and the phase of the
whole run was closed. -/
theorem run_outcome {s : Settings} {file : SourceText} {o : Outcome} (h : (s.run file).result = .ok o) :
    ∃ p, file.root.firstFaulty? = none ∧ s.process (.ofItems (Bytes.ofString file.code) file.root) = .ok p ∧
      o.trace = p.session.trace.finish ∧ o.redirected = p.redirected ∧
      (p.redirected = 0 ∧ o.code = file.code ∧ o.importChanged = false ∨
        0 < p.redirected ∧ p.session.document.render = .ok o.code ∧ o.importChanged = p.importChanged) := by
  rw [run_eq] at h
  cases hfault : file.root.firstFaulty? with
  | some n =>
    rw [Document.ofTree_eq_error hfault] at h
    cases h
  | none =>
    rw [Document.ofTree_eq_ok hfault] at h
    dsimp only at h
    split at h
    · cases h
    · next p hp =>
      unfold conclude at h
      dsimp only at h
      split at h
      · next hzero =>
        obtain rfl := Except.ok.inj h
        exact ⟨p, rfl, hp, rfl, hzero.symm, .inl ⟨hzero, rfl, rfl⟩⟩
      · next hne =>
        cases hrender : p.session.document.render with
        | error e =>
          rw [hrender] at h
          cases h
        | ok code =>
          rw [hrender] at h
          obtain rfl := Except.ok.inj h
          exact ⟨p, rfl, hp, rfl, rfl, .inr ⟨Nat.pos_of_ne_zero hne, hrender, rfl⟩⟩

theorem run_cases {s : Settings} {file : SourceText} {o : Outcome} (h : (s.run file).result = .ok o) :
    ∃ p, file.root.firstFaulty? = none ∧ s.process (.ofItems (Bytes.ofString file.code) file.root) = .ok p ∧
      o.redirected = p.redirected ∧
      (p.redirected = 0 ∧ o.code = file.code ∧ o.importChanged = false ∨
        0 < p.redirected ∧ p.session.document.render = .ok o.code ∧ o.importChanged = p.importChanged) := by
  obtain ⟨p, hfault, hp, -, hrest⟩ := run_outcome h
  exact ⟨p, hfault, hp, hrest⟩

/-- A file without calls to redirect comes back as it is. -/
theorem run_eq_unchanged {s : Settings} {file : SourceText} (hfault : file.root.firstFaulty? = none)
    (hplaced : Session.placed (.ofItems (Bytes.ofString file.code) file.root) s.target = []) :
    ∃ o, (s.run file).result = .ok o ∧ o.code = file.code ∧ o.redirected = 0 ∧ o.changed = false := by
  obtain ⟨done, hredirect⟩ :=
    Session.redirect_eq_zero (s := s.opened (.ofItems (Bytes.ofString file.code) file.root)) hplaced
  rw [run_eq, Document.ofTree_eq_ok hfault]
  unfold process conclude
  dsimp only
  rw [hredirect]
  exact ⟨_, rfl, rfl, rfl, rfl⟩

end Settings
end CallRedirect
