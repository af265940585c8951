import CallRedirect.Proofs.Escaping
import CallRedirect.Reporter

/-! # Work under a handler

Work that gives notices ends at the first one that its handler refuses, and has its own result if all are taken. A reporter
with a console refuses a notice only if a text with an opening bracket went into its wording as it was.

* `Handler.result_cases`: the two ends of work under a handler.
* `Reporter.report_eq`: a run under a reporter is the run under its handler.
* `Reporter.handler_eq_none`: notices that a reporter takes. -/

namespace CallRedirect
set_option autoImplicit false

/-! ## Handlers -/

namespace Handler
variable {φ ε α : Type} {handler : Handler ε} {notices : List Notice}

theorem result_of_taken (h : ∀ n ∈ notices, handler n = none) (own : Except φ α) :
    handler.result notices own = own.mapError .failed := by
  rw [result, List.findSome?_eq_none_iff.2 h]

theorem result_of_refused {reason : ε} (h : notices.findSome? handler = some reason) (own : Except φ α) :
    handler.result notices own = .error (.refused reason) := by
  rw [result, h]

theorem result_cases (handler : Handler ε) (notices : List Notice) (own : Except φ α) :
    (∃ n ∈ notices, ∃ reason, handler n = some reason ∧ handler.result notices own = .error (.refused reason)) ∨
      (∀ n ∈ notices, handler n = none) ∧ handler.result notices own = own.mapError .failed := by
  cases h : notices.findSome? handler with
  | none =>
    have htaken := List.findSome?_eq_none_iff.1 h
    exact .inr ⟨htaken, result_of_taken htaken own⟩
  | some reason =>
    obtain ⟨n, hn, hreason⟩ := List.exists_of_findSome?_eq_some h
    exact .inl ⟨n, hn, reason, hreason, result_of_refused h own⟩

end Handler

/-! ## Reporters -/

namespace Reporter

/-- The fault that ends the printing is that of the first notice that is refused. -/
theorem fault_print (r : Reporter) (notices : List Notice) : (r.print notices).fault = notices.findSome? r.handler := by
  induction notices with
  | nil => rfl
  | cons n notices ih =>
    rw [print, List.filter_cons, List.findSome?_cons, handler]
    cases r.prints n with
    | false => exact ih
    | true =>
      rw [if_pos rfl, if_pos rfl, printAll]
      cases Text.paint n.message with
      | error fault => rfl
      | ok canvas => exact ih

theorem report_eq (r : Reporter) (run : RunReport) :
    (r.report run).2 = (run.under r.handler).map Outcome.code := by
  have hfault := r.fault_print run.notices
  unfold report
  split
  · next hprint =>
    rw [hprint] at hfault
    rw [RunReport.under, Handler.result_of_refused hfault.symm]
    rfl
  · next hprint hresult =>
    rw [hprint] at hfault
    rw [RunReport.under, Handler.result_of_taken (List.findSome?_eq_none_iff.1 hfault.symm), hresult]
    rfl
  · next hprint hresult =>
    rw [hprint] at hfault
    rw [RunReport.under, Handler.result_of_taken (List.findSome?_eq_none_iff.1 hfault.symm), hresult]
    rfl

theorem handler_eq_none (r : Reporter) {n : Notice} (h : ∀ s ∈ n.rawParts, '[' ∉ s.toList) : r.handler n = none := by
  obtain ⟨canvas, hpaint⟩ := n.paint_message h
  unfold handler
  rw [hpaint]
  exact ite_self none

theorem exists_handler_eq_some {r : Reporter} {n : Notice} (hprints : r.prints n = true)
    (h : ∃ fault, Text.paint n.message = .error fault) : ∃ fault, r.handler n = some fault := by
  obtain ⟨fault, hfault⟩ := h
  unfold handler
  rw [if_pos hprints, hfault]
  exact ⟨fault, rfl⟩

/-- A style that no tag opens is closed. -/
theorem exists_handler_eq_some_of_unopened {r : Reporter} {n : Notice} {a b : String} (hprints : r.prints n = true)
    (hmessage : n.message = a ++ ("[/x]" ++ b)) (ha : '[' ∉ a.toList ∧ a.toList.getLast? ≠ some '\\') :
    ∃ fault, r.handler n = some fault := by
  apply exists_handler_eq_some hprints
  rw [hmessage]
  exact @Text.paint_unopened a b ['x'] ha.1 ha.2 (by decide) (by decide)
    (Text.exists_styleNamed (by decide +kernel) (by decide) (by decide +kernel))

end Reporter
end CallRedirect
