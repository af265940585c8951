import CallRedirect.Document.Attachment
import CallRedirect.Document.Layout
import CallRedirect.Session.Ensure
import CallRedirect.Session.Redirect
import CallRedirect.Settings.Basic

/-! # Runs

A run takes one file through all steps: its tree is read as a document, the calls of the target are redirected, the
function is imported if some call was, and the document is printed. A file without such calls comes back as it is.

* `Settings.process`: what is done to the document.
* `Settings.runFlagged`, `Settings.run`: the whole run.
* `RunReport.under`: the run under a handler of notices.
-/

namespace CallRedirect
set_option autoImplicit false

/-- A file to be processed: its text, the tree of the text, and a name for notices. -/
structure SourceText where
  code : String
  root : Node
  path : Option String := none

/-- What a run makes of a file. -/
structure Outcome where
  code : String
  /-- The number of calls that were redirected. -/
  redirected : Nat := 0
  importChanged : Bool := false
  trace : Trace

namespace Outcome

/-- There was something to do. -/
def actionable (o : Outcome) : Bool := 0 < o.redirected

def changed (o : Outcome) : Bool := 0 < o.redirected || o.importChanged

end Outcome

/-- The result of a run, and the notices given on the way to it. -/
structure RunReport where
  notices : List Notice
  result : Except Failure Outcome

/-- The result of a run whose notices go to a handler. -/
def RunReport.under {ε : Type} (report : RunReport) (handler : Handler ε) : Except (Stop Failure ε) Outcome :=
  handler.result report.notices report.result

/-- A document after all changes, and what was changed. -/
structure Processed where
  session : Session
  redirected : Nat
  importChanged : Bool

/-- A failure, and the notices given before it. -/
structure Interruption where
  notices : List Notice
  failure : Failure

namespace Settings

/-! ## The document -/

/-- The trace up to the point where the tree is read. -/
def openingTrace (s : Settings) : Trace :=
  (({} : Trace).start "Codemod Pipeline" (s.object ++ "." ++ s.severity ++ " -> " ++ s.callee)).start
    "Parse" ("dialect=" ++ s.dialect.name)

/-- The session in which the calls are redirected. -/
def opened (s : Settings) (d : Document) : Session :=
  { document := d, trace := s.openingTrace.finish.start "Rewrite Call Sites" "Scope-aware call matching" }

/-- Imports the function after some calls were redirected. -/
def importFunction (s : Settings) (count : Nat) (session : Session) : Except Interruption Processed :=
  let ready := session.startPhase "Ensure Import" s.origin
  match ready.ensure s.request with
  | .error e => .error ⟨ready.notices, e⟩
  | .ok (changed, done) => .ok ⟨done.finishPhase, count, changed⟩

/-- Redirects the calls of a document, and imports the function if there were any. -/
def process (s : Settings) (d : Document) : Except Interruption Processed :=
  let opened := s.opened d
  match opened.redirect s.target with
  | .error e => .error ⟨opened.notices, e⟩
  | .ok (count, done) =>
    if count = 0 then .ok ⟨done.finishPhase, 0, false⟩
    else s.importFunction count done.finishPhase

/-! ## The file -/

/-- The summary that a run gives of a changed file. -/
def summary (s : Settings) (path : Option String) (p : Processed) : List Notice :=
  .callsRedirected path p.redirected s.callee ::
    if p.importChanged then [.importAdded path s.function s.origin] else []

/-- Prints the document, unless nothing was changed. -/
def conclude (s : Settings) (file : SourceText) (p : Processed) : RunReport :=
  let trace := p.session.finishPhase.trace
  if p.redirected = 0 then ⟨p.session.notices, .ok { code := file.code, trace := trace }⟩
  else
    { notices := p.session.notices ++ s.summary file.path p
      result := p.session.document.render.map fun code => ⟨code, p.redirected, p.importChanged, trace⟩ }

/-- Runs on a file and the flag that the parser has set for its tree. -/
def runFlagged (s : Settings) (file : SourceText) (hasError : Bool) : RunReport :=
  match Document.ofFlagged s.dialect (Bytes.ofString file.code) file.root hasError with
  | .error e => ⟨[], .error e⟩
  | .ok d =>
    match s.process d with
    | .error i => ⟨i.notices, .error i.failure⟩
    | .ok p => s.conclude file p

/-- Runs on a file, of which the tree is flagged as its nodes demand it. -/
def run (s : Settings) (file : SourceText) : RunReport := s.runFlagged file file.root.hasFaulty

end Settings
end CallRedirect
