import CallRedirect.CallSite
import CallRedirect.Session.Basic

/-! # Redirecting calls

`Session.redirect` puts a new callee into every call of the target whose object no declaration binds. A call of a bound
object is left alone, and the trace says so. The replacements are recorded on the statement that holds the call; a call in
a statement that no longer prints as it stands in the file is passed over.
-/

namespace CallRedirect
set_option autoImplicit false

namespace Session

/-- The decision to leave a call of a bound object alone. -/
def inspection (src : Bytes) (t : Target) (c : CallSite) (b : Binding) : Event :=
  .inspection (c.call.node.text src) "skipped"
    ("'" ++ t.object ++ "' is bound locally (" ++ b.kind.name ++ ", line " ++ (b.node.line src).repr ++ ")")

/-- The change of a call: its text before and after. -/
def mutation (src : Bytes) (replacements : List Replacement) (r : Replacement) : Except Failure Event := do
  let before ← Bytes.decode (src.slice r.start r.stop)
  match r.render src replacements with
  | none => .error .endless
  | some bytes =>
    let after ← bytes.decode
    return .mutation "Call" before after (some (src.line r.start))

/-- The call sites of the target whose object is bound, with what binds it. -/
def boundCalls (d : Document) (t : Target) : List (CallSite × Binding) :=
  let table := ScopeTable.ofTree d.source d.root
  (CallSite.all d.source t d.root).filterMap fun c => (c.binding? table t).map fun b => (c, b)

/-- The call sites of the target whose object is ambient. -/
def ambientCalls (d : Document) (t : Target) : List CallSite :=
  let table := ScopeTable.ofTree d.source d.root
  (CallSite.all d.source t d.root).filter fun c => (c.binding? table t).isNone

/-- The replacements of the ambient calls, each with the index of the statement it goes to. -/
def placed (d : Document) (t : Target) : List (Nat × Replacement) :=
  (ambientCalls d t).filterMap fun c =>
    (d.statementAt? c.call.top.start).map fun i => (i, c.replacement t)

/-- What belongs to each index, in the order in which the indices first occur. -/
def byIndex (found : List (Nat × Replacement)) : List (Nat × List Replacement) :=
  (found.map Prod.fst).eraseDups.map fun i => (i, (found.filter fun p => p.1 == i).map Prod.snd)

/-- Records replacements on a statement, after those it has. -/
def replaceIn (s : Session) (g : Nat × List Replacement) : Except Failure Session := do
  let present := ((s.document.statements[g.1]?).map Statement.replacements).getD []
  let events ← g.2.mapM (mutation s.document.source (present ++ g.2))
  return { s.noteAll events with
    document := s.document.modify g.1 fun st => { st with replacements := present ++ g.2 } }

/-- Redirects the calls of the target, and counts them. -/
def redirect (t : Target) (s : Session) : Except Failure (Nat × Session) := do
  let found := placed s.document t
  let inspected := s.noteAll ((boundCalls s.document t).map fun (c, b) => inspection s.document.source t c b)
  let replaced ← (byIndex found).foldlM replaceIn inspected
  return (found.length, replaced.tell (.redirected found.length))

end Session
end CallRedirect
