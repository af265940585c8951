/-! # Traces

A trace records what a run did: phases that open and close, calls that changed, calls that were looked at and left
alone, and what became of an import. Every entry knows the phase that it happened in.

* `Trace.start`, `Trace.finish`: open a phase, close the innermost open one.
* `Trace.note`: an event inside the innermost open phase.
-/

namespace CallRedirect
set_option autoImplicit false

inductive Event where
  | phaseStart (name detail : String)
  | phaseEnd
  | mutation (target before after : String) (line : Option Int)
  | inspection (text outcome detail : String)
  | importAction (action origin name : String)
  deriving DecidableEq, Repr

namespace Event

/-- The kind of an event, as traces name it. -/
def kind : Event → String
  | phaseStart .. => "phase_start"
  | phaseEnd => "phase_end"
  | mutation .. => "ast_mutation"
  | inspection .. => "inspection"
  | importAction .. => "import_action"

def description : Event → String
  | phaseStart name _ => name
  | phaseEnd => "End Phase"
  | mutation target .. => "Transformed " ++ target
  | inspection text .. => "Inspecting '" ++ text ++ "'"
  | importAction action .. => "Import " ++ action

end Event

/-- An event and the index of the entry that opened the phase it belongs to. -/
structure Trace.Entry where
  event : Event
  parent : Option Nat
  deriving DecidableEq, Repr

structure Trace where
  entries : List Trace.Entry := []
  /-- The indices of the entries that opened the phases still open, innermost first. -/
  opened : List Nat := []
  deriving DecidableEq, Repr, Inhabited

namespace Trace

/-- Records an event in the innermost open phase. -/
def note (t : Trace) (e : Event) : Trace :=
  { t with entries := t.entries ++ [⟨e, t.opened.head?⟩] }

/-- Opens a phase inside the innermost open one. -/
def start (t : Trace) (name detail : String) : Trace :=
  { t.note (.phaseStart name detail) with opened := t.entries.length :: t.opened }

/-- Closes the innermost open phase, if there is one. -/
def finish (t : Trace) : Trace :=
  match t.opened with
  | [] => t
  | p :: outer => ⟨t.entries ++ [⟨.phaseEnd, some p⟩], outer⟩

/-- The events of one kind, in order. -/
def eventsOf (t : Trace) (kind : String) : List Event :=
  (t.entries.map Entry.event).filter fun e => e.kind == kind

end Trace
end CallRedirect
