import CallRedirect.Document.Basic
import CallRedirect.Notice
import CallRedirect.Trace

/-! # Sessions

A session is a document under work, with the trace of what was done to it and the notices given on the way.
-/

namespace CallRedirect
set_option autoImplicit false

structure Session where
  document : Document
  trace : Trace := {}
  notices : List Notice := []

namespace Session

/-- Records an event. -/
def note (s : Session) (e : Event) : Session := { s with trace := s.trace.note e }

/-- Records events in order. -/
def noteAll (s : Session) (es : List Event) : Session := es.foldl note s

/-- Gives a notice. -/
def tell (s : Session) (n : Notice) : Session := { s with notices := s.notices ++ [n] }

def startPhase (s : Session) (name detail : String) : Session := { s with trace := s.trace.start name detail }

def finishPhase (s : Session) : Session := { s with trace := s.trace.finish }

end Session
end CallRedirect
