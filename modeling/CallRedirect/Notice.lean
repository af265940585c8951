import CallRedirect.Text.Markup

/-! # Notices

What the library tells its user while it works, each with its level and its wording. Notices go to a handler, and one that
refuses a notice ends the work that the notice is about.
-/

namespace CallRedirect
set_option autoImplicit false

inductive Level where
  | debug
  | info
  | success
  | warning
  deriving DecidableEq, Repr

namespace Level

def name : Level → String
  | debug => "DEBUG"
  | info => "INFO"
  | success => "SUCCESS"
  | warning => "WARNING"

/-- The rank of a level: a higher one is shown under more thresholds. -/
def rank : Level → Nat
  | debug => 10
  | info => 20
  | success => 25
  | warning => 30

/-- The sign that opens a message of the level. -/
def sign : Level → String
  | debug => ""
  | info => "ℹ️  "
  | success => "✅ "
  | warning => "⚠️  "

end Level

/-- The file that a notice is about, set in bold; nothing for a file without a name. -/
def fileLabel : Option String → String
  | none => ""
  | some path => if path.isEmpty then "" else "[bold blue]" ++ Text.escapeMarkup path ++ "[/bold blue]: "

inductive Notice where
  /-- Calls were redirected in a document. -/
  | redirected (count : Nat)
  /-- A name was added to an import that was already there. -/
  | merged (name origin : String)
  /-- The comments of the first statement now stand around a new import. -/
  | commentsMoved
  /-- Settings were read from a file. -/
  | settingsLoaded (path : String)
  /-- A settings file could not be read. -/
  | settingsUnreadable (path reason : String)
  /-- The summary of a run: how many calls of a file now go to a function. -/
  | callsRedirected (path : Option String) (count : Nat) (callee : String)
  /-- The summary of a run: an import was added to a file. -/
  | importAdded (path : Option String) (name origin : String)
  /-- A message of the caller's own. -/
  | remark (level : Level) (message : String)
  deriving DecidableEq, Repr

namespace Notice

def level : Notice → Level
  | redirected .. => .debug
  | merged .. => .debug
  | commentsMoved => .debug
  | settingsLoaded .. => .debug
  | settingsUnreadable .. => .warning
  | callsRedirected .. => .info
  | importAdded .. => .success
  | remark level _ => level

/-- The wording of a notice, without the sign of its level. -/
def wording : Notice → String
  | redirected count => "Rewrote " ++ count.repr ++ " call site(s)"
  | merged name origin => "Merged '" ++ name ++ "' into existing import of '" ++ origin ++ "'"
  | commentsMoved => "Moved comments of the first statement around the new import"
  | settingsLoaded path => "Loaded [tool.log_codemod] from " ++ path
  | settingsUnreadable path reason => "Ignoring unreadable " ++ path ++ ": " ++ Text.escapeMarkup reason
  | callsRedirected path count callee =>
    fileLabel path ++ "Rewrote " ++ count.repr ++ " call site(s) to " ++ callee
  | importAdded path name origin => fileLabel path ++ "Added '" ++ name ++ "' import from '" ++ origin ++ "'"
  | remark _ message => message

/-- The message of a notice. -/
def message (n : Notice) : String := n.level.sign ++ n.wording

end Notice

/-! ## Handlers -/

/-- A handler is given each notice when it arises. It takes the notice, or refuses it for a reason. -/
abbrev Handler (ε : Type) := Notice → Option ε

/-- How some work fails that is done under a handler: of itself, or at a notice that the handler refuses. -/
inductive Stop (φ ε : Type) where
  | failed (failure : φ)
  | refused (reason : ε)
  deriving DecidableEq, Repr

/-- The result of some work under a handler. The notices are those that are given before the work has its own result; the
first one that is refused ends the work. -/
def Handler.result {φ ε α : Type} (handler : Handler ε) (notices : List Notice) (own : Except φ α) :
    Except (Stop φ ε) α :=
  match notices.findSome? handler with
  | some reason => .error (.refused reason)
  | none => own.mapError .failed
end CallRedirect
