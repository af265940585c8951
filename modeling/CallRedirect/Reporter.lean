import CallRedirect.Notice
import CallRedirect.Run
import CallRedirect.Text.Blank
import CallRedirect.Text.Wrap

/-! # Reporters

A reporter passes notices on to handlers: at most one of its own, which prints on a console, and any number of others,
which keep what they get to themselves. A notice below the threshold is not printed. One whose markup is at fault cannot
be, and ends what it is a notice of. One that is painted, but in a style that then turns out to be none, is left out.

* `Reporter.print`: the lines of some notices.
* `Reporter.handler`: the notices that a reporter refuses.
* `Reporter.report`: a run, of which the notices are printed.
-/

namespace CallRedirect
set_option autoImplicit false

structure Reporter where
  /-- The console that the reporter's own handler prints on. -/
  console : Option String := none
  /-- The number of other handlers. -/
  others : Nat := 0
  /-- The threshold; zero if none is set. -/
  level : Int := 0
  deriving DecidableEq, Repr, Inhabited

namespace Reporter

/-- Prints on a console from now on, and on no other. -/
def attach (r : Reporter) (console : Option String) (level : Int) : Reporter :=
  { r with console := some (console.getD "stdout"), level := level }

/-- Prints no more. -/
def reset (r : Reporter) : Reporter := { r with console := none, level := 0 }

def addOther (r : Reporter) : Reporter := { r with others := r.others + 1 }

/-- Some handler gets the notices. -/
def hasHandler (r : Reporter) : Bool := r.console.isSome || 0 < r.others

/-- The lowest rank that is printed; only warnings are if no threshold is set. -/
def threshold (r : Reporter) : Int := if r.level = 0 then Level.warning.rank else r.level

/-! ## Lines -/

/-- The column of the level is eight characters wide. -/
def levelColumn (name : String) : String := String.ofList (name.toList ++ List.replicate (8 - name.length) ' ')

/-- The columns of a console. -/
def consoleWidth : Nat := 200

/-- The columns beside the level and the blank after it. -/
def messageWidth : Nat := consoleWidth - 9

/-- The rows of a message: its lines, with their tabs expanded, wrapped beside the column of the level. -/
def rows (text : List Char) : List (List Char) :=
  ((String.ofList text).splitOn "\n").flatMap fun line =>
    Text.wrap messageWidth (Text.expandTabs line).toList

/-- A separator that ends a line without a line feed. -/
def endsLine (c : Char) : Bool :=
  let n := c.toNat
  (0x1C ≤ n && n ≤ 0x1E) || n == 0x85 || n == 0x2028 || n == 0x2029

/-- What stands between the separators of lines. -/
def pieces : List Char → List (List Char)
  | [] => [[]]
  | c :: cs =>
    if endsLine c then [] :: pieces cs
    else
      match pieces cs with
      | [] => [[c]]
      | piece :: rest => (c :: piece) :: rest

/-- The lines of a row that fills its width, without blanks at their ends. -/
def rowLines (level : String) (row : List Char) : List String :=
  (pieces ((levelColumn level).toList ++ ' ' :: row ++
    List.replicate (messageWidth - Text.columns row) ' ')).map fun piece => Text.trimEnd (String.ofList piece)

/-- The lines of a message: the level beside the first row, and blanks beside the others. -/
def lines (level : Level) (text : List Char) : List String :=
  match rows text with
  | [] => []
  | first :: rest => rowLines level.name first ++ rest.flatMap (rowLines "")

/-- A style is applied to its text, even if that is empty. Where a message is taken apart into rows, or at its tabs, a
style of no characters is lost, and so is that of a line feed alone. -/
def isApplied (text : List Char) (span : Text.Span) : Bool :=
  if text.contains '\t' || 1 < (rows text).length then
    ((text.take span.stop).drop span.start).any (· != '\n')
  else true

/-- Some style that is applied has a color with a part that is no number. -/
def isUnshowable (canvas : Text.Canvas) : Bool :=
  canvas.allSpans.any fun span => isApplied canvas.text span && !(Text.style? span.definition).isOk

/-- What was printed, and the fault that ended the printing, if one did. -/
structure Printed where
  lines : List String := []
  fault : Option Text.MarkupFault := none

/-- Prints notices up to the first one at fault. -/
def printAll : List Notice → Printed
  | [] => {}
  | n :: rest =>
    match Text.paint n.message with
    | .error fault => { fault := some fault }
    | .ok canvas =>
      { printAll rest with
        lines := (if isUnshowable canvas then [] else lines n.level canvas.text) ++ (printAll rest).lines }

/-- The notices that are printed: there is a console, and they reach the threshold. -/
def prints (r : Reporter) (n : Notice) : Bool := r.console.isSome && r.threshold ≤ n.level.rank

/-- Prints some notices. -/
def print (r : Reporter) (notices : List Notice) : Printed := printAll (notices.filter r.prints)

/-- A reporter is a handler: it refuses the notices that it cannot print. -/
def handler (r : Reporter) : Handler Text.MarkupFault := fun n =>
  if r.prints n then
    match Text.paint n.message with
    | .error fault => some fault
    | .ok _ => none
  else none

/-! ## Runs -/

/-- A run under a reporter: the lines that it prints, and the text that it makes. A notice at fault comes before any
later failure of the run. -/
def report (r : Reporter) (run : RunReport) : List String × Except (Stop Failure Text.MarkupFault) String :=
  match r.print run.notices, run.result with
  | ⟨lines, some fault⟩, _ => (lines, .error (.refused fault))
  | ⟨lines, none⟩, .error failure => (lines, .error (.failed failure))
  | ⟨lines, none⟩, .ok outcome => (lines, .ok outcome.code)

end Reporter
end CallRedirect
