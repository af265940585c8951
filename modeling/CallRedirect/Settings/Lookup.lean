import CallRedirect.Notice
import CallRedirect.Settings.Check

/-! # Looking up settings

Settings may be kept in a table of a file named `pyproject.toml`. The one nearest to a directory counts, at or above it,
and no other is looked at. The search ends as well where it cannot be told whether there is such a file.

* `Folder.resolve?`: the directory that a path leads to.
* `SettingsTree.nearest?`: where the search ends.
* `Settings.load`: the settings that hold at a directory, with the caller's own ones over them.
* `Loaded.under`: loading under a handler of notices.
-/

namespace CallRedirect
set_option autoImplicit false

/-! ## Directories -/

/-- A directory, as the names on the way to it from a root or from the top of the file system, the last one first. -/
abbrev Folder := List String

namespace Folder

/-- The steps of a path. -/
def steps (path : String) : List String := (path.toList.splitOn '/').map String.ofList

/-- Follows a path from a directory; above the top of the file system is the top. -/
def follow : Folder → List String → Folder
  | folder, [] => folder
  | folder, step :: rest =>
    if step == "" || step == "." then follow folder rest
    else if step == ".." then follow folder.tail rest
    else follow (step :: folder) rest

/-- What is left of the way to a directory below another one. -/
def below? (top folder : Folder) : Option Folder :=
  if top.isSuffixOf folder then some (folder.take (folder.length - top.length)) else none

/-- The directory below a root that a path leads to from there; none if the path leads elsewhere. -/
def resolve? (root path : String) : Option Folder :=
  let top := follow [] (steps root)
  below? top (follow top (steps path))

/-- The path of the settings file of a directory. -/
def settingsPath (root : String) (folder : Folder) : String :=
  Text.joined "/" (root :: folder.reverse ++ ["pyproject.toml"])

end Folder

/-! ## Files -/

/-- What a settings file holds. -/
inductive SettingsFile where
  | decoded (entries : List (String × Value))
  /-- The file cannot be read, or its text is not well formed, for a reason. -/
  | malformed (reason : String)
  /-- The bytes are not valid UTF-8. -/
  | undecodable
  /-- The reader fails for any other reason, as at an integer of too many digits. -/
  | unreadable (reason : String)

/-- What goes by the name of a settings file. -/
inductive SettingsEntry where
  | file (f : SettingsFile)
  /-- A directory of that name holds no settings. -/
  | directory
  /-- It cannot be told what there is, for a reason such as a missing permission. -/
  | barred (reason : String)

/-- What ends the search at an entry: a settings file, or the reason why it cannot be told whether there is one. -/
def SettingsEntry.found? : SettingsEntry → Option (Except String SettingsFile)
  | .file f => some (.ok f)
  | .directory => none
  | .barred reason => some (.error reason)

/-- What goes by the name of a settings file in each directory below a root. -/
abbrev SettingsTree := Folder → Option SettingsEntry

/-- What ends the search in a directory. -/
def SettingsTree.find? (tree : SettingsTree) (folder : Folder) : Option (Except String SettingsFile) :=
  (tree folder).bind SettingsEntry.found?

/-- What ends the search from a directory upwards, and where. -/
def SettingsTree.nearest? (tree : SettingsTree) : Folder → Option (Folder × Except String SettingsFile)
  | [] => (tree.find? []).map fun found => ([], found)
  | name :: parent =>
    match tree.find? (name :: parent) with
    | some found => some (name :: parent, found)
    | none => tree.nearest? parent

/-! ## Loading -/

/-- Why settings could not be loaded. -/
inductive LoadFailure where
  | faults (faults : List Settings.FieldFault)
  /-- A value that is asked for an entry is no table. -/
  | noTable (value : Value)
  /-- The section of the settings is no table. -/
  | noSection (value : Value)
  | undecodable
  | unreadable (reason : String)
  | barred (reason : String)

namespace LoadFailure

def message : LoadFailure → String
  | faults _ => "The settings do not fit"
  | noTable value => "'" ++ value.kindName ++ "' object has no attribute 'get'"
  | noSection value => "'" ++ value.kindName ++ "' object has no attribute 'items'"
  | undecodable => "The settings file is not valid UTF-8"
  | unreadable reason => reason
  | barred reason => reason

end LoadFailure

/-- A result together with the notices given on the way to it. -/
structure Loaded where
  notices : List Notice
  result : Except LoadFailure Settings

/-- The result of loading, if the notices go to a handler. -/
def Loaded.under {ε : Type} (loaded : Loaded) (handler : Handler ε) : Except (Stop LoadFailure ε) Settings :=
  handler.result loaded.notices loaded.result

namespace Settings

/-- Checks what the caller gives over what a table gives. -/
def checkOver (overrides : Given) (entries : List (String × Value)) : Except LoadFailure Settings :=
  (check (overrides.withFallback (Given.ofEntries entries))).mapError .faults

/-- The value under a key, an empty table if the key is missing. -/
def entryOrEmpty (key : String) (entries : List (String × Value)) : Value := (entries.lookup key).getD (.table [])

/-- The settings section of a file that was read. -/
def loadSection (overrides : Given) (path : String) (tool : List (String × Value)) : Loaded :=
  let section_ := entryOrEmpty "log_codemod" tool
  { notices := [.settingsLoaded path]
    result :=
      match section_.entries? with
      | none => .error (.noSection section_)
      | some entries => checkOver overrides entries }

/-- The settings of a file, with the caller's own over them. -/
def loadFile (overrides : Given) (path : String) : SettingsFile → Loaded
  | .undecodable => ⟨[], .error .undecodable⟩
  | .unreadable reason => ⟨[], .error (.unreadable reason)⟩
  | .malformed reason => ⟨[.settingsUnreadable path reason], checkOver overrides []⟩
  | .decoded entries =>
    let tool := entryOrEmpty "tool" entries
    match tool.entries? with
    | none => ⟨[], .error (.noTable tool)⟩
    | some entries => loadSection overrides path entries

/-- The settings that hold at a directory, with the caller's own over them. The search starts where the caller says, or
else in the working directory; there is no settings file but below the root. -/
def load (root : String) (tree : SettingsTree) (workingPath : String) (searchPath : Option String)
    (overrides : Given) : Loaded :=
  match (Folder.resolve? root (searchPath.getD workingPath)).bind tree.nearest? with
  | none => ⟨[], checkOver overrides []⟩
  | some (_, .error reason) => ⟨[], .error (.barred reason)⟩
  | some (folder, .ok file) => loadFile overrides (folder.settingsPath root) file

end Settings
end CallRedirect
