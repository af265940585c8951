import CallRedirect.Proofs.Precedence
import CallRedirect.Proofs.Reporting

/-! # When loading fails

Without a settings file, with one that is not well formed, and with one that has no section for the settings, what the caller
gives counts alone, over the defaults. But loading fails where it cannot be told whether there is a file, at a file that is
not valid UTF-8 or that the reader cannot deal with, and at a value that stands where a table should, for all tools or for
the settings. It fails as well at a notice that the handler refuses; one that prints on a console may do so if there is a
bracket in the path of the file.

* `SettingsTree.Offers`: the entry that counts, if there is one.
* `SettingsEntry.Breaks`: the entries that loading fails at, and how.
* `Settings.load_outcome`: loading gives settings, or the faults of values, exactly unless it fails at the entry that counts,
  or at a notice.
* `Settings.load_breaks`: there are such entries, and such notices. -/

namespace CallRedirect
set_option autoImplicit false

namespace SettingsTree

/-- The entry that counts for a search from a path; none if there is none at the directory or above it, or if the path leads
out of the root. -/
inductive Offers (tree : SettingsTree) (root path : String) : Option SettingsEntry → Prop
  | found {start near : Folder} {entry : SettingsEntry} (hstart : Folder.resolve? root path = some start)
    (hnear : tree.Nearest start near entry) : Offers tree root path (some entry)
  | missing (h : ∀ start near entry, Folder.resolve? root path = some start → ¬ tree.Nearest start near entry) :
    Offers tree root path none

theorem nearest_of_nearest? {tree : SettingsTree} {start near : Folder} {found : Except String SettingsFile}
    (h : tree.nearest? start = some (near, found)) :
    ∃ entry, entry.found? = some found ∧ tree.Nearest start near entry := by
  induction start with
  | nil =>
    obtain ⟨f, hf, heq⟩ := Option.map_eq_some_iff.1 h
    obtain ⟨rfl, rfl⟩ := Prod.mk.inj heq
    obtain ⟨entry, hentry, hfound⟩ := Option.bind_eq_some_iff.1 hf
    refine ⟨entry, hfound, List.suffix_rfl, hentry, ?_, fun folder _ hfolder hne => ?_⟩
    · rintro rfl
      cases hfound
    · exact absurd (List.suffix_nil.1 hfolder) hne
  | cons name parent ih =>
    cases hfind : tree.find? (name :: parent) with
    | some f =>
      rw [nearest?, hfind] at h
      obtain ⟨rfl, rfl⟩ := Prod.mk.inj (Option.some.inj h)
      obtain ⟨entry, hentry, hfound⟩ := Option.bind_eq_some_iff.1 hfind
      refine ⟨entry, hfound, List.suffix_rfl, hentry, ?_, fun folder hnear hfolder hne => ?_⟩
      · rintro rfl
        cases hfound
      · exact absurd (hfolder.eq_of_length_le hnear.length_le) hne
    | none =>
      rw [nearest?, hfind] at h
      obtain ⟨entry, hfound, hparent⟩ := ih h
      refine ⟨entry, hfound, hparent.above.trans (List.suffix_cons name parent), hparent.stands, hparent.counts,
        fun folder hnear hfolder hne e he => ?_⟩
      rcases List.suffix_cons_iff.1 hfolder with rfl | hfolder
      · have hnone := Option.bind_eq_none_iff.1 hfind e he
        cases e with
        | directory => rfl
        | _ => cases hnone
      · exact hparent.between folder hnear hfolder hne e he

theorem exists_offers (tree : SettingsTree) (root path : String) : ∃ offer, tree.Offers root path offer := by
  by_cases h : ∃ start near entry, Folder.resolve? root path = some start ∧ tree.Nearest start near entry
  · obtain ⟨start, near, entry, hstart, hnear⟩ := h
    exact ⟨some entry, .found hstart hnear⟩
  · push Not at h
    exact ⟨none, .missing h⟩

theorem Offers.ne_directory {tree : SettingsTree} {root path : String} {entry : SettingsEntry}
    (h : tree.Offers root path (some entry)) : entry ≠ .directory := by
  cases h with
  | found _ hnear => exact hnear.counts

end SettingsTree

namespace SettingsEntry

/-- Loading fails at an entry. -/
inductive Breaks : SettingsEntry → LoadFailure → Prop
  | barred (reason : String) : Breaks (.barred reason) (.barred reason)
  | undecodable : Breaks (.file .undecodable) .undecodable
  | unreadable (reason : String) : Breaks (.file (.unreadable reason)) (.unreadable reason)
  | tool {entries : List (String × Value)} {v : Value} (htool : entries.lookup "tool" = some v)
    (hv : v.entries? = none) : Breaks (.file (.decoded entries)) (.noTable v)
  | section_ {entries tool : List (String × Value)} {v : Value} (htool : SettingsFile.Subtable entries "tool" tool)
    (hsection : tool.lookup "log_codemod" = some v) (hv : v.entries? = none) :
    Breaks (.file (.decoded entries)) (.noSection v)

theorem subtable_or_value (entries : List (String × Value)) (key : String) :
    (∃ table, SettingsFile.Subtable entries key table) ∨ ∃ v, entries.lookup key = some v ∧ v.entries? = none := by
  cases h : entries.lookup key with
  | none => exact .inl ⟨[], .inr ⟨h, rfl⟩⟩
  | some v =>
    cases v with
    | table table => exact .inl ⟨table, .inl h⟩
    | _ => exact .inr ⟨_, rfl, rfl⟩

/-- An entry that counts is a file that gives a table, or loading fails at it. -/
theorem gives_or_breaks {entry : SettingsEntry} (h : entry ≠ .directory) :
    (∃ file table warnings, entry = .file file ∧ file.Gives table warnings) ∨ ∃ failure, entry.Breaks failure := by
  cases entry with
  | directory => exact absurd rfl h
  | barred reason => exact .inr ⟨_, .barred reason⟩
  | file file =>
    cases file with
    | undecodable => exact .inr ⟨_, .undecodable⟩
    | unreadable reason => exact .inr ⟨_, .unreadable reason⟩
    | malformed reason => exact .inl ⟨_, _, _, rfl, .malformed reason⟩
    | decoded entries =>
      rcases subtable_or_value entries "tool" with ⟨tool, htool⟩ | ⟨v, htool, hv⟩
      · rcases subtable_or_value tool "log_codemod" with ⟨table, htable⟩ | ⟨v, hsection, hv⟩
        · exact .inl ⟨_, _, _, rfl, .decoded htool htable⟩
        · exact .inr ⟨_, .section_ htool hsection hv⟩
      · exact .inr ⟨_, .tool htool hv⟩

theorem Breaks.ne_faults {entry : SettingsEntry} {failure : LoadFailure} (h : entry.Breaks failure)
    (faults : List Settings.FieldFault) : failure ≠ .faults faults := by
  cases h <;> nofun

end SettingsEntry

namespace Loaded

/-- The result is settings, or the faults of the values that are given for them. -/
def Regular {ε : Type} (result : Except (Stop LoadFailure ε) Settings) : Prop :=
  (∃ s, result = .ok s) ∨ ∃ faults, result = .error (.failed (.faults faults))

/-- The same of loading by itself. -/
def Settled (loaded : Loaded) : Prop :=
  (∃ s, loaded.result = .ok s) ∨ ∃ faults, loaded.result = .error (.faults faults)

theorem regular_under_iff {ε : Type} {loaded : Loaded} {handler : Handler ε} :
    Regular (loaded.under handler) ↔ loaded.Settled ∧ ∀ n ∈ loaded.notices, handler n = none := by
  rcases handler.result_cases loaded.notices loaded.result with ⟨n, hn, reason, hreason, hunder⟩ | ⟨htaken, hunder⟩
  · refine iff_of_false ?_ fun h => ?_
    · rw [under, hunder]
      rintro (⟨s, hs⟩ | ⟨faults, hfaults⟩)
      · cases hs
      · cases hfaults
    · cases hreason.symm.trans (h.2 n hn)
  · rw [under, hunder, and_iff_left htaken, Regular, Settled]
    cases loaded.result with
    | ok s => simp [Except.mapError]
    | error e => simp [Except.mapError]

end Loaded

namespace Settings

theorem Settles.settled {given : Given} {loaded : Loaded} (h : Settles given loaded.result) : loaded.Settled := by
  cases hresult : loaded.result with
  | ok s => exact .inl ⟨s, hresult⟩
  | error e =>
    rw [hresult] at h
    cases h with
    | refused => exact .inr ⟨_, hresult⟩

section Load
variable {root : String} {tree : SettingsTree} {workingPath : String} {searchPath : Option String}

theorem load_of_missing (hoffers : tree.Offers root (searchPath.getD workingPath) none) (overrides : Given) :
    load root tree workingPath searchPath overrides = ⟨[], checkOver overrides []⟩ := by
  cases hoffers with
  | missing h =>
    have hnone : (Folder.resolve? root (searchPath.getD workingPath)).bind tree.nearest? = none := by
      rw [Option.bind_eq_none_iff]
      intro start hstart
      cases hnear : tree.nearest? start with
      | none => rfl
      | some p =>
        obtain ⟨entry, -, hentry⟩ := SettingsTree.nearest_of_nearest? hnear
        exact absurd hentry (h start p.1 entry hstart)
    rw [load, hnone]

theorem load_of_file {file : SettingsFile} (hoffers : tree.Offers root (searchPath.getD workingPath) (some (.file file)))
    (overrides : Given) : ∃ path, load root tree workingPath searchPath overrides = loadFile overrides path file := by
  cases hoffers with
  | found hstart hnear => exact ⟨_, load_eq hstart hnear overrides⟩

theorem load_of_barred {reason : String} (hoffers : tree.Offers root (searchPath.getD workingPath) (some (.barred reason)))
    (overrides : Given) :
    load root tree workingPath searchPath overrides = ⟨[], .error (.barred reason)⟩ := by
  cases hoffers with
  | found hstart hnear =>
    rw [load, hstart, Option.bind_some, hnear.nearest?_eq]
    rfl

theorem load_of_breaks {entry : SettingsEntry} {failure : LoadFailure}
    (hoffers : tree.Offers root (searchPath.getD workingPath) (some entry)) (hentry : entry.Breaks failure)
    (overrides : Given) : (load root tree workingPath searchPath overrides).result = .error failure := by
  cases hentry with
  | barred reason => rw [load_of_barred hoffers]
  | undecodable =>
    obtain ⟨path, hload⟩ := load_of_file hoffers overrides
    rw [hload]
    rfl
  | unreadable reason =>
    obtain ⟨path, hload⟩ := load_of_file hoffers overrides
    rw [hload]
    rfl
  | tool htool hv =>
    obtain ⟨path, hload⟩ := load_of_file hoffers overrides
    simp [hload, loadFile, entryOrEmpty, htool, hv]
  | section_ htool hsection hv =>
    obtain ⟨path, hload⟩ := load_of_file hoffers overrides
    rw [hload, loadFile]
    simp only [htool.entries?_eq]
    simp [loadSection, entryOrEmpty, hsection, hv]

theorem settles_of_missing (hoffers : tree.Offers root (searchPath.getD workingPath) none)
    (overrides : List (String × Value)) :
    Settles (chosen overrides []) (load root tree workingPath searchPath (.ofEntries overrides)).result := by
  rw [load_of_missing hoffers]
  dsimp only
  rw [checkOver_ofEntries]
  exact check_settles _

theorem settles_of_gives {file : SettingsFile} {table : List (String × Value)} {warnings : Nat}
    (hoffers : tree.Offers root (searchPath.getD workingPath) (some (.file file))) (hfile : file.Gives table warnings)
    (overrides : List (String × Value)) :
    Settles (chosen overrides table) (load root tree workingPath searchPath (.ofEntries overrides)).result ∧
      (load root tree workingPath searchPath (.ofEntries overrides)).notices.countP (fun n => n.level = .warning) =
        warnings := by
  obtain ⟨path, hload⟩ := load_of_file hoffers (.ofEntries overrides)
  obtain ⟨hresult, hwarnings⟩ := hfile.loadFile (.ofEntries overrides) path
  rw [hload, hresult, checkOver_ofEntries]
  exact ⟨check_settles _, hwarnings⟩

theorem settled_load_iff (root : String) (tree : SettingsTree) (workingPath : String) (searchPath : Option String)
    (overrides : List (String × Value)) :
    (load root tree workingPath searchPath (.ofEntries overrides)).Settled ↔
      ¬ ∃ entry failure, tree.Offers root (searchPath.getD workingPath) (some entry) ∧ entry.Breaks failure := by
  constructor
  · rintro hsettled ⟨entry, failure, hoffers, hentry⟩
    have hfailure := load_of_breaks hoffers hentry (.ofEntries overrides)
    rcases hsettled with ⟨s, hs⟩ | ⟨faults, hfaults⟩
    · cases hs.symm.trans hfailure
    · exact hentry.ne_faults faults (Except.error.inj (hfailure.symm.trans hfaults))
  · intro hnot
    obtain ⟨offer, hoffers⟩ := tree.exists_offers root (searchPath.getD workingPath)
    cases offer with
    | none => exact (settles_of_missing hoffers overrides).settled
    | some entry =>
      rcases SettingsEntry.gives_or_breaks hoffers.ne_directory with ⟨file, table, warnings, rfl, hfile⟩ | ⟨failure, hentry⟩
      · exact (settles_of_gives hoffers hfile overrides).1.settled
      · exact absurd ⟨entry, failure, hoffers, hentry⟩ hnot

/-- Loading gives at most one notice, which takes in the path of the file that counts. -/
theorem notices_load (root : String) (tree : SettingsTree) (workingPath : String) (searchPath : Option String)
    (overrides : Given) :
    (load root tree workingPath searchPath overrides).notices = [] ∨
      ∃ n start near file, (load root tree workingPath searchPath overrides).notices = [n] ∧
        Folder.resolve? root (searchPath.getD workingPath) = some start ∧ tree.Nearest start near (.file file) ∧
        n.rawParts = [near.settingsPath root] := by
  obtain ⟨offer, hoffers⟩ := tree.exists_offers root (searchPath.getD workingPath)
  cases hoffers with
  | missing h => exact .inl (congrArg Loaded.notices (load_of_missing (.missing h) overrides))
  | @found start near entry hstart hnear =>
    cases entry with
    | directory => exact absurd rfl hnear.counts
    | barred reason => exact .inl (congrArg Loaded.notices (load_of_barred (.found hstart hnear) overrides))
    | file file =>
      rw [load_eq hstart hnear]
      cases file with
      | undecodable => exact .inl rfl
      | unreadable reason => exact .inl rfl
      | malformed reason => exact .inr ⟨_, start, near, _, rfl, hstart, hnear, rfl⟩
      | decoded entries =>
        rw [loadFile]
        split
        · exact .inl rfl
        · exact .inr ⟨_, start, near, _, rfl, hstart, hnear, rfl⟩

theorem mem_notices_load {root : String} {tree : SettingsTree} {workingPath : String} {searchPath : Option String}
    {overrides : Given} {n : Notice} (hn : n ∈ (load root tree workingPath searchPath overrides).notices) :
    (load root tree workingPath searchPath overrides).notices = [n] ∧
      ∃ start near file, Folder.resolve? root (searchPath.getD workingPath) = some start ∧
        tree.Nearest start near (.file file) ∧ n.rawParts = [near.settingsPath root] := by
  rcases notices_load root tree workingPath searchPath overrides with hnil | ⟨m, start, near, file, hone, hfile⟩
  · exact absurd (hnil ▸ hn) List.not_mem_nil
  · obtain rfl : n = m := List.mem_singleton.1 (hone ▸ hn)
    exact ⟨hone, start, near, file, hfile⟩

end Load

/-- Loading gives settings, or the faults of values, exactly unless it fails at the entry that counts, or at a notice. It fails
in the way of that entry, whatever the caller gives. Without an entry that counts, what the caller gives settles the settings
alone, over the defaults; a file settles them with the table it gives, and with as many warnings. A reporter refuses a notice
only for a bracket in the path of the file. -/
theorem load_outcome (root : String) (tree : SettingsTree) (workingPath : String) (searchPath : Option String)
    (overrides : List (String × Value)) {ε : Type} (handler : Handler ε) :
    let path := searchPath.getD workingPath
    let loaded := load root tree workingPath searchPath (.ofEntries overrides)
    (Loaded.Regular (loaded.under handler) ↔
        (¬ ∃ entry failure, tree.Offers root path (some entry) ∧ entry.Breaks failure) ∧
          ∀ n ∈ loaded.notices, handler n = none) ∧
      (∀ entry failure, tree.Offers root path (some entry) → entry.Breaks failure → loaded.result = .error failure) ∧
      (∀ n ∈ loaded.notices, ∀ reason, handler n = some reason → loaded.under handler = .error (.refused reason)) ∧
      (tree.Offers root path none → Settles (chosen overrides []) loaded.result ∧ loaded.notices = []) ∧
      (∀ file table warnings, tree.Offers root path (some (.file file)) → file.Gives table warnings →
        Settles (chosen overrides table) loaded.result ∧
          loaded.notices.countP (fun n => n.level = .warning) = warnings) ∧
      ∀ (r : Reporter), ∀ n ∈ loaded.notices, r.handler n ≠ none →
        ∃ start near file, Folder.resolve? root path = some start ∧ tree.Nearest start near (.file file) ∧
          '[' ∈ (near.settingsPath root).toList := by
  intro path loaded
  refine ⟨?_, fun entry failure hoffers hentry => load_of_breaks hoffers hentry _, fun n hn reason hreason => ?_,
    fun hoffers => ⟨settles_of_missing hoffers overrides, congrArg Loaded.notices (load_of_missing hoffers _)⟩,
    fun file table warnings hoffers hfile => settles_of_gives hoffers hfile overrides, fun r n hn hrefused => ?_⟩
  · rw [Loaded.regular_under_iff, settled_load_iff]
  · apply Handler.result_of_refused
    rw [(mem_notices_load hn).1, List.findSome?_cons, hreason]
  · obtain ⟨-, start, near, file, hstart, hnear, hparts⟩ := mem_notices_load hn
    refine ⟨start, near, file, hstart, hnear, ?_⟩
    by_contra hbracket
    apply hrefused
    apply r.handler_eq_none
    rw [hparts]
    simpa using hbracket

/-- A repository whose only entry is the one at its root. -/
def rootTree (entry : SettingsEntry) : SettingsTree
  | [] => some entry
  | _ :: _ => none

theorem rootTree_offers {root : String} {entry : SettingsEntry} (hroot : Folder.resolve? root "" = some [])
    (h : entry ≠ .directory) : (rootTree entry).Offers root "" (some entry) := by
  refine .found hroot ⟨List.suffix_rfl, rfl, h, fun folder _ hfolder hne => ?_⟩
  exact absurd (List.suffix_nil.1 hfolder) hne

/-- Loading fails at bytes that are no text, at a list in the place of the tools, at a number in the place of the settings, at
an integer that the reader does not take, at a directory that may not be looked at, and on a console at a bracket in the path,
though the caller gives nothing that does not fit. -/
theorem load_breaks :
    ¬ (load "/repo" (rootTree (.file .undecodable)) "" none (.ofEntries [])).Settled ∧
      ¬ (load "/repo" (rootTree (.file (.decoded [("tool", .list)]))) "" none (.ofEntries [])).Settled ∧
      ¬ (load "/repo" (rootTree (.file (.decoded [("tool", .table [("log_codemod", .integer)])]))) "" none
        (.ofEntries [])).Settled ∧
      ¬ (load "/repo" (rootTree (.file (.unreadable "Exceeds the limit (4300 digits)"))) "" none (.ofEntries [])).Settled ∧
      ¬ (load "/repo" (rootTree (.barred "Permission denied")) "" none (.ofEntries [])).Settled ∧
      ¬ Loaded.Regular ((load "/repo[/x]" (rootTree (.file (.malformed "Invalid statement"))) "" none (.ofEntries [])).under
        (({} : Reporter).attach none 20).handler) := by
  have hroot : Folder.resolve? "/repo" "" = some [] := by decide
  have hbreaks {entry : SettingsEntry} {failure : LoadFailure} (h : entry.Breaks failure) :
      ¬ (load "/repo" (rootTree entry) "" none (.ofEntries [])).Settled := by
    have hne : entry ≠ .directory := by
      rintro rfl
      cases h
    exact fun hsettled => (settled_load_iff _ _ _ _ _).1 hsettled ⟨entry, failure, rootTree_offers hroot hne, h⟩
  refine ⟨hbreaks .undecodable, hbreaks (.tool rfl rfl), hbreaks (.section_ (.inl rfl) rfl rfl), hbreaks (.unreadable _),
    hbreaks (.barred _), fun hregular => ?_⟩
  have hnotices : (load "/repo[/x]" (rootTree (.file (.malformed "Invalid statement"))) "" none (.ofEntries [])).notices =
      [.settingsUnreadable "/repo[/x]/pyproject.toml" "Invalid statement"] := by decide +kernel
  obtain ⟨fault, hfault⟩ := @Reporter.exists_handler_eq_some_of_unopened (({} : Reporter).attach none 20)
    (.settingsUnreadable "/repo[/x]/pyproject.toml" "Invalid statement") "⚠️  Ignoring unreadable /repo"
    "/pyproject.toml: Invalid statement" (by decide) (by decide +kernel) (by decide)
  have htaken := (Loaded.regular_under_iff.1 hregular).2
  rw [hnotices] at htaken
  cases hfault.symm.trans (htaken _ List.mem_cons_self)

end Settings
end CallRedirect
