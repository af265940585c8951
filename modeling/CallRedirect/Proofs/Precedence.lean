import CallRedirect.Settings.Lookup
import Mathlib.Data.List.Infix

/-! # Which settings count

For every field the caller's own value counts, unless it is null; else the value in the table of the nearest settings file;
else the default. A value that counts has to fit its field, and the values that do not count are not looked at.

* `Settings.Field.fault?`, `Settings.Field.Reads`: which values fit a field, and what the field then holds.
* `Settings.Settles`: the outcome for the values that count; `check_settles` says that checking has this outcome.
* `SettingsTree.Nearest`: the settings file that counts at a directory.
* `SettingsFile.Gives`: the table that a settings file gives, and the warnings it causes.
* `Settings.load_precedence`: what loading comes to. -/

namespace CallRedirect
set_option autoImplicit false

namespace Settings

/-! ## Values that fit -/

/-- The fields, in the order in which faults are listed. -/
def Field.all : List Field := [.dialect, .object, .severity, .function, .origin, .localName]

/-- What is wrong about a value for a text of some kind. -/
def textFault? (fits : String → Bool) (misfit : String → Fault) : Value → Option Fault
  | .text s => if fits s then none else some (misfit s)
  | _ => some .notAText

/-- What is wrong about a value for a field. A dialect goes by one of its names, a module is any text but a blank one, and
the others are identifiers; only the local name may be null. -/
def Field.fault? : Field → Value → Option Fault
  | .dialect, .text s => if (dialectOfText? s).isSome then none else some .notADialect
  | .dialect, _ => some .notADialect
  | .origin, v => textFault? (fun s => !Text.isBlankText s) (fun _ => .blank) v
  | .localName, .null => none
  | _, v => textFault? Text.isIdentifier .notAnIdentifier v

/-- The field of the settings holds what the value says. -/
def Field.Reads (f : Field) (v : Value) (s : Settings) : Prop :=
  match f with
  | .dialect => ∃ text, v = .text text ∧ dialectOfText? text = some s.dialect
  | .object => v = .text s.object
  | .severity => v = .text s.severity
  | .function => v = .text s.function
  | .origin => v = .text s.origin
  | .localName => v = (s.localName.map Value.text).getD .null

/-- The field of the settings has its default. -/
def Field.HasDefault (f : Field) (s : Settings) : Prop :=
  match f with
  | .dialect => s.dialect = .ts
  | .object => s.object = "console"
  | .severity => s.severity = "error"
  | .function => s.function = "logError"
  | .origin => s.origin = "src/lib.logger"
  | .localName => s.localName = none

/-- The field of the settings holds the value that is given for it, or its default if none is given. -/
def Field.Holds (f : Field) (given : Option Value) (s : Settings) : Prop :=
  match given with
  | some v => f.Reads v s
  | none => f.HasDefault s

/-- The fault of the value that is given for a field. -/
def faultAt (given : Given) (f : Field) : Option FieldFault :=
  (given f).bind fun v => (f.fault? v).map (FieldFault.mk f)

/-- The faults of all values that are given, in the order of the fields. -/
def faultsOf (given : Given) : List FieldFault := Field.all.flatMap fun f => (faultAt given f).toList

/-- The outcome for what is given: settings, if all of it fits, and else all faults. -/
inductive Settles (given : Given) : Except LoadFailure Settings → Prop
  | accepted {s : Settings} : faultsOf given = [] → (∀ f : Field, f.Holds (given f) s) → Settles given (.ok s)
  | refused : faultsOf given ≠ [] → Settles given (.error (.faults (faultsOf given)))

/-- What fits is accepted. -/
theorem Settles.exists_ok {given : Given} {result : Except LoadFailure Settings} (h : Settles given result)
    (hfit : faultsOf given = []) : ∃ s, result = .ok s ∧ ∀ f : Field, f.Holds (given f) s := by
  cases h with
  | accepted _ hholds => exact ⟨_, rfl, hholds⟩
  | refused hne => exact absurd hfit hne

/-! ## Checking -/

/-- The check of a field refuses the values with a fault, and hands on what the others say. -/
structure Field.CheckedBy {α : Type} (f : Field) (check : Value → Except Fault α) (get : Settings → α) (fallback : α) :
    Prop where
  ok : ∀ v a, check v = .ok a → f.fault? v = none ∧ ∀ s, get s = a → f.Reads v s
  error : ∀ v e, check v = .error e → f.fault? v = some e
  default : ∀ s, get s = fallback → f.HasDefault s

theorem checkedBy_dialect : Field.dialect.CheckedBy checkDialect Settings.dialect .ts where
  ok v a h := by
    cases v with
    | text s =>
      rw [checkDialect] at h
      split at h
      · next d hd =>
        obtain rfl := Except.ok.inj h
        exact ⟨by simp [Field.fault?, hd], fun s' hs' => ⟨s, rfl, hs' ▸ hd⟩⟩
      · cases h
    | _ => cases h
  error v e h := by
    cases v with
    | text s =>
      rw [checkDialect] at h
      split at h
      · cases h
      · next hd =>
        obtain rfl := Except.error.inj h
        simp [Field.fault?, hd]
    | _ =>
      obtain rfl := Except.error.inj h
      rfl
  default _ h := h

/-- A check takes texts of some kind as they are. -/
structure TakesTexts (check : Value → Except Fault String) (fits : String → Bool) (misfit : String → Fault) : Prop where
  ok : ∀ v s, check v = .ok s → v = .text s ∧ textFault? fits misfit v = none
  error : ∀ v e, check v = .error e → textFault? fits misfit v = some e

theorem takesTexts_checkIdentifier : TakesTexts checkIdentifier Text.isIdentifier .notAnIdentifier where
  ok v s h := by
    cases v with
    | text t =>
      rw [checkIdentifier] at h
      split at h
      · next ht =>
        obtain rfl := Except.ok.inj h
        exact ⟨rfl, if_pos ht⟩
      · cases h
    | _ => cases h
  error v e h := by
    cases v with
    | text t =>
      rw [checkIdentifier] at h
      split at h
      · cases h
      · next ht =>
        obtain rfl := Except.error.inj h
        exact if_neg ht
    | _ =>
      obtain rfl := Except.error.inj h
      rfl

theorem takesTexts_checkOrigin : TakesTexts checkOrigin (fun s => !Text.isBlankText s) fun _ => .blank where
  ok v s h := by
    cases v with
    | text t =>
      rw [checkOrigin] at h
      split at h
      · cases h
      · next ht =>
        obtain rfl := Except.ok.inj h
        exact ⟨rfl, if_pos (by simpa using ht)⟩
    | _ => cases h
  error v e h := by
    cases v with
    | text t =>
      rw [checkOrigin] at h
      split at h
      · next ht =>
        obtain rfl := Except.error.inj h
        exact if_neg (by simpa using ht)
      · cases h
    | _ =>
      obtain rfl := Except.error.inj h
      rfl

theorem TakesTexts.checkedBy {check : Value → Except Fault String} {fits : String → Bool} {misfit : String → Fault}
    (h : TakesTexts check fits misfit) {f : Field} {get : Settings → String} {fallback : String}
    (hfault : ∀ v, f.fault? v = textFault? fits misfit v) (hreads : ∀ s, f.Reads (.text (get s)) s)
    (hdefault : ∀ s, get s = fallback → f.HasDefault s) : f.CheckedBy check get fallback where
  ok v a hv := by
    obtain ⟨rfl, hnone⟩ := h.ok v a hv
    exact ⟨(hfault _).trans hnone, fun s hs => hs ▸ hreads s⟩
  error v e hv := (hfault v).trans (h.error v e hv)
  default := hdefault

theorem checkLocalName_text (t : String) : checkLocalName (.text t) = (checkIdentifier (.text t)).map some := rfl

theorem checkedBy_localName : Field.localName.CheckedBy checkLocalName Settings.localName none where
  ok v a h := by
    cases v with
    | null =>
      obtain rfl := Except.ok.inj h
      exact ⟨rfl, fun s hs => by rw [Field.Reads, hs]; rfl⟩
    | text t =>
      cases ht : checkIdentifier (.text t) with
      | error e =>
        rw [checkLocalName_text, ht] at h
        cases h
      | ok name =>
        obtain ⟨hname, hnone⟩ := takesTexts_checkIdentifier.ok _ _ ht
        rw [checkLocalName_text, ht] at h
        obtain rfl := Except.ok.inj h
        exact ⟨hnone, fun s hs => by rw [Field.Reads, hs]; exact hname⟩
    | _ => cases h
  error v e h := by
    cases v with
    | null => cases h
    | text t =>
      cases ht : checkIdentifier (.text t) with
      | error e' =>
        rw [checkLocalName_text, ht] at h
        obtain rfl := Except.error.inj h
        exact takesTexts_checkIdentifier.error _ _ ht
      | ok name =>
        rw [checkLocalName_text, ht] at h
        cases h
    | _ =>
      obtain rfl := Except.error.inj h
      rfl
  default _ h := h

section CheckField
variable {α : Type} {f : Field} {check : Value → Except Fault α} {get : Settings → α} {fallback : α}
  (h : f.CheckedBy check get fallback) {given : Given}
include h

theorem Field.CheckedBy.holds {s : Settings} (hok : checkField given f check fallback = .ok (get s)) :
    f.Holds (given f) s := by
  unfold checkField at hok
  split at hok
  · next hnone =>
    rw [hnone]
    exact h.default s (Except.ok.inj hok).symm
  · next v hv =>
    rw [hv]
    cases hcheck : check v with
    | error e =>
      rw [hcheck] at hok
      cases hok
    | ok a =>
      rw [hcheck] at hok
      exact (h.ok v a hcheck).2 s (Except.ok.inj hok).symm

/-- What is listed for a field is the fault of what is given for it. -/
theorem Field.CheckedBy.faultOf_eq : faultOf (checkField given f check fallback) = (faultAt given f).toList := by
  unfold checkField faultAt
  cases given f with
  | none => rfl
  | some v =>
    cases hcheck : check v with
    | error e => simp [Except.mapError, faultOf, hcheck, h.error v e hcheck]
    | ok a => simp [Except.mapError, faultOf, hcheck, (h.ok v a hcheck).1]

end CheckField

theorem exists_ok_of_faultOf {α : Type} {r : Except FieldFault α} (h : faultOf r = []) : ∃ a, r = .ok a := by
  cases r with
  | ok a => exact ⟨a, rfl⟩
  | error e => cases h

theorem checkedBy_object : Field.object.CheckedBy checkIdentifier Settings.object "console" :=
  takesTexts_checkIdentifier.checkedBy (fun _ => rfl) (fun _ => rfl) fun _ hs => hs

theorem checkedBy_severity : Field.severity.CheckedBy checkIdentifier Settings.severity "error" :=
  takesTexts_checkIdentifier.checkedBy (fun _ => rfl) (fun _ => rfl) fun _ hs => hs

theorem checkedBy_function : Field.function.CheckedBy checkIdentifier Settings.function "logError" :=
  takesTexts_checkIdentifier.checkedBy (fun _ => rfl) (fun _ => rfl) fun _ hs => hs

theorem checkedBy_origin : Field.origin.CheckedBy checkOrigin Settings.origin "src/lib.logger" :=
  takesTexts_checkOrigin.checkedBy (fun _ => rfl) (fun _ => rfl) fun _ hs => hs

theorem check_settles (given : Given) : Settles given ((check given).mapError .faults) := by
  have hfaults : faultOf (checkField given .dialect checkDialect .ts) ++
      faultOf (checkField given .object checkIdentifier "console") ++
      faultOf (checkField given .severity checkIdentifier "error") ++
      faultOf (checkField given .function checkIdentifier "logError") ++
      faultOf (checkField given .origin checkOrigin "src/lib.logger") ++
      faultOf (checkField given .localName checkLocalName none) = faultsOf given := by
    rw [checkedBy_dialect.faultOf_eq, checkedBy_object.faultOf_eq, checkedBy_severity.faultOf_eq,
      checkedBy_function.faultOf_eq, checkedBy_origin.faultOf_eq, checkedBy_localName.faultOf_eq]
    simp [faultsOf, Field.all]
  unfold check
  dsimp only
  split
  · next dialect object severity function origin localName hdialect hobject hseverity hfunction horigin hlocalName =>
    refine .accepted ?_ fun f => ?_
    · rw [← hfaults, hdialect, hobject, hseverity, hfunction, horigin, hlocalName]
      rfl
    · cases f with
      | dialect => exact checkedBy_dialect.holds hdialect
      | object => exact checkedBy_object.holds hobject
      | severity => exact checkedBy_severity.holds hseverity
      | function => exact checkedBy_function.holds hfunction
      | origin => exact checkedBy_origin.holds horigin
      | localName => exact checkedBy_localName.holds hlocalName
  · next hnot =>
    rw [hfaults]
    refine .refused fun hnil => ?_
    -- without a fault every field is accepted
    rw [← hfaults] at hnil
    simp only [List.append_eq_nil_iff] at hnil
    obtain ⟨⟨⟨⟨⟨hdialect, hobject⟩, hseverity⟩, hfunction⟩, horigin⟩, hlocalName⟩ := hnil
    obtain ⟨_, hdialect⟩ := exists_ok_of_faultOf hdialect
    obtain ⟨_, hobject⟩ := exists_ok_of_faultOf hobject
    obtain ⟨_, hseverity⟩ := exists_ok_of_faultOf hseverity
    obtain ⟨_, hfunction⟩ := exists_ok_of_faultOf hfunction
    obtain ⟨_, horigin⟩ := exists_ok_of_faultOf horigin
    obtain ⟨_, hlocalName⟩ := exists_ok_of_faultOf hlocalName
    exact hnot _ _ _ _ _ _ hdialect hobject hseverity hfunction horigin hlocalName

/-- What counts for each field: the caller's own value, unless it is null, and else the one in the table. -/
def chosen (overrides table : List (String × Value)) : Given := fun f =>
  match overrides.lookup f.key with
  | none => table.lookup f.key
  | some .null => table.lookup f.key
  | some v => some v

theorem withFallback_ofEntries (overrides table : List (String × Value)) :
    (Given.ofEntries overrides).withFallback (Given.ofEntries table) = chosen overrides table := by
  funext f
  unfold Given.withFallback Given.ofEntries chosen
  cases overrides.lookup f.key with
  | none => rfl
  | some v => cases v <;> rfl

theorem checkOver_ofEntries (overrides table : List (String × Value)) :
    checkOver (.ofEntries overrides) table = (check (chosen overrides table)).mapError .faults := by
  rw [checkOver, withFallback_ofEntries]

theorem chosen_congr {overrides overrides' table table' : List (String × Value)}
    (hoverrides : ∀ f : Field, overrides'.lookup f.key = overrides.lookup f.key)
    (htable : ∀ f : Field, table'.lookup f.key = table.lookup f.key) :
    chosen overrides' table' = chosen overrides table := by
  funext f
  rw [chosen, chosen, hoverrides f, htable f]

end Settings

/-! ## Settings files -/

namespace SettingsTree

/-- The entry in a directory is the one that counts at another: it is there or above it, and no directory by the name of a
settings file, and in between there are at most such directories. -/
structure Nearest (tree : SettingsTree) (start near : Folder) (entry : SettingsEntry) : Prop where
  above : near <:+ start
  stands : tree near = some entry
  counts : entry ≠ .directory
  between : ∀ folder, near <:+ folder → folder <:+ start → folder ≠ near → ∀ e, tree folder = some e → e = .directory

theorem Nearest.nearest?_eq {tree : SettingsTree} {start near : Folder} {entry : SettingsEntry}
    (h : tree.Nearest start near entry) : tree.nearest? start = entry.found?.map (near, ·) := by
  induction start with
  | nil =>
    obtain rfl := List.suffix_nil.1 h.above
    rw [nearest?, find?, h.stands, Option.bind_some]
  | cons name parent ih =>
    rw [nearest?]
    rcases List.suffix_cons_iff.1 h.above with rfl | habove
    · rw [find?, h.stands, Option.bind_some]
      cases entry with
      | directory => exact absurd rfl h.counts
      | _ => rfl
    · have hne : name :: parent ≠ near := by
        rintro rfl
        exact absurd habove.length_le (by simp)
      have hnone : tree.find? (name :: parent) = none := by
        rw [find?, Option.bind_eq_none_iff]
        intro e he
        rw [h.between _ h.above List.suffix_rfl hne e he, SettingsEntry.found?]
      rw [hnone]
      refine ih ⟨habove, h.stands, h.counts, fun folder hnear hfolder => ?_⟩
      exact h.between folder hnear (hfolder.trans (List.suffix_cons name parent))

/-- What is farther up than the entry, or elsewhere, does not matter. -/
theorem Nearest.congr {tree tree' : SettingsTree} {start near : Folder} {entry : SettingsEntry}
    (h : tree.Nearest start near entry)
    (htree : ∀ folder, near <:+ folder → folder <:+ start → tree' folder = tree folder) :
    tree'.Nearest start near entry where
  above := h.above
  stands := (htree near List.suffix_rfl h.above).trans h.stands
  counts := h.counts
  between folder hnear hfolder hne e := by
    rw [htree folder hnear hfolder]
    exact h.between folder hnear hfolder hne e

end SettingsTree

namespace SettingsFile

/-- The entry of a table is a table, or it is missing and an empty table stands for it. -/
def Subtable (entries : List (String × Value)) (key : String) (table : List (String × Value)) : Prop :=
  entries.lookup key = some (.table table) ∨ entries.lookup key = none ∧ table = []

/-- The table of settings that a file gives, and how many warnings it causes. -/
inductive Gives : SettingsFile → List (String × Value) → Nat → Prop
  | decoded {entries tool table : List (String × Value)} : Subtable entries "tool" tool →
      Subtable tool "log_codemod" table → Gives (.decoded entries) table 0
  | malformed (reason : String) : Gives (.malformed reason) [] 1

theorem Subtable.entries?_eq {entries table : List (String × Value)} {key : String} (h : Subtable entries key table) :
    (Settings.entryOrEmpty key entries).entries? = some table := by
  rw [Settings.entryOrEmpty]
  rcases h with h | ⟨h, rfl⟩
  · rw [h]
    rfl
  · rw [h]
    rfl

theorem Gives.loadFile {file : SettingsFile} {table : List (String × Value)} {warnings : Nat}
    (h : file.Gives table warnings) (overrides : Settings.Given) (path : String) :
    (Settings.loadFile overrides path file).result = Settings.checkOver overrides table ∧
      (Settings.loadFile overrides path file).notices.countP (fun n => n.level = .warning) = warnings := by
  cases h with
  | malformed reason => exact ⟨rfl, rfl⟩
  | decoded htool htable =>
    rw [Settings.loadFile]
    simp only [htool.entries?_eq, Settings.loadSection, htable.entries?_eq]
    exact ⟨trivial, rfl⟩

end SettingsFile

/-! ## Loading -/

namespace Settings

section Load
variable {root : String} {tree : SettingsTree} {workingPath : String} {searchPath : Option String} {start near : Folder}
  {file : SettingsFile} (hstart : Folder.resolve? root (searchPath.getD workingPath) = some start)
  (hnear : tree.Nearest start near (.file file))
include hstart hnear

theorem load_eq (overrides : Given) :
    load root tree workingPath searchPath overrides = loadFile overrides (near.settingsPath root) file := by
  rw [load, hstart, Option.bind_some, hnear.nearest?_eq]
  rfl

theorem load_result {table : List (String × Value)} {warnings : Nat} (hgives : file.Gives table warnings)
    (overrides : List (String × Value)) :
    (load root tree workingPath searchPath (.ofEntries overrides)).result =
      (check (chosen overrides table)).mapError .faults := by
  rw [load_eq hstart hnear, (hgives.loadFile _ _).1, checkOver_ofEntries]

/-- Loading settles what counts: for each field the caller's own value, unless it is null, and else the one in the table
of the nearest file. Nothing else matters, neither other keys of the caller or of the table, nor any file farther up. -/
theorem load_precedence {table : List (String × Value)} {warnings : Nat} (hgives : file.Gives table warnings)
    (overrides : List (String × Value)) :
    let loaded := load root tree workingPath searchPath (.ofEntries overrides)
    Settles (chosen overrides table) loaded.result ∧
      loaded.notices.countP (fun n => n.level = .warning) = warnings ∧
      (∀ (tree' : SettingsTree) near' file' table' warnings' overrides', tree'.Nearest start near' (.file file') →
        file'.Gives table' warnings' → (∀ f : Field, overrides'.lookup f.key = overrides.lookup f.key) →
        (∀ f : Field, table'.lookup f.key = table.lookup f.key) →
        (load root tree' workingPath searchPath (.ofEntries overrides')).result = loaded.result) ∧
      ∀ tree' : SettingsTree, (∀ folder, near <:+ folder → folder <:+ start → tree' folder = tree folder) →
        load root tree' workingPath searchPath (.ofEntries overrides) = loaded := by
  intro loaded
  have hresult : loaded.result = (check (chosen overrides table)).mapError .faults :=
    load_result hstart hnear hgives overrides
  have hload : loaded = loadFile (.ofEntries overrides) (near.settingsPath root) file := load_eq hstart hnear _
  refine ⟨?_, ?_, fun tree' near' file' table' warnings' overrides' hnear' hgives' hoverrides htable => ?_,
    fun tree' htree => ?_⟩
  · rw [hresult]
    exact check_settles _
  · rw [hload]
    exact (hgives.loadFile _ _).2
  · rw [load_result hstart hnear' hgives', hresult, chosen_congr hoverrides htable]
  · rw [load_eq hstart (hnear.congr htree), hload]

end Load

/-- A package with a file of its own in a repository with another. Its dialect does not fit, and below it a directory goes
by the name of a settings file. -/
def packageTree : SettingsTree
  | [] => some (.file (.malformed "not well formed"))
  | ["packages"] => some (.file (.decoded [("tool", .table [("log_codemod", .table packageTable)])]))
  | ["web", "packages"] => some .directory
  | _ => none
where
  packageTable : List (String × Value) :=
    [("dialect", .text "flow"), ("import_source", .text "@app/logger"), ("strict", .boolean)]

theorem packageTree_nearest : packageTree.Nearest ["web", "packages"] ["packages"]
    (.file (.decoded [("tool", .table [("log_codemod", .table packageTree.packageTable)])])) where
  above := List.suffix_cons _ _
  stands := rfl
  counts := nofun
  between folder hnear hfolder hne e he := by
    rcases List.suffix_cons_iff.1 hfolder with rfl | hfolder
    · exact (Option.some.inj he).symm
    · exact absurd (hfolder.eq_of_length_le hnear.length_le) hne

/-- What a caller in the package gives. -/
def packageOverrides : List (String × Value) :=
  [("dialect", .text "TSX"), ("import_source", .null), ("verbose", .integer)]

/-- The caller's dialect masks the one that does not fit, and a null masks nothing. -/
theorem load_precedence_masked :
    let loaded := load "/repo" packageTree "" (some "packages/web") (.ofEntries packageOverrides)
    (∃ s, loaded.result = .ok s ∧ s.dialect = .tsx ∧ s.origin = "@app/logger" ∧ s.localName = none) ∧
      loaded.notices.countP (fun n => n.level = .warning) = 0 := by
  intro loaded
  have hstart : Folder.resolve? "/repo" ((some "packages/web").getD "") = some ["web", "packages"] := by decide
  obtain ⟨hsettles, hwarnings, -⟩ :=
    load_precedence hstart packageTree_nearest (.decoded (.inl rfl) (.inl rfl)) packageOverrides
  refine ⟨?_, hwarnings⟩
  obtain ⟨s, hresult, hholds⟩ := hsettles.exists_ok (by decide +kernel)
  obtain ⟨text, htext, hdialect⟩ : ∃ text, Value.text "TSX" = .text text ∧ dialectOfText? text = some s.dialect :=
    hholds .dialect
  obtain rfl := Value.text.inj htext
  have htsx : dialectOfText? "TSX" = some .tsx := by decide +kernel
  have horigin : Value.text "@app/logger" = .text s.origin := hholds .origin
  exact ⟨s, hresult, Option.some.inj (hdialect.symm.trans htsx), (Value.text.inj horigin).symm, hholds .localName⟩

end Settings
end CallRedirect
