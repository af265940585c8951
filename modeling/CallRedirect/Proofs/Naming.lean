import CallRedirect.Proofs.Acceptance
import CallRedirect.Proofs.TracedCalls

/-! # Names in settings

The names in settings end up in the files: one of them is written in the place of every callee, and one or two of them in the
import.

* `Settings.check_spells`: what is accepted as a name, and where it is written.
* `Settings.check_accepts_lineFeed`: not every name that is accepted is a word. -/

namespace CallRedirect
set_option autoImplicit false

theorem Specifier.print_ofName (name : String) (localName : Option String) :
    (ofName name localName).print =
      match localName with
      | none => name
      | some l => if l = "" ∨ l = name then name else name ++ " as " ++ l := by
  cases localName with
  | none => simp [ofName, print, aliasClause, Text.orNone]
  | some l =>
    by_cases hname : l = name
    · simp [ofName, print, aliasClause, Text.orNone, hname]
    · have hlocal : (ofName name (some l)).localName = some l := if_neg fun h => hname (Option.some.inj h)
      have halias : (ofName name (some l)).aliasClause = if l = "" then "" else " as " ++ l := by
        rw [aliasClause, hlocal]
        simp [ofName, Ne.symm hname]
      show name ++ (ofName name (some l)).aliasClause = _
      rw [halias]
      split <;> simp_all [String.append_assoc]

namespace Settings

/-- The entry of the import is printed with the name of the function, and with the name that calls use if that is another. -/
theorem print_specifier {given : Given} {s : Settings} (hs : check given = .ok s) : s.request.specifier.print =
    if s.callee = s.function then s.function else s.function ++ " as " ++ s.callee := by
  have hne := check_localName hs
  rw [request, Request.specifier, callee]
  dsimp only
  cases hlocal : s.localName with
  | none => simp [Specifier.print_ofName]
  | some l =>
    have hl : l ≠ "" := fun heq => hne (hlocal.trans (congrArg some heq))
    simp [Specifier.print_ofName, hl]

theorem print_declaration (s : Settings) : s.request.declaration.print =
    "import \x7b " ++ s.request.specifier.print ++ " \x7d from " ++ Text.quoted s.origin ++ ";" := by
  show "import " ++ ("\x7b " ++ s.request.specifier.print ++ " \x7d" ++ " from ") ++ Text.quoted s.origin ++ "" ++ ";" = _
  calc _ = "import " ++ "\x7b " ++ s.request.specifier.print ++ (" \x7d" ++ " from ") ++ Text.quoted s.origin ++ ";" := by
        simp only [String.append_assoc, String.append_empty]
    _ = _ := rfl

/-- Every name in settings that were checked is a word, or a word and a line feed; it is a word exactly if there is no line
feed in it. Of what may be given in its place, exactly the texts of this kind are accepted. The name that calls use is
one of these names, and it is what a run writes in the place of every callee. The new import has one entry, with one or two
of the names. -/
theorem check_spells {given : Given} {s : Settings} (hs : check given = .ok s) :
    (∀ name ∈ s.names, Text.IsWordOrLine name ∧ (Text.IsWord name ↔ '\n' ∉ name.toList)) ∧
      (∀ field ∈ nameFields, ∀ text,
        (∃ s', check (given.set field (.text text)) = .ok s') ↔ Text.IsWordOrLine text) ∧
      s.callee ∈ s.names ∧
      s.request.specifier.print = (if s.callee = s.function then s.function else s.function ++ " as " ++ s.callee) ∧
      s.request.declaration.print =
        "import \x7b " ++ s.request.specifier.print ++ " \x7d from " ++ Text.quoted s.origin ++ ";" ∧
      ∀ (file : SourceText) (o : Outcome), (s.run file).result = .ok o → file.root.WellFormed file.code →
        (∀ c ∈ CallSite.all (Bytes.ofString file.code) s.target file.root, c.Proper) →
        ∃ cuts, Bytes.ofString o.code = (Bytes.ofString file.code).edited 0 (Bytes.ofString file.code).length cuts ∧
          Document.Rewritten (Bytes.ofString file.code) file.root
            ((s.calls file).map fun c => ⟨c.call.node.start, c.callee.stop, Bytes.ofString s.callee⟩)
            (s.mergedImport? file (s.calls file)) (Bytes.ofString s.request.declaration.print) cuts := by
  refine ⟨fun name hname => ?_, fun field hfield text => ?_, s.callee_mem_names, print_specifier hs, s.print_declaration,
    fun file o hrun hroot hproper => (rewritten_run hrun hroot hproper).2⟩
  · have hword := isWordOrLine_of_mem_names hs hname
    exact ⟨hword, hword.isWord_iff⟩
  · rw [exists_check_iff, faultsOf_set_iff (exists_check_iff.1 ⟨s, hs⟩), fault?_text_iff hfield]

/-- A file with one call. -/
def loneCall : SourceText where
  code := "console.error(e);\n"
  root :=
    ⟨"program", true, false, 0, 18, none,
      [⟨"expression_statement", true, false, 0, 17, none,
        [Session.consoleCall 0 16 [⟨"identifier", true, false, 14, 15, none, []⟩]]⟩]⟩

/-- Settings whose names have signs in them. -/
def signs : Settings := { function := "$log_error", localName := some "_le" }

theorem check_spells_signs :
    check ((Given.empty.set .function (.text "$log_error")).set .localName (.text "_le")) = .ok signs ∧
      Text.IsWord signs.callee ∧ signs.request.specifier.print = "$log_error as _le" ∧
      ∃ (o : Outcome) (cuts : List Patch), (signs.run loneCall).result = .ok o ∧
        o.code = "import \x7b $log_error as _le \x7d from \"src/lib.logger\";\n_le(e);\n" ∧
        Document.Rewritten (Bytes.ofString loneCall.code) loneCall.root [⟨0, 13, Bytes.ofString "_le"⟩] none
          (Bytes.ofString signs.request.declaration.print) cuts := by
  have hs : check ((Given.empty.set .function (.text "$log_error")).set .localName (.text "_le")) = .ok signs := by
    decide +kernel
  obtain ⟨hnames, -, hcallee, hentry, -, hwritten⟩ := check_spells hs
  refine ⟨hs, (hnames _ hcallee).2.2 (by decide), hentry, ?_⟩
  have hcode : (signs.run loneCall).result.toOption.map Outcome.code =
      some "import \x7b $log_error as _le \x7d from \"src/lib.logger\";\n_le(e);\n" := by
    decide +kernel
  have hcalls : ((signs.calls loneCall).map fun c =>
      (⟨c.call.node.start, c.callee.stop, Bytes.ofString signs.callee⟩ : Patch)) = [⟨0, 13, Bytes.ofString "_le"⟩] := by
    decide +kernel
  have hmerged : signs.mergedImport? loneCall (signs.calls loneCall) = none := by decide +kernel
  cases hrun : (signs.run loneCall).result with
  | error e =>
    rw [hrun] at hcode
    cases hcode
  | ok o =>
    rw [hrun] at hcode
    obtain ⟨cuts, -, hrewritten⟩ := hwritten loneCall o hrun (by decide +kernel) (by decide +kernel)
    rw [hcalls, hmerged] at hrewritten
    exact ⟨o, cuts, rfl, Option.some.inj hcode, hrewritten⟩

/-- A function name with a line feed behind it is accepted, and it is written as it is in the import and in the call. -/
theorem check_accepts_lineFeed :
    check (Given.empty.set .function (.text "logError\n")) = .ok { function := "logError\n" } ∧
      ¬ Text.IsWord "logError\n" ∧
      (run { function := "logError\n" } loneCall).result.toOption.map Outcome.code =
        some "import \x7b logError\n \x7d from \"src/lib.logger\";\nlogError\n(e);\n" := by
  refine ⟨by decide +kernel, fun hword => ?_, by decide +kernel⟩
  exact hword.lineFeed_not_mem (by decide)

end Settings
end CallRedirect
