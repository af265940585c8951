import CallRedirect.Proofs.EnsuredTwice
import CallRedirect.Proofs.Outcomes

/-! # Module names that read back

A declaration is printed with its module as a string literal, in which quotes, backslashes and control characters are
escaped. A declaration is read by taking the quotes off that literal, and the escapes stay. So a name without such
characters reads back, and no other name does: a declaration that was printed for it is not found again.

* `Text.unquoted_quoted_iff`: which texts read back.
* `Document.Item.Writes`: an item with the literal that is printed for a module.
* `Document.ensured_of_writes`: what the next request makes of a file with such an item.
* `Settings.origin_reads_back`: what the next run makes of it. -/

namespace CallRedirect
set_option autoImplicit false

/-! ## Texts -/

namespace Text

/-- The character stands in a string literal as it is. -/
def StandsAsIs (c : Char) : Prop := c ≠ '"' ∧ c ≠ '\\' ∧ 0x20 ≤ c.toNat

instance (c : Char) : Decidable (StandsAsIs c) := inferInstanceAs (Decidable (_ ∧ _))

/-- So does every character of the text. -/
def Plain (s : String) : Prop := ∀ c ∈ s.toList, StandsAsIs c

instance (s : String) : Decidable (Plain s) := List.decidableBAll StandsAsIs s.toList

theorem escaped_of_standsAsIs {c : Char} (h : StandsAsIs c) : escaped c = [c] := by
  unfold escaped
  split
  iterate 7 exact absurd h (by decide)
  rw [if_neg (Nat.not_lt.2 h.2.2)]

theorem two_le_length_escaped {c : Char} (h : ¬ StandsAsIs c) : 2 ≤ (escaped c).length := by
  unfold escaped
  split
  iterate 7 exact Nat.le_refl 2
  next hquote hbackslash _ _ _ _ _ =>
    have hcontrol : c.toNat < 0x20 := by
      by_contra hle
      exact h ⟨hquote, hbackslash, Nat.not_lt.1 hle⟩
    rw [if_pos hcontrol]
    simp

theorem flatMap_escaped_eq_iff (cs : List Char) : cs.flatMap escaped = cs ↔ ∀ c ∈ cs, StandsAsIs c := by
  have hlength (cs : List Char) : cs.length ≤ (cs.flatMap escaped).length := by
    induction cs with
    | nil => exact Nat.le_refl 0
    | cons c cs ih =>
      have hone : 1 ≤ (escaped c).length := by
        by_cases hc : StandsAsIs c
        · simp [escaped_of_standsAsIs hc]
        · exact Nat.le_of_succ_le (two_le_length_escaped hc)
      simp only [List.flatMap_cons, List.length_append, List.length_cons]
      omega
  induction cs with
  | nil => simp
  | cons c cs ih =>
    rw [List.flatMap_cons]
    by_cases hc : StandsAsIs c
    · simp [escaped_of_standsAsIs hc, hc, ih]
    · refine iff_of_false (fun heq => ?_) fun h => hc (h c List.mem_cons_self)
      -- an escape is longer than what it stands for, and nothing gets shorter
      have hlonger := congrArg List.length heq
      have htwo := two_le_length_escaped hc
      have hrest := hlength cs
      simp only [List.length_append, List.length_cons] at hlonger
      omega

theorem unquoted_quoted (s : String) : unquoted (quoted s) = String.ofList (s.toList.flatMap escaped) := by
  simp [unquoted, quoted, unquotedChars]

/-- A text reads back from its literal if all of its characters stand there as they are, and only then. -/
theorem unquoted_quoted_iff (s : String) : unquoted (quoted s) = s ↔ Plain s := by
  rw [unquoted_quoted, Plain, ← flatMap_escaped_eq_iff]
  constructor
  · intro h
    simpa using congrArg String.toList h
  · intro h
    rw [h, String.ofList_toList]

end Text

/-! ## Items -/

namespace Document

/-- The item is a declaration that imports a name as a value and has room for others, and its module is spelled by the
literal that is printed for a given one. -/
def Item.Writes (src : Bytes) (r : Request) (i : Item) : Prop :=
  (i.node.child? "source").map (Node.text src) = some (Text.quoted r.origin) ∧
    ∃ decl, i.import? src = some decl ∧ decl.typeOnly = false ∧ decl.isStarForm = false ∧ decl.imports r.name = true

section Writes
variable {src : Bytes} {root : Node} {r : Request} {before after : List Item} {i : Item}

/-- The declaration has the module that its literal reads back as. -/
theorem Item.origin_of_writes {decl : ImportDecl}
    (hsource : (i.node.child? "source").map (Node.text src) = some (Text.quoted r.origin))
    (hdecl : i.import? src = some decl) : decl.origin = Text.unquoted (Text.quoted r.origin) := by
  obtain ⟨n, hn, htext⟩ := Option.map_eq_some_iff.1 hsource
  rw [Item.import?] at hdecl
  split at hdecl
  · rw [ImportDecl.ofNode?, hn] at hdecl
    split at hdecl
    · cases hdecl
    · obtain rfl := Option.some.inj hdecl
      rw [← htext]
  · cases hdecl

/-- Among items that import nothing from the module, the one item is found just if the module reads back. -/
theorem valueImports_of_writes {decl : ImportDecl} (hitems : items root = before ++ i :: after)
    (hothers : ∀ j ∈ before ++ after, j.valueImport? src r.origin = none) (hdecl : i.import? src = some decl)
    (hvalue : decl.typeOnly = false) :
    valueImports src root r.origin = if decl.origin = r.origin then [(i, decl)] else [] := by
  have hnil (js : List Item) (h : ∀ j ∈ js, j.valueImport? src r.origin = none) :
      js.filterMap (fun j => (j.valueImport? src r.origin).map fun decl => (j, decl)) = [] := by
    rw [List.filterMap_eq_nil_iff]
    intro j hj
    rw [h j hj, Option.map_none]
  rw [valueImports, hitems, List.filterMap_append, hnil before fun j hj => hothers j (List.mem_append_left after hj),
    List.filterMap_cons, hnil after fun j hj => hothers j (List.mem_append_right before hj), Item.valueImport?, hdecl]
  by_cases horigin : decl.origin = r.origin <;> simp [Option.filter, horigin, hvalue]

/-- In a file with one such item the next request finds the name, or it puts in a second declaration. -/
theorem ensured_of_writes (hitems : items root = before ++ i :: after) (hwrites : i.Writes src r)
    (hothers : ∀ j ∈ before ++ after, j.valueImport? src r.origin = none) :
    (ofItems src root).ensured r =
      if Text.Plain r.origin then .ok (false, ofItems src root)
      else .ok (true, (ofItems src root).withImport r) := by
  obtain ⟨hsource, decl, hdecl, hvalue, hstar, himports⟩ := hwrites
  have horigin : decl.origin = r.origin ↔ Text.Plain r.origin := by
    rw [Item.origin_of_writes hsource hdecl]
    exact Text.unquoted_quoted_iff r.origin
  have hfound := valueImports_of_writes hitems hothers hdecl hvalue
  rw [valueImports_eq] at hfound
  rw [ensured, valueImportsFrom_ofItems]
  split at hfound
  · next hread =>
    obtain ⟨p, hp, hpair⟩ := List.map_eq_singleton_iff.1 hfound
    obtain rfl : p.2 = decl := (Prod.mk.inj hpair).2
    rw [if_pos (horigin.1 hread), hp]
    simp [hstar, himports]
  · next hread =>
    rw [if_neg (mt horigin.2 hread), List.map_eq_nil_iff.1 hfound]
    rfl

theorem imports_withImport (r : Request) (d : Document) :
    ∃ n, (d.withImport r).imports = d.imports ++ [(n, r.declaration)] := by
  obtain ⟨n, hgains⟩ := Session.gains_insertImport r { document := d }
  rw [Session.document_insertImport] at hgains
  exact ⟨n, hgains.imports⟩

end Writes

end Document

/-! ## The next run -/

namespace Settings

/-- The module of the settings reads back from the literal that is printed for it, exactly if none of its characters is
escaped there. In a file with a declaration of that literal that imports the function, and no other from the module, the
declaration is then found and no import changes; else a run that redirects calls puts in a second declaration of that
module. -/
theorem origin_reads_back {given : Given} {s : Settings} (hs : check given = .ok s) :
    (Text.unquoted (Text.quoted s.origin) = s.origin ↔ Text.Plain s.origin) ∧
      ∀ (file : SourceText) (before after : List Document.Item) (i : Document.Item), file.root.firstFaulty? = none →
        file.root.WellFormed file.code → Document.items file.root = before ++ i :: after →
        i.Writes (Bytes.ofString file.code) s.request →
        (∀ j ∈ before ++ after, j.valueImport? (Bytes.ofString file.code) s.origin = none) →
        ∃ o, (s.run file).result = .ok o ∧
          if Text.Plain s.origin then o.importChanged = false
          else 0 < o.redirected → o.importChanged = true ∧
            ∃ p n, s.process (.ofItems (Bytes.ofString file.code) file.root) = .ok p ∧
              p.session.document.render = .ok o.code ∧
              p.session.document.imports =
                (Document.ofItems (Bytes.ofString file.code) file.root).imports ++ [(n, s.request.declaration)] := by
  refine ⟨Text.unquoted_quoted_iff s.origin, fun file before after i hfault hroot hitems hwrites hothers => ?_⟩
  have hensured : (Document.ofItems (Bytes.ofString file.code) file.root).ensured s.request =
      if Text.Plain s.origin then _ else _ := Document.ensured_of_writes hitems hwrites hothers
  have hwidth : ∀ c ∈ CallSite.all (Bytes.ofString file.code) s.target file.root, c.callee.start < c.callee.stop :=
    fun c hc => CallSite.callee_width hroot (check_names hs).2.1 hc
  by_cases hnone : Session.ambientCalls (.ofItems (Bytes.ofString file.code) file.root) s.target = []
  · obtain ⟨o, ho, hredirected, -, hchanged⟩ := run_of_settled hfault hnone file.path
    have himport : o.importChanged = false := by simpa [Outcome.changed, hredirected] using hchanged
    refine ⟨o, ho, ?_⟩
    split
    · exact himport
    · intro hpos
      omega
  · have hrun := run_of_ambient hfault hroot hwidth hnone
    have hprocess := process_of_ambient hroot hwidth hnone
    rw [hensured] at hrun hprocess
    split
    · next hplain =>
      rw [if_pos hplain] at hrun
      obtain ⟨o, ho, -, hchanged⟩ := hrun
      exact ⟨o, ho, hchanged⟩
    · next hplain =>
      rw [if_neg hplain] at hrun hprocess
      obtain ⟨o, ho, -, hchanged⟩ := hrun
      obtain ⟨p, hp, hpos, -, hdocument⟩ := hprocess
      obtain ⟨n, himports⟩ := Document.imports_withImport s.request
        (.ofItems (Bytes.ofString file.code) file.root)
      obtain ⟨p', -, hp', -, hcases⟩ := run_cases ho
      obtain rfl : p' = p := Except.ok.inj (hp'.symm.trans hp)
      refine ⟨o, ho, fun _ => ⟨hchanged, p', n, hp, ?_, ?_⟩⟩
      · rcases hcases with ⟨hzero, -⟩ | ⟨-, hrender, -⟩
        · omega
        · exact hrender
      · rw [hdocument, Document.imports_marked, himports]

/-- A file with an import of the function, whose module literal has a given width, and a call to redirect. -/
def originFile (literal : String) (width : Nat) : SourceText where
  code := "import \x7b logError \x7d from " ++ literal ++ ";\nconsole.error(e);\n"
  root :=
    ⟨"program", true, false, 0, width + 45, none,
      [⟨"import_statement", true, false, 0, width + 26, none,
          [⟨"import_clause", true, false, 7, 19, none,
            [⟨"named_imports", true, false, 7, 19, none,
              [⟨"import_specifier", true, false, 9, 17, none,
                [⟨"identifier", true, false, 9, 17, some "name", []⟩]⟩]⟩]⟩,
            ⟨"string", true, false, 25, width + 25, some "source", []⟩]⟩,
        ⟨"expression_statement", true, false, width + 27, width + 44, none,
          [Session.consoleCall (width + 27) (width + 43)
            [⟨"identifier", true, false, width + 41, width + 42, none, []⟩]]⟩]⟩

theorem origin_reads_back_plain :
    Text.unquoted (Text.quoted "src/lib.logger") = "src/lib.logger" ∧
      ∃ o, (run {} (originFile "\"src/lib.logger\"" 16)).result = .ok o ∧ o.importChanged = false := by
  have hplain : Text.Plain "src/lib.logger" := by decide
  obtain ⟨hread, hruns⟩ := @origin_reads_back Given.empty {} (by decide +kernel)
  obtain ⟨o, ho, hchanged⟩ := hruns (originFile "\"src/lib.logger\"" 16) [] _ _ (by decide +kernel) (by decide +kernel)
    rfl ⟨by decide +kernel, ⟨"src/lib.logger", [⟨.named, some "logError", none, false⟩], false, none⟩, by decide +kernel⟩
    (by decide +kernel)
  rw [if_pos hplain] at hchanged
  exact ⟨hread.2 hplain, o, ho, hchanged⟩

/-- A module whose name has a quote in it: its own declaration is not found, and it is imported twice. -/
theorem run_imports_twice :
    check (Given.empty.set .origin (.text "we\"ird")) = .ok { origin := "we\"ird" } ∧
      Text.quoted "we\"ird" = "\"we\\\"ird\"" ∧ Text.unquoted (Text.quoted "we\"ird") ≠ "we\"ird" ∧
      (run { origin := "we\"ird" } (originFile "\"we\\\"ird\"" 9)).result.toOption.map Outcome.code =
        some ("import \x7b logError \x7d from \"we\\\"ird\";\nimport \x7b logError \x7d from \"we\\\"ird\";\n" ++
          "logError(e);\n") := by
  refine ⟨by decide +kernel, by decide +kernel, by decide +kernel, by decide +kernel⟩

end Settings
end CallRedirect
