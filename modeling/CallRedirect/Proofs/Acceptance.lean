import CallRedirect.Proofs.Precedence

/-! # What is accepted as a name

A text that is accepted as a name is a word or a word and a line feed, and every such text is accepted.

* `Text.IsWord`: a name from its first character to its last.
* `Text.isIdentifier_iff`: the texts that are accepted.
* `Settings.faultsOf_set_iff`: the fields are checked one by one.
* `Settings.isWordOrLine_of_mem_names`: the names in settings that were checked. -/

namespace CallRedirect
set_option autoImplicit false

/-! ## Words -/

namespace Text

/-- A letter, an underscore or a dollar sign. -/
def NameStart (c : Char) : Prop := ('A' ≤ c ∧ c ≤ 'Z') ∨ ('a' ≤ c ∧ c ≤ 'z') ∨ c = '_' ∨ c = '$'

def NamePart (c : Char) : Prop := NameStart c ∨ ('0' ≤ c ∧ c ≤ '9')

/-- The whole text is one name. -/
def IsWord (s : String) : Prop := ∃ c cs, s.toList = c :: cs ∧ NameStart c ∧ ∀ d ∈ cs, NamePart d

/-- The text is a name, perhaps with a line feed behind it. -/
def IsWordOrLine (s : String) : Prop := ∃ word, IsWord word ∧ (s = word ∨ s = word ++ "\n")

theorem isNameStart_iff {c : Char} : isNameStart c = true ↔ NameStart c := by
  have halpha : c.isAlpha = (c.isUpper || c.isLower) := rfl
  have hupper : c.isUpper = true ↔ 'A' ≤ c ∧ c ≤ 'Z' := decide_eq_true_iff
  have hlower : c.isLower = true ↔ 'a' ≤ c ∧ c ≤ 'z' :=
    Bool.and_eq_true_iff.trans (and_congr decide_eq_true_iff decide_eq_true_iff)
  simp [isNameStart, NameStart, halpha, hupper, hlower, or_assoc]

theorem isNamePart_iff {c : Char} : isNamePart c = true ↔ NamePart c := by
  have hdigit : c.isDigit = true ↔ '0' ≤ c ∧ c ≤ '9' :=
    Bool.and_eq_true_iff.trans (and_congr decide_eq_true_iff decide_eq_true_iff)
  simp [isNamePart, NamePart, isNameStart_iff, hdigit]

theorem isName_iff {s : String} : isName s.toList = true ↔ IsWord s := by
  rw [IsWord]
  cases h : s.toList with
  | nil => simp [isName]
  | cons c cs => simp [isName, isNameStart_iff, isNamePart_iff]

theorem IsWord.namePart {s : String} (h : IsWord s) {c : Char} (hc : c ∈ s.toList) : isNamePart c = true := by
  obtain ⟨d, cs, hs, hd, hcs⟩ := h
  rw [hs, List.mem_cons] at hc
  rcases hc with rfl | hc
  · exact isNamePart_iff.2 (.inl hd)
  · exact isNamePart_iff.2 (hcs c hc)

theorem IsWord.lineFeed_not_mem {s : String} (h : IsWord s) : '\n' ∉ s.toList := fun hmem =>
  absurd (h.namePart hmem) (by decide)

theorem IsWordOrLine.bracket_not_mem {s : String} (h : IsWordOrLine s) : '[' ∉ s.toList := by
  obtain ⟨word, hword, rfl | rfl⟩ := h
  · exact fun hmem => absurd (hword.namePart hmem) (by decide)
  · rw [String.toList_append, List.mem_append]
    rintro (hmem | hmem)
    · exact absurd (hword.namePart hmem) (by decide)
    · exact absurd hmem (by decide)

theorem withoutLineEnd_concat (cs : List Char) : withoutLineEnd (cs ++ ['\n']) = cs := by
  simp [withoutLineEnd]

theorem withoutLineEnd_of_not_mem {cs : List Char} (h : '\n' ∉ cs) : withoutLineEnd cs = cs := by
  rw [withoutLineEnd, if_neg]
  intro hlast
  exact h (List.mem_of_getLast? (beq_iff_eq.1 hlast))

theorem IsWordOrLine.ne_empty {s : String} (h : IsWordOrLine s) : s ≠ "" := by
  rintro rfl
  obtain ⟨word, ⟨c, cs, hword, -⟩, heq⟩ := h
  have hlength : 0 < word.toList.length := by simp [hword]
  rcases heq with heq | heq
  · simp [← heq] at hlength
  · simpa using congrArg String.toList heq

theorem isIdentifier_iff {s : String} : isIdentifier s = true ↔ IsWordOrLine s := by
  rw [isIdentifier]
  constructor
  · intro h
    by_cases hlast : s.toList.getLast? = some '\n'
    · obtain ⟨cs, hcs⟩ := List.getLast?_eq_some_iff.1 hlast
      rw [hcs, withoutLineEnd_concat] at h
      refine ⟨String.ofList cs, isName_iff.1 (by rwa [String.toList_ofList]), .inr ?_⟩
      rw [← String.toList_inj, String.toList_append, String.toList_ofList, hcs]
      rfl
    · rw [withoutLineEnd, if_neg (by simpa using hlast)] at h
      exact ⟨s, isName_iff.1 h, .inl rfl⟩
  · rintro ⟨word, hword, rfl | rfl⟩
    · rw [withoutLineEnd_of_not_mem hword.lineFeed_not_mem]
      exact isName_iff.2 hword
    · rw [String.toList_append]
      exact (withoutLineEnd_concat word.toList).symm ▸ isName_iff.2 hword

/-- Of the texts that are accepted as names, those without a line feed are words. -/
theorem IsWordOrLine.isWord_iff {s : String} (h : IsWordOrLine s) : IsWord s ↔ '\n' ∉ s.toList := by
  refine ⟨IsWord.lineFeed_not_mem, fun hnot => ?_⟩
  obtain ⟨word, hword, rfl | rfl⟩ := h
  · exact hword
  · exact absurd (by simp) hnot

end Text

namespace Settings

/-! ## Acceptance -/

/-- The fields that hold names. -/
def nameFields : List Field := [.object, .severity, .function, .localName]

/-- The names in settings. -/
def names (s : Settings) : List String := s.object :: s.severity :: s.function :: s.localName.toList

theorem settles_of_check {given : Given} {s : Settings} (h : check given = .ok s) : Settles given (.ok s) := by
  have hsettles := check_settles given
  rw [h] at hsettles
  exact hsettles

theorem exists_check_iff {given : Given} : (∃ s, check given = .ok s) ↔ faultsOf given = [] := by
  constructor
  · rintro ⟨s, h⟩
    cases settles_of_check h with
    | accepted hfaults => exact hfaults
  · intro hfaults
    cases h : check given with
    | ok s => exact ⟨s, rfl⟩
    | error faults =>
      have hsettles := check_settles given
      rw [h] at hsettles
      obtain ⟨s, hs, -⟩ := hsettles.exists_ok hfaults
      cases hs

theorem faultsOf_eq_nil_iff {given : Given} : faultsOf given = [] ↔ ∀ f, faultAt given f = none := by
  simp only [faultsOf, List.flatMap_eq_nil_iff, Option.toList_eq_nil_iff]
  refine ⟨fun h f => h f ?_, fun h f _ => h f⟩
  cases f <;> simp [Field.all]

/-- Where all values fit, another value for one field is accepted if it fits that field. -/
theorem faultsOf_set_iff {given : Given} (h : faultsOf given = []) (field : Field) (v : Value) :
    faultsOf (given.set field v) = [] ↔ field.fault? v = none := by
  rw [faultsOf_eq_nil_iff] at h ⊢
  constructor
  · intro hset
    simpa [faultAt, Given.set] using hset field
  · intro hnone f
    by_cases hf : f = field
    · simp [faultAt, Given.set, hf, hnone]
    · simpa [faultAt, Given.set, hf] using h f

theorem fault?_text_iff {f : Field} (hf : f ∈ nameFields) (text : String) :
    f.fault? (.text text) = none ↔ Text.IsWordOrLine text := by
  have hfault : f.fault? (.text text) = if Text.isIdentifier text then none else some (.notAnIdentifier text) := by
    cases f with
    | dialect => exact absurd hf (by decide)
    | origin => exact absurd hf (by decide)
    | _ => rfl
  rw [hfault, ← Text.isIdentifier_iff]
  split <;> simp_all

/-! ## The names of settings that are accepted -/

section Accepted
variable {given : Given} {s : Settings} (hs : check given = .ok s)
include hs

theorem isWordOrLine_of_text {f : Field} (hf : f ∈ nameFields) {name : String} (hname : given f = some (.text name)) :
    Text.IsWordOrLine name := by
  have hfault := faultsOf_eq_nil_iff.1 (exists_check_iff.1 ⟨s, hs⟩) f
  rw [faultAt, hname, Option.bind_some, Option.map_eq_none_iff] at hfault
  exact (fault?_text_iff hf name).1 hfault

/-- A name in settings that were checked was given as a text, or it is the default. -/
theorem isWordOrLine_of_holds {f : Field} (hf : f ∈ nameFields) {name fallback : String}
    (hfallback : Text.isIdentifier fallback = true) (hdefault : f.Holds none s → name = fallback)
    (htext : ∀ v, f.Holds (some v) s → v = .text name) : Text.IsWordOrLine name := by
  cases settles_of_check hs with
  | accepted _ hholds =>
    have h := hholds f
    cases hv : given f with
    | none =>
      rw [hv] at h
      exact hdefault h ▸ Text.isIdentifier_iff.1 hfallback
    | some v =>
      rw [hv] at h
      exact isWordOrLine_of_text hs hf (hv.trans (congrArg some (htext v h)))

theorem isWordOrLine_of_mem_names {name : String} (hname : name ∈ s.names) : Text.IsWordOrLine name := by
  simp only [names, List.mem_cons, Option.mem_toList] at hname
  rcases hname with rfl | rfl | rfl | hlocal
  · exact @isWordOrLine_of_holds _ _ hs .object (by decide) _ "console" (by decide) id fun _ h => h
  · exact @isWordOrLine_of_holds _ _ hs .severity (by decide) _ "error" (by decide) id fun _ h => h
  · exact @isWordOrLine_of_holds _ _ hs .function (by decide) _ "logError" (by decide) id fun _ h => h
  · refine @isWordOrLine_of_holds _ _ hs .localName (by decide) _ "logError" (by decide) ?_ ?_
    · intro h
      cases hlocal.symm.trans h
    · intro v h
      have hv : v = (s.localName.map Value.text).getD .null := h
      rw [hv, hlocal]
      rfl

end Accepted

theorem callee_mem_names (s : Settings) : s.callee ∈ s.names := by
  rw [callee, names]
  split
  · simp
  · next l hl => split <;> simp [hl]

/-- The names in settings that were checked are not empty. -/
theorem check_names {given : Given} {s : Settings} (h : check given = .ok s) :
    s.object ≠ "" ∧ s.severity ≠ "" ∧ s.function ≠ "" := by
  have hne {name : String} (hname : name ∈ s.names) : name ≠ "" := (isWordOrLine_of_mem_names h hname).ne_empty
  exact ⟨hne (by simp [names]), hne (by simp [names]), hne (by simp [names])⟩

/-- Settings that were checked give no empty local name. -/
theorem check_localName {given : Given} {s : Settings} (h : check given = .ok s) : s.localName ≠ some "" := by
  intro hlocal
  exact (isWordOrLine_of_mem_names h (by simp [names, hlocal])).ne_empty rfl

/-- Settings that were checked give the redirected calls a name. -/
theorem check_callee {given : Given} {s : Settings} (h : check given = .ok s) : s.callee ≠ "" :=
  (isWordOrLine_of_mem_names h s.callee_mem_names).ne_empty

end Settings
end CallRedirect
