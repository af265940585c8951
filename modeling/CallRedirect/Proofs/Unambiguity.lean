import CallRedirect.Proofs.Supply

/-! # What a printed import says

The print of an import declaration tells all that is in it, although `type`, `as` and `from` are names as well as words
of the print. Each part of the print ends at a character that it does not hold itself: names end at a comma or a blank,
entries at a comma, the list of entries at its closing brace, and the literal of the module at a quote that no backslash
escapes. So two prints that agree as a whole agree part by part.

* `Text.free_append_inj`, `Text.joined_append_inj`: parts that end at given characters, and lists of them.
* `Text.quoted_append_inj`: a string literal ends where its text ends.
* `Specifier.content_of_print`: an entry is told by its words.
* `ImportDecl.boundText_inj`: the clauses are told from what is behind them.
* `ImportDecl.print_unambiguous`: equal prints have equal contents. -/

namespace CallRedirect
set_option autoImplicit false

namespace Text

/-! ## Parts of a text -/

/-- The characters are none, or they start with one of the given ones. -/
def StartsIn (stops cs : List Char) : Prop := ∀ c ∈ cs.head?, c ∈ stops

theorem startsIn_of_head? {stops cs : List Char} {c : Char} (h : cs.head? = some c) (hc : c ∈ stops) :
    StartsIn stops cs := by
  intro d hd
  rw [h] at hd
  exact Option.mem_some.1 hd ▸ hc

/-- Two parts that hold none of the given characters agree, if each goes up to the first of them. -/
theorem free_append_inj {stops a b x y : List Char} (ha : ∀ c ∈ a, c ∉ stops) (hb : ∀ c ∈ b, c ∉ stops)
    (hx : StartsIn stops x) (hy : StartsIn stops y) (h : a ++ x = b ++ y) : a = b ∧ x = y := by
  induction a generalizing b with
  | nil =>
    cases b with
    | nil => exact ⟨rfl, h⟩
    | cons d b =>
      rw [List.nil_append, List.cons_append] at h
      exact absurd (hx d (by rw [h]; rfl)) (hb d List.mem_cons_self)
  | cons c a ih =>
    cases b with
    | nil =>
      rw [List.nil_append, List.cons_append] at h
      exact absurd (hy c (by rw [← h]; rfl)) (ha c List.mem_cons_self)
    | cons d b =>
      obtain ⟨rfl, hrest⟩ := List.cons.inj h
      obtain ⟨rfl, hxy⟩ := ih (fun e he => ha e (List.mem_cons_of_mem c he))
        (fun e he => hb e (List.mem_cons_of_mem c he)) hrest
      exact ⟨rfl, hxy⟩

theorem toList_joined_cons (sep s t : String) (rest : List String) :
    (joined sep (s :: t :: rest)).toList = s.toList ++ (sep.toList ++ (joined sep (t :: rest)).toList) := by
  rw [joined, String.toList_append, String.toList_append, List.append_assoc]

/-- Lists of parts agree, if any two parts do that go up to one of the given characters. The separator starts with such a
character, and what is behind the list with another one. -/
theorem joined_append_inj (stops : List Char) {sep : String} {c : Char} (hsep : sep.toList.head? = some c)
    (hc : c ∈ stops) {ss ts : List String} (hss : ss ≠ []) (hts : ts ≠ [])
    (hpart : ∀ s ∈ ss, ∀ t ∈ ts, ∀ u v, StartsIn stops u → StartsIn stops v → s.toList ++ u = t.toList ++ v →
      s = t ∧ u = v)
    {x y : List Char} (hx : StartsIn stops x) (hy : StartsIn stops y) (hxc : x.head? ≠ some c) (hyc : y.head? ≠ some c)
    (h : (joined sep ss).toList ++ x = (joined sep ts).toList ++ y) : ss = ts ∧ x = y := by
  have hhead (z : List Char) : (sep.toList ++ z).head? = some c := by
    rw [List.head?_append, hsep]
    rfl
  have hstarts (z : List Char) : StartsIn stops (sep.toList ++ z) := startsIn_of_head? (hhead z) hc
  induction ss generalizing ts with
  | nil => exact absurd rfl hss
  | cons s ss ih =>
    obtain ⟨t, ts, rfl⟩ := List.exists_cons_of_ne_nil hts
    have hst := hpart s List.mem_cons_self t List.mem_cons_self
    cases ss with
    | nil =>
      cases ts with
      | nil =>
        obtain ⟨rfl, hxy⟩ := hst x y hx hy h
        exact ⟨rfl, hxy⟩
      | cons t' ts =>
        rw [toList_joined_cons, List.append_assoc, List.append_assoc] at h
        obtain ⟨-, rfl⟩ := hst _ _ hx (hstarts _) h
        exact absurd (hhead _) hxc
    | cons s' ss =>
      rw [toList_joined_cons, List.append_assoc, List.append_assoc] at h
      cases ts with
      | nil =>
        obtain ⟨-, rfl⟩ := hst _ _ (hstarts _) hy h
        exact absurd (hhead _) hyc
      | cons t' ts =>
        rw [toList_joined_cons, List.append_assoc, List.append_assoc] at h
        obtain ⟨rfl, hrest⟩ := hst _ _ (hstarts _) (hstarts _) h
        obtain ⟨heq, hxy⟩ := ih (List.cons_ne_nil s' ss) (List.cons_ne_nil t' ts)
          (fun s hs t ht => hpart s (List.mem_cons_of_mem _ hs) t (List.mem_cons_of_mem _ ht))
          (List.append_cancel_left hrest)
        exact ⟨congrArg _ heq, hxy⟩

/-- A list of parts without the character that the separator starts with is told by its text. -/
theorem joined_inj {sep : String} {c : Char} (hsep : sep.toList.head? = some c) {ss ts : List String} (hss : ss ≠ [])
    (hts : ts ≠ []) (hs : ∀ s ∈ ss, c ∉ s.toList) (ht : ∀ t ∈ ts, c ∉ t.toList) (h : joined sep ss = joined sep ts) :
    ss = ts := by
  have hnone : StartsIn [c] [] := fun d hd => by cases hd
  have hfree {s : String} (hs : c ∉ s.toList) : ∀ d ∈ s.toList, d ∉ [c] := by
    rintro d hd hdc
    exact hs (List.mem_singleton.1 hdc ▸ hd)
  refine (joined_append_inj [c] hsep List.mem_cons_self hss hts (fun s hs' t ht' u v hu hv huv => ?_) hnone hnone
    nofun nofun (congrArg (fun s => s.toList ++ []) h)).1
  obtain ⟨hst, huv⟩ := free_append_inj (hfree (hs s hs')) (hfree (ht t ht')) hu hv huv
  exact ⟨String.toList_inj.1 hst, huv⟩

/-! ## String literals -/

/-- The number that a hexadecimal digit stands for. -/
def digitValue (c : Char) : Nat := if c.isDigit then c.toNat - 48 else c.toNat - 87

/-- The character that some characters behind a backslash stand for, and what is behind them. -/
def afterBackslash? : List Char → Option (Char × List Char)
  | [] => none
  | 'u' :: '0' :: '0' :: h :: l :: rest => some (Char.ofNat (16 * digitValue h + digitValue l), rest)
  | 'n' :: rest => some ('\n', rest)
  | 'r' :: rest => some ('\r', rest)
  | 't' :: rest => some ('\t', rest)
  | 'b' :: rest => some ('\x08', rest)
  | 'f' :: rest => some ('\x0c', rest)
  | c :: rest => some (c, rest)

/-- The first character that a part of a string literal stands for, and the part behind it. -/
def unescaped? : List Char → Option (Char × List Char)
  | [] => none
  | c :: rest => if c = '\\' then afterBackslash? rest else some (c, rest)

theorem unescaped?_escaped (c : Char) (rest : List Char) : unescaped? (escaped c ++ rest) = some (c, rest) := by
  have hdigit : ∀ n < 16, digitValue (Nat.digitChar n) = n := by decide
  unfold escaped
  split
  case h_8 hbackslash _ _ _ _ _ =>
    split
    · next hlow =>
      have hvalue : 16 * digitValue (Nat.digitChar (c.toNat / 16)) + digitValue (Nat.digitChar (c.toNat % 16)) =
          c.toNat := by
        rw [hdigit _ (by omega), hdigit _ (by omega)]
        omega
      simp only [List.cons_append, List.nil_append, unescaped?, if_true, afterBackslash?, hvalue, Char.ofNat_toNat]
    · exact if_neg hbackslash
  all_goals rfl

theorem escaped_append_inj {c d : Char} {x y : List Char} (h : escaped c ++ x = escaped d ++ y) : c = d ∧ x = y := by
  have hread := congrArg unescaped? h
  rw [unescaped?_escaped, unescaped?_escaped] at hread
  exact Prod.mk.inj (Option.some.inj hread)

theorem exists_head_escaped (c : Char) : ∃ e rest, escaped c = e :: rest ∧ e ≠ '"' := by
  unfold escaped
  split
  case h_8 hquote _ _ _ _ _ _ =>
    split
    · exact ⟨_, _, rfl, by decide⟩
    · exact ⟨c, [], rfl, hquote⟩
  all_goals exact ⟨_, _, rfl, by decide⟩

theorem flatMap_escaped_append_inj {cs ds x y : List Char}
    (h : cs.flatMap escaped ++ '"' :: x = ds.flatMap escaped ++ '"' :: y) : cs = ds ∧ x = y := by
  -- the quote at the end is not the start of any escape
  have hquote {d : Char} {w z : List Char} (h : '"' :: w = escaped d ++ z) : False := by
    obtain ⟨e, rest, he, hne⟩ := exists_head_escaped d
    rw [he] at h
    exact hne (List.cons.inj h).1.symm
  induction cs generalizing ds with
  | nil =>
    cases ds with
    | nil => exact ⟨rfl, (List.cons.inj h).2⟩
    | cons d ds =>
      rw [List.flatMap_cons, List.append_assoc] at h
      exact (hquote h).elim
  | cons c cs ih =>
    cases ds with
    | nil =>
      rw [List.flatMap_cons, List.append_assoc] at h
      exact (hquote h.symm).elim
    | cons d ds =>
      rw [List.flatMap_cons, List.flatMap_cons, List.append_assoc, List.append_assoc] at h
      obtain ⟨rfl, hrest⟩ := escaped_append_inj h
      obtain ⟨rfl, hxy⟩ := ih hrest
      exact ⟨rfl, hxy⟩

/-- A string literal ends where its text ends, whatever is behind it. -/
theorem quoted_append_inj {s t : String} {x y : List Char} (h : (quoted s).toList ++ x = (quoted t).toList ++ y) :
    s = t ∧ x = y := by
  simp only [quoted, String.toList_ofList, List.cons_append, List.append_assoc, List.nil_append, List.cons.injEq,
    true_and] at h
  obtain ⟨hst, hxy⟩ := flatMap_escaped_append_inj h
  exact ⟨String.toList_inj.1 hst, hxy⟩

/-! ## Names -/

theorem isNamePart_of_mem {cs : List Char} (h : isName cs = true) {c : Char} (hc : c ∈ cs) : isNamePart c = true := by
  cases cs with
  | nil => cases hc
  | cons d cs =>
    rw [isName, Bool.and_eq_true, List.all_eq_true] at h
    rcases List.mem_cons.1 hc with rfl | hc
    · rw [isNamePart, h.1, Bool.true_or]
    · exact h.2 c hc

theorem not_mem_of_isName {cs : List Char} (h : isName cs = true) {c : Char} (hc : isNamePart c = false) : c ∉ cs :=
  fun hmem => Bool.false_ne_true (hc.symm.trans (isNamePart_of_mem h hmem))

theorem mem_joined {sep : String} {ss : List String} {c : Char} (h : c ∈ (joined sep ss).toList) :
    c ∈ sep.toList ∨ ∃ s ∈ ss, c ∈ s.toList := by
  fun_induction joined sep ss with
  | case1 => cases h
  | case2 s => exact .inr ⟨s, List.mem_singleton_self s, h⟩
  | case3 s t rest ih =>
    rw [String.toList_append, String.toList_append, List.mem_append, List.mem_append] at h
    rcases h with (h | h) | h
    · exact .inr ⟨s, List.mem_cons_self, h⟩
    · exact .inl h
    · exact (ih h).imp_right fun ⟨u, hu, hc⟩ => ⟨u, List.mem_cons_of_mem s hu, hc⟩

end Text

/-! ## Entries -/

namespace Specifier

/-- The names that the entry is printed with are there, and they are names: the exported one and perhaps another of a
named entry, and the one that any other entry binds. -/
def isWellNamed (s : Specifier) : Bool :=
  match s.form with
  | .named => (s.imported.any fun n => Text.isName n.toList) && s.localName.all fun l => Text.isName l.toList
  | .default | .star => s.localName.any fun l => Text.isName l.toList

theorem names_of_named {s : Specifier} (hs : s.form = .named) (h : s.isWellNamed = true) :
    (∃ n, s.imported = some n ∧ Text.isName n.toList = true) ∧
      ∀ l, s.localName = some l → Text.isName l.toList = true := by
  rw [isWellNamed, hs, Bool.and_eq_true, Option.any_eq_true] at h
  refine ⟨h.1, fun l hl => ?_⟩
  rw [hl] at h
  exact h.2

theorem name_of_not_named {s : Specifier} (hs : s.form ≠ .named) (h : s.isWellNamed = true) :
    ∃ l, s.localName = some l ∧ Text.isName l.toList = true := by
  rw [isWellNamed] at h
  split at h
  · next hnamed => exact absurd hnamed hs
  · exact (Option.any_eq_true _ _).1 h
  · exact (Option.any_eq_true _ _).1 h

/-- What a named entry says: the exported name, the name it is bound to, and whether it is for a type. -/
def content (s : Specifier) : Option String × Option String × Bool := (s.imported, s.bound, s.typeOnly)

/-- The name that a named entry is printed with besides the exported one. -/
def alias? (s : Specifier) : Option String := s.localName.filter fun l => !(l.isEmpty || s.imported == some l)

/-- The words of a named entry. -/
def words (s : Specifier) : List String :=
  (if s.typeOnly then ["type"] else []) ++ Text.orNone s.imported :: (s.alias?.map fun l => ["as", l]).getD []

theorem words_ne_nil (s : Specifier) : s.words ≠ [] := by simp [words]

theorem aliasClause_eq (s : Specifier) : s.aliasClause = (s.alias?.map fun l => " as " ++ l).getD "" := by
  unfold aliasClause alias?
  cases s.localName with
  | none => rfl
  | some l => by_cases hl : (l.isEmpty || s.imported == some l) = true <;> simp [Option.filter, hl]

theorem print_eq_joined {s : Specifier} (h : s.form = .named) : s.print = Text.joined " " s.words := by
  rw [print, h, aliasClause_eq, words]
  cases s.alias? with
  | none => cases s.typeOnly <;> simp [Text.joined]
  | some l =>
    have hblank : " as " ++ l = " " ++ ("as " ++ l) := by
      rw [← String.append_assoc]
      rfl
    cases s.typeOnly <;> simp [Text.joined, String.append_assoc, hblank]

theorem bound_eq {s : Specifier} {n : String} (hn : s.imported = some n)
    (hl : ∀ l, s.localName = some l → Text.isName l.toList = true) : s.bound = some (s.alias?.getD n) := by
  unfold bound alias?
  cases hlocal : s.localName with
  | none => simp [hn]
  | some l =>
    have hne : l.isEmpty = false := by
      rw [Bool.eq_false_iff, Ne, String.isEmpty_iff]
      rintro rfl
      exact absurd (hl "" hlocal) (by decide)
    by_cases heq : n = l <;> simp [Option.filter, hne, hn, heq]

/-- How many words an entry has says which they are. -/
theorem content_of_words {s t : Specifier} (hs : s.form = .named) (ht : t.form = .named) (hsn : s.isWellNamed = true)
    (htn : t.isWellNamed = true) (h : s.words = t.words) : s.content = t.content := by
  obtain ⟨⟨m, hm, -⟩, hsl⟩ := names_of_named hs hsn
  obtain ⟨⟨n, hn, -⟩, htl⟩ := names_of_named ht htn
  rw [content, content, bound_eq hm hsl, bound_eq hn htl, hm, hn]
  rw [words, words, hm, hn, Text.orNone, Text.orNone] at h
  cases hst : s.typeOnly <;> cases htt : t.typeOnly <;> cases hsa : s.alias? <;> cases hta : t.alias? <;>
    simp_all

theorem isName_of_mem_words {s : Specifier} (hs : s.form = .named) (hsn : s.isWellNamed = true) {w : String}
    (hw : w ∈ s.words) : Text.isName w.toList = true := by
  obtain ⟨⟨n, hn, hname⟩, hl⟩ := names_of_named hs hsn
  rw [words, hn, List.mem_append, List.mem_cons] at hw
  rcases hw with hw | rfl | hw
  · split at hw
    · rw [List.mem_singleton.1 hw]
      decide
    · cases hw
  · exact hname
  · cases halias : s.alias? with
    | none =>
      rw [halias] at hw
      cases hw
    | some l =>
      have hlocal : s.localName = some l := (Option.filter_eq_some_iff.1 halias).1
      rw [halias, Option.map_some, Option.getD_some, List.mem_cons, List.mem_singleton] at hw
      rcases hw with rfl | rfl
      · decide
      · exact hl w hlocal

theorem not_mem_print {s : Specifier} (hs : s.form = .named) (hsn : s.isWellNamed = true) {c : Char}
    (hpart : Text.isNamePart c = false) (hblank : c ≠ ' ') : c ∉ s.print.toList := by
  intro hc
  rw [print_eq_joined hs] at hc
  rcases Text.mem_joined hc with hc | ⟨w, hw, hc⟩
  · exact hblank (List.mem_singleton.1 hc)
  · exact Text.not_mem_of_isName (isName_of_mem_words hs hsn hw) hpart hc

/-- The print of a named entry tells what it says. -/
theorem content_of_print {s t : Specifier} (hs : s.form = .named) (ht : t.form = .named) (hsn : s.isWellNamed = true)
    (htn : t.isWellNamed = true) (h : s.print = t.print) : s.content = t.content := by
  refine content_of_words hs ht hsn htn ?_
  rw [print_eq_joined hs, print_eq_joined ht] at h
  have hblank {s : Specifier} (hs : s.form = .named) (hsn : s.isWellNamed = true) : ∀ w ∈ s.words, ' ' ∉ w.toList :=
    fun w hw => Text.not_mem_of_isName (isName_of_mem_words hs hsn hw) (by decide)
  exact Text.joined_inj rfl s.words_ne_nil t.words_ne_nil (hblank hs hsn) (hblank ht htn) h

end Specifier

/-! ## Clauses -/

namespace ImportDecl

/-- The character may be the first one of a clause for entries of a form. -/
def leads : Specifier.Form → Char → Bool
  | .default, c => Text.isNameStart c
  | .star, c => c == '*'
  | .named, c => c == '\x7b'

theorem leads_unique {form form' : Specifier.Form} {c : Char} (h : leads form c = true) (h' : leads form' c = true) :
    form = form' := by
  have hstar : Text.isNameStart '*' = false := by decide
  have hbrace : Text.isNameStart '\x7b' = false := by decide
  cases form <;> cases form' <;> simp_all [leads]

/-- The text is a clause for entries of a form: a name, all exports under a name, or something in braces. -/
inductive IsClause : Specifier.Form → String → Prop
  | default {n : String} (hn : Text.isName n.toList = true) : IsClause .default n
  | star {n : String} (hn : Text.isName n.toList = true) : IsClause .star ("* as " ++ n)
  | named {inner : String} (hinner : '\x7d' ∉ inner.toList) : IsClause .named ("\x7b " ++ inner ++ " \x7d")

theorem IsClause.exists_head {form : Specifier.Form} {clause : String} (h : IsClause form clause) :
    ∃ c rest, clause.toList = c :: rest ∧ leads form c = true := by
  cases h with
  | default hn =>
    cases hclause : clause.toList with
    | nil =>
      rw [hclause] at hn
      cases hn
    | cons c rest =>
      rw [hclause, Text.isName, Bool.and_eq_true] at hn
      exact ⟨c, rest, rfl, hn.1⟩
  | star hn => exact ⟨'*', _, String.toList_append, rfl⟩
  | named hinner => exact ⟨'\x7b', _, by rw [String.append_assoc, String.toList_append]; rfl, rfl⟩

theorem name_append_inj {n n' : String} (hn : Text.isName n.toList = true) (hn' : Text.isName n'.toList = true)
    {u v : List Char} (hu : Text.StartsIn [',', ' '] u) (hv : Text.StartsIn [',', ' '] v)
    (h : n.toList ++ u = n'.toList ++ v) : n = n' ∧ u = v := by
  have hfree {n : String} (hn : Text.isName n.toList = true) : ∀ d ∈ n.toList, d ∉ [',', ' '] := by
    intro d hd hstop
    have hpart := Text.isNamePart_of_mem hn hd
    rcases List.mem_cons.1 hstop with rfl | hstop
    · cases hpart
    · rw [List.mem_singleton.1 hstop] at hpart
      cases hpart
  obtain ⟨hnn, huv⟩ := Text.free_append_inj (hfree hn) (hfree hn') hu hv h
  exact ⟨String.toList_inj.1 hnn, huv⟩

/-- What is in braces goes up to the closing one, with the blank before it. -/
theorem braced_append_inj {inner inner' : String} (hinner : '\x7d' ∉ inner.toList) (hinner' : '\x7d' ∉ inner'.toList)
    {u v : List Char}
    (h : ("\x7b " ++ inner ++ " \x7d").toList ++ u = ("\x7b " ++ inner' ++ " \x7d").toList ++ v) :
    inner = inner' ∧ u = v := by
  have hfree {inner : String} (hinner : '\x7d' ∉ inner.toList) : ∀ d ∈ inner.toList ++ [' '], d ∉ ['\x7d'] := by
    intro d hd hstop
    rw [List.mem_singleton.1 hstop, List.mem_append] at hd
    rcases hd with hd | hd
    · exact hinner hd
    · cases List.mem_singleton.1 hd
  have hbrace (z : List Char) : Text.StartsIn ['\x7d'] ('\x7d' :: z) := Text.startsIn_of_head? rfl List.mem_cons_self
  have hsplit (inner : String) (z : List Char) : ("\x7b " ++ inner ++ " \x7d").toList ++ z =
      "\x7b ".toList ++ ((inner.toList ++ [' ']) ++ '\x7d' :: z) := by
    simp
  rw [hsplit, hsplit] at h
  obtain ⟨hcc, huv⟩ := Text.free_append_inj (hfree hinner) (hfree hinner') (hbrace u) (hbrace v)
    (List.append_cancel_left h)
  exact ⟨String.toList_inj.1 (List.append_cancel_right hcc), (List.cons.inj huv).2⟩

/-- A clause ends at the comma or the blank behind it. -/
theorem IsClause.append_inj {form form' : Specifier.Form} {c c' : String} (h : IsClause form c) (h' : IsClause form' c')
    {u v : List Char} (hu : Text.StartsIn [',', ' '] u) (hv : Text.StartsIn [',', ' '] v)
    (heq : c.toList ++ u = c'.toList ++ v) : c = c' ∧ u = v := by
  obtain ⟨a, rest, ha, hlead⟩ := h.exists_head
  obtain ⟨a', rest', ha', hlead'⟩ := h'.exists_head
  have hsame : form = form' := by
    rw [ha, ha', List.cons_append, List.cons_append] at heq
    exact leads_unique hlead ((List.cons.inj heq).1 ▸ hlead')
  subst hsame
  cases h with
  | default hn =>
    cases h' with
    | default hn' => exact name_append_inj hn hn' hu hv heq
  | star hn =>
    cases h' with
    | star hn' =>
      rw [String.toList_append, String.toList_append, List.append_assoc, List.append_assoc] at heq
      obtain ⟨hnn, huv⟩ := name_append_inj hn hn' hu hv (List.append_cancel_left heq)
      exact ⟨congrArg _ hnn, huv⟩
  | named hinner =>
    cases h' with
    | named hinner' =>
      obtain ⟨rfl, huv⟩ := braced_append_inj hinner hinner' heq
      exact ⟨rfl, huv⟩

/-- The clauses for entries of a form. -/
def clausesOf (d : ImportDecl) : Specifier.Form → List String
  | .named => d.namedClause
  | form => (d.ofForm form).map Specifier.print

theorem clauses_eq (d : ImportDecl) : d.clauses = d.clausesOf .default ++ (d.clausesOf .star ++ d.clausesOf .named) := by
  rw [clauses, List.map_append, List.append_assoc]
  rfl

/-- The entries of the declaration are printed with names. -/
def WellNamed (d : ImportDecl) : Prop := ∀ s ∈ d.specifiers, s.isWellNamed = true

instance (d : ImportDecl) : Decidable d.WellNamed := inferInstanceAs (Decidable (∀ s ∈ d.specifiers, _))

theorem mem_ofForm {d : ImportDecl} {form : Specifier.Form} {s : Specifier} (hs : s ∈ d.ofForm form) :
    s ∈ d.specifiers ∧ s.form = form := by
  obtain ⟨hmem, hform⟩ := List.mem_filter.1 hs
  exact ⟨hmem, eq_of_beq hform⟩

section WellNamed
variable {d : ImportDecl} (hd : d.WellNamed)
include hd

/-- The name that a default entry or an object of all exports is printed with. -/
theorem WellNamed.localName {form : Specifier.Form} {s : Specifier} (hs : s ∈ d.ofForm form) (hform : form ≠ .named) :
    ∃ l, s.localName = some l ∧ Text.isName l.toList = true := by
  obtain ⟨hmem, rfl⟩ := mem_ofForm hs
  exact Specifier.name_of_not_named hform (hd s hmem)

theorem WellNamed.isClause {form : Specifier.Form} {c : String} (hc : c ∈ d.clausesOf form) : IsClause form c := by
  cases form with
  | default =>
    obtain ⟨s, hs, rfl⟩ := List.mem_map.1 hc
    obtain ⟨l, hl, hname⟩ := hd.localName hs nofun
    rw [Specifier.print, (mem_ofForm hs).2, hl]
    exact .default hname
  | star =>
    obtain ⟨s, hs, rfl⟩ := List.mem_map.1 hc
    obtain ⟨l, hl, hname⟩ := hd.localName hs nofun
    rw [Specifier.print, (mem_ofForm hs).2, hl]
    exact .star hname
  | named =>
    rw [clausesOf, namedClause] at hc
    split at hc
    · cases hc
    · rw [List.mem_singleton.1 hc]
      refine .named fun hbrace => ?_
      rcases Text.mem_joined hbrace with hcomma | ⟨text, htext, hbrace⟩
      · exact absurd hcomma (by decide)
      · obtain ⟨s, hs, rfl⟩ := List.mem_map.1 htext
        obtain ⟨hmem, hsf⟩ := mem_ofForm hs
        exact Specifier.not_mem_print hsf (hd s hmem) (by decide) (by decide) hbrace

theorem WellNamed.exists_isClause {c : String} (hc : c ∈ d.clauses) : ∃ form, IsClause form c := by
  rw [clauses_eq, List.mem_append, List.mem_append] at hc
  rcases hc with hc | hc | hc
  · exact ⟨.default, hd.isClause hc⟩
  · exact ⟨.star, hd.isClause hc⟩
  · exact ⟨.named, hd.isClause hc⟩

/-- The clauses for a form are those that start like it. -/
theorem WellNamed.filter_clauses (form : Specifier.Form) :
    d.clauses.filter (fun c => c.toList.head?.any (leads form)) = d.clausesOf form := by
  have hsame : (d.clausesOf form).filter (fun c => c.toList.head?.any (leads form)) = d.clausesOf form := by
    refine List.filter_eq_self.2 fun c hc => ?_
    obtain ⟨a, rest, ha, hlead⟩ := (hd.isClause hc).exists_head
    rw [ha]
    exact hlead
  have hother (form' : Specifier.Form) (hne : form ≠ form') :
      (d.clausesOf form').filter (fun c => c.toList.head?.any (leads form)) = [] := by
    refine List.filter_eq_nil_iff.2 fun c hc hhead => ?_
    obtain ⟨a, rest, ha, hlead⟩ := (hd.isClause hc).exists_head
    rw [ha] at hhead
    exact hne (leads_unique hhead hlead)
  rw [clauses_eq, List.filter_append, List.filter_append]
  cases form with
  | default => rw [hsame, hother .star nofun, hother .named nofun, List.append_nil, List.append_nil]
  | star => rw [hsame, hother .default nofun, hother .named nofun, List.append_nil, List.nil_append]
  | named => rw [hsame, hother .default nofun, hother .star nofun, List.nil_append, List.nil_append]

end WellNamed

/-! ## The text of the clauses -/

/-- The clauses of a declaration, and what is behind them. -/
def boundText (cs : List String) (x : List Char) : List Char :=
  match cs with
  | [] => x
  | c :: cs => (Text.joined ", " (c :: cs)).toList ++ (" from ".toList ++ x)

/-- The first clause, with another clause behind it or none. -/
theorem exists_boundText_cons (c : String) (cs : List String) (x : List Char) :
    ∃ u, boundText (c :: cs) x = c.toList ++ u ∧ Text.StartsIn [',', ' '] u ∧
      (u.head? = some ',' ∨ u = " from ".toList ++ x) := by
  cases cs with
  | nil => exact ⟨_, rfl, Text.startsIn_of_head? (c := ' ') rfl (by decide), .inr rfl⟩
  | cons c' cs =>
    refine ⟨_, by rw [boundText, Text.toList_joined_cons, List.append_assoc], ?_, .inl rfl⟩
    exact Text.startsIn_of_head? (c := ',') rfl (by decide)

theorem ne_clause_append {x : List Char} (hx : x.head? = some '"') {form : Specifier.Form} {c : String}
    (hc : IsClause form c) (u : List Char) : x ≠ c.toList ++ u := by
  rintro rfl
  obtain ⟨a, rest, ha, hlead⟩ := hc.exists_head
  rw [ha] at hx
  rw [Option.some.inj hx] at hlead
  cases form <;> exact absurd hlead (by decide)

section Bound
variable {cs cs' : List String} (hcs : ∀ c ∈ cs, ∃ form, IsClause form c) (hcs' : ∀ c ∈ cs', ∃ form, IsClause form c)
  {x y : List Char} (hx : x.head? = some '"') (hy : y.head? = some '"')
include hcs hcs' hx hy

/-- The clauses are told from the literal behind them. -/
theorem boundText_inj (h : boundText cs x = boundText cs' y) : cs = cs' ∧ x = y := by
  have hfrom (z : List Char) : Text.StartsIn [',', ' '] (" from ".toList ++ z) :=
    Text.startsIn_of_head? (c := ' ') rfl (by decide)
  cases cs with
  | nil =>
    cases cs' with
    | nil => exact ⟨rfl, h⟩
    | cons c' cs' =>
      obtain ⟨form, hc'⟩ := hcs' c' List.mem_cons_self
      obtain ⟨u, hu, -⟩ := exists_boundText_cons c' cs' y
      exact absurd (h.trans hu) (ne_clause_append hx hc' u)
  | cons c cs =>
    cases cs' with
    | nil =>
      obtain ⟨form, hc⟩ := hcs c List.mem_cons_self
      obtain ⟨u, hu, -⟩ := exists_boundText_cons c cs x
      exact absurd (h.symm.trans hu) (ne_clause_append hy hc u)
    | cons c' cs' =>
      obtain ⟨heq, hrest⟩ := Text.joined_append_inj [',', ' '] rfl List.mem_cons_self (List.cons_ne_nil c cs)
        (List.cons_ne_nil c' cs')
        (fun s hs t ht u v hu hv huv => by
          obtain ⟨form, hs⟩ := hcs s hs
          obtain ⟨form', ht⟩ := hcs' t ht
          exact hs.append_inj ht hu hv huv)
        (hfrom x) (hfrom y) nofun nofun h
      exact ⟨heq, List.append_cancel_left hrest⟩

/-- The word for types is not the name of a default entry: behind that name comes a comma, or `from` and the literal. -/
theorem boundText_ne_type : boundText cs x ≠ "type ".toList ++ boundText cs' y := by
  intro h
  have htype : IsClause .default "type" := .default (by decide)
  have hfrom : IsClause .default "from" := .default (by decide)
  have hblank (z : List Char) : Text.StartsIn [',', ' '] (' ' :: z) := Text.startsIn_of_head? rfl (by decide)
  cases cs with
  | nil => exact ne_clause_append hx htype (' ' :: boundText cs' y) h
  | cons c cs =>
    obtain ⟨form, hc⟩ := hcs c List.mem_cons_self
    obtain ⟨u, hu, hstart, htail⟩ := exists_boundText_cons c cs x
    obtain ⟨-, rfl⟩ := hc.append_inj htype hstart (hblank (boundText cs' y)) (hu.symm.trans h)
    rcases htail with hcomma | hliteral
    · cases hcomma
    · -- then `from` should be the next clause
      have hnext : boundText cs' y = "from".toList ++ ' ' :: x := (List.cons.inj hliteral).2
      cases cs' with
      | nil => exact ne_clause_append hy hfrom (' ' :: x) hnext
      | cons c' cs' =>
        obtain ⟨form', hc'⟩ := hcs' c' List.mem_cons_self
        obtain ⟨v, hv, hstart', htail'⟩ := exists_boundText_cons c' cs' y
        obtain ⟨-, rfl⟩ := hc'.append_inj hfrom hstart' (hblank x) (hv.symm.trans hnext)
        rcases htail' with hcomma | hliteral'
        · cases hcomma
        · rw [(List.cons.inj hliteral').2] at hx
          cases hx

end Bound

/-! ## Whole declarations -/

theorem toList_print (d : ImportDecl) :
    d.print.toList = "import ".toList ++ ((if d.typeOnly then "type ".toList else []) ++
      boundText d.clauses ((Text.quoted d.origin).toList ++ (d.attributeClause.toList ++ [';']))) := by
  have hbinding (x : List Char) : d.bindingClause.toList ++ x = boundText d.clauses x := by
    rw [bindingClause]
    cases d.clauses with
    | nil => rfl
    | cons c cs => rw [String.toList_append, List.append_assoc, boundText]
  rw [← hbinding, print]
  cases d.typeOnly <;> simp

theorem attributes_of_clause {d e : ImportDecl} (h : d.attributeClause = e.attributeClause) :
    d.attributes.getD "" = e.attributes.getD "" := by
  have hclause (d : ImportDecl) :
      d.attributeClause = if d.attributes.getD "" = "" then "" else " " ++ d.attributes.getD "" := by
    rw [attributeClause]
    cases d.attributes with
    | none => rfl
    | some a => by_cases ha : a = "" <;> simp [ha]
  rw [hclause, hclause] at h
  split at h
  · next hd =>
    split at h
    · next he => rw [hd, he]
    · exact absurd (congrArg String.toList h) (by simp)
  · split at h
    · exact absurd (congrArg String.toList h) (by simp)
    · exact String.toList_inj.1 (by simpa using congrArg String.toList h)

theorem map_eq_of_print {ss ts : List Specifier} {α : Type} {view : Specifier → α}
    (hview : ∀ s ∈ ss, ∀ t ∈ ts, s.print = t.print → view s = view t)
    (h : ss.map Specifier.print = ts.map Specifier.print) : ss.map view = ts.map view := by
  induction ss generalizing ts with
  | nil => rw [List.map_eq_nil_iff.1 h.symm]
  | cons s ss ih =>
    cases ts with
    | nil => cases h
    | cons t ts =>
      obtain ⟨hst, hrest⟩ := List.cons.inj h
      rw [List.map_cons, List.map_cons, hview s List.mem_cons_self t List.mem_cons_self hst,
        ih (fun s hs t ht => hview s (List.mem_cons_of_mem _ hs) t (List.mem_cons_of_mem _ ht)) hrest]

section Contents
variable {d e : ImportDecl} (hd : d.WellNamed) (he : e.WellNamed)
include hd he

theorem localNames_of_clauses {form : Specifier.Form} (hform : form ≠ .named) (h : d.clausesOf form = e.clausesOf form) :
    (d.ofForm form).map Specifier.localName = (e.ofForm form).map Specifier.localName := by
  have hprints : (d.ofForm form).map Specifier.print = (e.ofForm form).map Specifier.print := by
    cases form with
    | named => exact absurd rfl hform
    | default => exact h
    | star => exact h
  refine map_eq_of_print (fun s hs t ht hst => ?_) hprints
  obtain ⟨l, hl, -⟩ := hd.localName hs hform
  obtain ⟨m, hm, -⟩ := he.localName ht hform
  rw [Specifier.print, Specifier.print, (mem_ofForm hs).2, (mem_ofForm ht).2, hl, hm] at hst
  rw [hl, hm]
  cases form with
  | named => exact absurd rfl hform
  | default => exact congrArg some hst
  | star => exact congrArg some (String.toList_inj.1 (by simpa [Text.orNone] using congrArg String.toList hst))

theorem prints_of_clause (h : d.namedClause = e.namedClause) :
    (d.ofForm .named).map Specifier.print = (e.ofForm .named).map Specifier.print := by
  have hcomma {d : ImportDecl} (hd : d.WellNamed) : ∀ text ∈ (d.ofForm .named).map Specifier.print, ',' ∉ text.toList := by
    intro text htext
    obtain ⟨s, hs, rfl⟩ := List.mem_map.1 htext
    obtain ⟨hmem, hform⟩ := mem_ofForm hs
    exact Specifier.not_mem_print hform (hd s hmem) (by decide) (by decide)
  have hd := hcomma hd
  have he := hcomma he
  unfold namedClause at h
  cases hds : d.ofForm .named with
  | nil =>
    rw [hds] at h
    cases hes : e.ofForm .named with
    | nil => rfl
    | cons t ts =>
      rw [hes] at h
      cases h
  | cons s ss =>
    rw [hds] at h hd
    cases hes : e.ofForm .named with
    | nil =>
      rw [hes] at h
      cases h
    | cons t ts =>
      rw [hes] at h he
      have hinner : Text.joined ", " ((s :: ss).map Specifier.print) =
          Text.joined ", " ((t :: ts).map Specifier.print) :=
        String.toList_inj.1 (by simpa using congrArg String.toList (List.cons.inj h).1)
      exact Text.joined_inj rfl nofun nofun hd he hinner

theorem contents_of_clause (h : d.namedClause = e.namedClause) :
    (d.ofForm .named).map Specifier.content = (e.ofForm .named).map Specifier.content := by
  refine map_eq_of_print (fun s hs t ht hst => ?_) (prints_of_clause hd he h)
  obtain ⟨hsmem, hsform⟩ := mem_ofForm hs
  obtain ⟨htmem, htform⟩ := mem_ofForm ht
  exact Specifier.content_of_print hsform htform (hd s hsmem) (he t htmem) hst

end Contents

/-- Two declarations with names that print alike are both for types or both not, are from one module with one text of
attributes, and bind the same default names, the same objects of all exports, and the same named entries, in order. -/
theorem print_unambiguous {d e : ImportDecl} (hd : d.WellNamed) (he : e.WellNamed) (h : d.print = e.print) :
    d.typeOnly = e.typeOnly ∧ d.origin = e.origin ∧ d.attributes.getD "" = e.attributes.getD "" ∧
      (d.ofForm .default).map Specifier.localName = (e.ofForm .default).map Specifier.localName ∧
      (d.ofForm .star).map Specifier.localName = (e.ofForm .star).map Specifier.localName ∧
      (d.ofForm .named).map Specifier.content = (e.ofForm .named).map Specifier.content := by
  have hquote (d : ImportDecl) :
      ((Text.quoted d.origin).toList ++ (d.attributeClause.toList ++ [';'])).head? = some '"' := by
    simp [Text.quoted]
  have hdc : ∀ c ∈ d.clauses, ∃ form, IsClause form c := fun c hc => hd.exists_isClause hc
  have hec : ∀ c ∈ e.clauses, ∃ form, IsClause form c := fun c hc => he.exists_isClause hc
  have htext := congrArg String.toList h
  rw [toList_print, toList_print] at htext
  replace htext := List.append_cancel_left htext
  have htype : d.typeOnly = e.typeOnly := by
    cases hdt : d.typeOnly with
    | false =>
      cases het : e.typeOnly with
      | false => rfl
      | true =>
        rw [hdt, het] at htext
        exact absurd htext (boundText_ne_type hdc hec (hquote d) (hquote e))
    | true =>
      cases het : e.typeOnly with
      | false =>
        rw [hdt, het] at htext
        exact absurd htext.symm (boundText_ne_type hec hdc (hquote e) (hquote d))
      | true => rfl
  rw [htype] at htext
  obtain ⟨hclauses, hrest⟩ := boundText_inj hdc hec (hquote d) (hquote e) (List.append_cancel_left htext)
  obtain ⟨horigin, hrest⟩ := Text.quoted_append_inj hrest
  have hclausesOf (form : Specifier.Form) : d.clausesOf form = e.clausesOf form := by
    rw [← hd.filter_clauses, ← he.filter_clauses, hclauses]
  exact ⟨htype, horigin, attributes_of_clause (String.toList_inj.1 (List.append_cancel_right hrest)),
    localNames_of_clauses hd he nofun (hclausesOf .default), localNames_of_clauses hd he nofun (hclausesOf .star),
    contents_of_clause hd he (hclausesOf .named)⟩

/-- An import in which the words of its print are names as well. -/
def keywordImport : ImportDecl where
  origin := "we\"ird"
  specifiers := [⟨.named, some "type", some "as", false⟩, ⟨.default, none, some "from", false⟩,
    ⟨.named, some "as", none, true⟩, ⟨.star, none, some "type", false⟩]
  typeOnly := true

/-- The same import, written down in another way. -/
def respelledImport : ImportDecl where
  origin := "we\"ird"
  specifiers := [⟨.star, none, some "type", false⟩, ⟨.named, some "type", some "as", false⟩,
    ⟨.named, some "as", some "as", true⟩, ⟨.default, none, some "from", false⟩]
  typeOnly := true
  attributes := some ""

theorem print_unambiguous_keywords :
    keywordImport.print = "import type from, * as type, \x7b type as as, type as \x7d from \"we\\\"ird\";" ∧
      respelledImport.print = keywordImport.print ∧ respelledImport ≠ keywordImport ∧
      (respelledImport.ofForm .default).map Specifier.localName = (keywordImport.ofForm .default).map Specifier.localName ∧
      (respelledImport.ofForm .star).map Specifier.localName = (keywordImport.ofForm .star).map Specifier.localName ∧
      (respelledImport.ofForm .named).map Specifier.content = (keywordImport.ofForm .named).map Specifier.content := by
  have hprint : respelledImport.print = keywordImport.print := by decide +kernel
  obtain ⟨-, -, -, hnames⟩ := print_unambiguous (by decide +kernel) (by decide +kernel) hprint
  exact ⟨by decide +kernel, hprint, by decide, hnames⟩

end ImportDecl
end CallRedirect
