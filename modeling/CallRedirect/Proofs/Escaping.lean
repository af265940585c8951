import CallRedirect.Notice
import Mathlib.Data.List.TakeWhile

/-! # Messages without faults

A message can be painted unless one of its tags is at fault. There is no tag in a text without opening brackets, and in an
escaped text no tag takes effect, whatever text stands around it.

* `Text.Token.Quiet`: a token that only shows characters.
* `Text.Secluded`: what may follow an escaped text.
* `Text.exists_tokens_escapeMarkup`: the tokens of an escaped text and of what follows it.
* `Text.Paints`: tokens that can be painted while some styles are open.
* `Text.paints_of_not_mem`, `Text.paints_fileLabel`, `Text.paints_escapeMarkup`: texts that can be painted.
* `Notice.paint_message`: messages that can be. -/

namespace CallRedirect.Text
set_option autoImplicit false

/-! ## Tokens -/

theorem tag?_of_head {cs : List Char} (h : cs.head? ≠ some '[') : tag? cs = none := by
  unfold tag?
  split
  · simp at h
  · rfl

theorem tag?_bracket_cons {c : Char} {cs : List Char} (h : opensTag c = false) : tag? ('[' :: c :: cs) = none := by
  simp [tag?, h]

theorem tokens_nil : tokens [] = [] := by
  rw [tokens]
  rfl

theorem tokens_of_tag? {cs inside rest : List Char} (h : tag? (cs.dropWhile isBackslash) = some (inside, rest)) :
    tokens cs = .tag (cs.takeWhile isBackslash).length inside :: tokens rest := by
  rw [tokens]
  split
  · next h' =>
    obtain ⟨rfl, rfl⟩ := Prod.mk.inj (Option.some.inj (h.symm.trans h'))
    rfl
  · next h' => cases h.symm.trans h'

theorem tokens_cons {c : Char} {cs : List Char} (h : tag? ((c :: cs).dropWhile isBackslash) = none) :
    tokens (c :: cs) = .char c :: tokens cs := by
  rw [tokens]
  split
  · next h' => cases h.symm.trans h'
  · rfl

/-- What is read up to a mark is read again before any other rest. -/
theorem upTo?_append {mark : Char} {barred : Char → Bool} {cs body rest : List Char}
    (h : upTo? mark barred cs = some (body, rest)) (after : List Char) :
    upTo? mark barred (body ++ mark :: after) = some (body, after) := by
  induction cs generalizing body with
  | nil => cases h
  | cons c cs ih =>
    rw [upTo?] at h
    split at h
    · obtain ⟨rfl, rfl⟩ := Prod.mk.inj (Option.some.inj h)
      simp [upTo?]
    · next hmark =>
      split at h
      · cases h
      · next hbarred =>
        obtain ⟨⟨b, r⟩, hb, heq⟩ := Option.map_eq_some_iff.1 h
        obtain ⟨rfl, rfl⟩ := Prod.mk.inj heq
        rw [List.cons_append, upTo?, if_neg hmark, if_neg hbarred, ih hb, Option.map_some]

theorem tag?_bracketed {cs inside rest : List Char} (h : tag? cs = some (inside, rest)) (after : List Char) :
    tag? (bracketed inside ++ after) = some (inside, after) := by
  unfold tag? at h
  split at h
  · next c cs =>
    split at h
    · next hopens =>
      obtain ⟨⟨body, r⟩, hbody, heq⟩ := Option.map_eq_some_iff.1 h
      obtain ⟨rfl, rfl⟩ := Prod.mk.inj heq
      simp [bracketed, tag?, hopens, upTo?_append hbody after]
    · cases h
  · cases h

/-- A text without opening brackets is no tag, and no part of one that follows it. -/
theorem tokens_append {a : List Char} (h : '[' ∉ a) (hlast : a.getLast? ≠ some '\\') (b : List Char) :
    tokens (a ++ b) = a.map .char ++ tokens b := by
  induction a with
  | nil => rfl
  | cons c a ih =>
    have hne : (c :: a).dropWhile isBackslash ≠ [] := by
      intro hnil
      have hall := List.dropWhile_eq_nil_iff.1 hnil _ (List.getLast_mem (List.cons_ne_nil c a))
      rw [List.getLast?_eq_some_getLast (List.cons_ne_nil c a)] at hlast
      exact hlast (congrArg some (beq_iff_eq.1 hall))
    have hhead : ((c :: (a ++ b)).dropWhile isBackslash).head? ≠ some '[' := by
      obtain ⟨d, ds, hd⟩ := List.exists_cons_of_ne_nil hne
      have hmem : d ∈ c :: a := (List.dropWhile_sublist isBackslash).subset (hd ▸ List.mem_cons_self)
      rw [← List.cons_append, List.dropWhile_append, if_neg (by simpa using hne), hd]
      exact fun heq => h (Option.some.inj heq ▸ hmem)
    have hlast' : a.getLast? ≠ some '\\' := by
      intro ha
      rw [List.getLast?_cons, ha] at hlast
      exact hlast rfl
    rw [List.cons_append, tokens_cons (tag?_of_head hhead), ih (fun hmem => h (List.mem_cons_of_mem c hmem)) hlast',
      List.map_cons, List.cons_append]

theorem tokens_of_not_mem {a : List Char} (h : '[' ∉ a) : tokens a = a.map .char := by
  induction a with
  | nil => exact tokens_nil
  | cons c a ih =>
    have hhead : ((c :: a).dropWhile isBackslash).head? ≠ some '[' := fun hc =>
      h ((List.dropWhile_sublist isBackslash).subset (List.mem_of_mem_head? hc))
    rw [tokens_cons (tag?_of_head hhead), ih fun hmem => h (List.mem_cons_of_mem c hmem), List.map_cons]

/-- The backslashes before a tag. -/
theorem tokens_replicate {inside after : List Char} (h : tag? (bracketed inside ++ after) = some (inside, after)) (n : Nat) :
    tokens (List.replicate n '\\' ++ (bracketed inside ++ after)) = .tag n inside :: tokens after := by
  have hback : ∀ c ∈ List.replicate n '\\', isBackslash c = true := fun c hc => by
    rw [List.eq_of_mem_replicate hc]
    rfl
  have hdrop : (List.replicate n '\\' ++ (bracketed inside ++ after)).dropWhile isBackslash = bracketed inside ++ after := by
    rw [List.dropWhile_append_of_pos hback]
    rfl
  have htake : (List.replicate n '\\' ++ (bracketed inside ++ after)).takeWhile isBackslash = List.replicate n '\\' := by
    rw [List.takeWhile_append_of_pos hback]
    simp [bracketed, isBackslash]
  rw [tokens_of_tag? (hdrop ▸ h), htake, List.length_replicate]

/-! ## Escaped texts -/

/-- The token shows characters and has no effect. -/
def Token.Quiet : Token → Prop
  | .char _ => True
  | .tag n _ => isEscaped n = true

/-- No bracket before these characters opens a tag with them. -/
structure Secluded (rest : List Char) : Prop where
  head : ∀ c ∈ rest.head?, opensTag c = false
  open_ : upTo? ']' (· == '[') rest = none

theorem secluded_nil : Secluded [] := ⟨nofun, rfl⟩

theorem secluded_bracket (rest : List Char) : Secluded ('[' :: rest) where
  head c hc := by
    obtain rfl := Option.some.inj hc
    rfl
  open_ := rfl

theorem Secluded.replicate {rest : List Char} (h : Secluded rest) (n : Nat) :
    Secluded (List.replicate n '\\' ++ rest) := by
  induction n with
  | zero => exact h
  | succ n ih =>
    refine ⟨fun c hc => ?_, ?_⟩
    · obtain rfl := Option.some.inj hc
      rfl
    · rw [List.replicate_succ, List.cons_append, upTo?, if_neg (by decide), if_neg (by decide), ih.open_, Option.map_none]

section Escape
variable {rest : List Char} (hrest : Secluded rest)
include hrest

/-- A bracket that is not closed before the next one opens is not closed in the escaped text either. -/
theorem upTo?_escape {cs : List Char} (h : upTo? ']' (· == '[') cs = none) :
    upTo? ']' (· == '[') ((tokens cs).flatMap Token.escape ++ rest) = none := by
  fun_induction tokens cs with
  | case1 cs inside after htag _ ih =>
    rw [List.flatMap_cons, Token.escape, List.append_assoc, List.append_assoc]
    exact ((secluded_bracket _).replicate _).open_
  | case2 => exact hrest.open_
  | case3 c cs htag ih =>
    rw [List.flatMap_cons, Token.escape, List.singleton_append, List.cons_append]
    rw [upTo?] at h ⊢
    split at h
    · cases h
    · next hmark =>
      rw [if_neg hmark]
      split at h
      · next hbarred => rw [if_pos hbarred]
      · next hbarred => rw [if_neg hbarred, ih (Option.map_eq_none_iff.1 h), Option.map_none]

/-- A character that starts no tag does not start one before an escaped text. -/
theorem tag?_cons_escape {c : Char} {cs : List Char} (h : tag? (c :: cs) = none) :
    tag? (c :: ((tokens cs).flatMap Token.escape ++ rest)) = none := by
  by_cases hc : c = '['
  · subst hc
    cases htag : tag? (cs.dropWhile isBackslash) with
    | some p =>
      rw [tokens_of_tag? htag, List.flatMap_cons, Token.escape, List.replicate_succ]
      exact tag?_bracket_cons rfl
    | none =>
      cases cs with
      | nil =>
        rw [tokens_nil]
        cases rest with
        | nil => rfl
        | cons d rest => exact tag?_bracket_cons (hrest.head d rfl)
      | cons d cs =>
        rw [tokens_cons htag, List.flatMap_cons, Token.escape]
        cases hopens : opensTag d with
        | false => exact tag?_bracket_cons hopens
        | true =>
          have hopen : upTo? ']' (· == '[') cs = none := by simpa [tag?, hopens] using h
          simp [tag?, hopens, upTo?_escape hrest hopen]
  · exact tag?_of_head fun hhead => hc (Option.some.inj hhead)

/-- Where no tag comes after some backslashes, none comes after them in the escaped text. -/
theorem tag?_dropWhile_escape {cs : List Char} (h : tag? (cs.dropWhile isBackslash) = none) :
    (∃ n, (tokens cs).flatMap Token.escape = List.replicate n '\\') ∨
      tag? (((tokens cs).flatMap Token.escape ++ rest).dropWhile isBackslash) = none := by
  induction cs with
  | nil => exact .inl ⟨0, by rw [tokens_nil]; rfl⟩
  | cons c cs ih =>
    rw [tokens_cons h, List.flatMap_cons, Token.escape, List.singleton_append, List.cons_append]
    cases hc : isBackslash c with
    | true =>
      rw [List.dropWhile_cons_of_pos hc] at h ⊢
      rcases ih h with ⟨n, hn⟩ | hnone
      · exact .inl ⟨n + 1, by rw [hn, beq_iff_eq.1 hc, List.replicate_succ]⟩
      · exact .inr hnone
    | false =>
      rw [List.dropWhile_cons_of_neg (by simp [hc])] at h ⊢
      exact .inr (tag?_cons_escape hrest h)

/-- No tag of an escaped text takes effect; its last backslashes may count for what follows. -/
theorem exists_tokens_escape (cs : List Char) :
    ∃ ts n, tokens ((tokens cs).flatMap Token.escape ++ rest) = ts ++ tokens (List.replicate n '\\' ++ rest) ∧
      ∀ t ∈ ts, t.Quiet := by
  fun_induction tokens cs with
  | case1 cs inside after htag _ ih =>
    obtain ⟨ts, n, hts, hquiet⟩ := ih
    refine ⟨.tag (2 * (cs.takeWhile isBackslash).length + 1) inside :: ts, n, ?_, ?_⟩
    · rw [List.flatMap_cons, Token.escape, List.append_assoc, List.append_assoc, tokens_replicate (tag?_bracketed htag _),
        hts, List.cons_append]
    · intro t ht
      rcases List.mem_cons.1 ht with rfl | ht
      · simp [Token.Quiet, Token.isEscaped]
      · exact hquiet t ht
  | case2 => exact ⟨[], 0, rfl, fun t ht => absurd ht List.not_mem_nil⟩
  | case3 c cs htag ih =>
    rcases tag?_dropWhile_escape hrest htag with ⟨n, hn⟩ | hnone
    · rw [tokens_cons htag] at hn
      exact ⟨[], n, by rw [hn, List.nil_append], fun t ht => absurd ht List.not_mem_nil⟩
    · obtain ⟨ts, n, hts, hquiet⟩ := ih
      rw [tokens_cons htag] at hnone
      rw [List.flatMap_cons, Token.escape, List.singleton_append, List.cons_append] at hnone ⊢
      refine ⟨.char c :: ts, n, by rw [tokens_cons hnone, hts, List.cons_append], fun t ht => ?_⟩
      rcases List.mem_cons.1 ht with rfl | ht
      · exact trivial
      · exact hquiet t ht

omit hrest in
theorem exists_toList_escapeMarkup (s : String) :
    ∃ n, (escapeMarkup s).toList = (tokens s.toList).flatMap Token.escape ++ List.replicate n '\\' := by
  rw [escapeMarkup, String.toList_ofList]
  unfold closeBackslash
  split
  · exact ⟨0, by simp⟩
  · exact ⟨1, rfl⟩
  · exact ⟨0, by simp⟩

theorem exists_tokens_escapeMarkup (s : String) :
    ∃ ts n, tokens ((escapeMarkup s).toList ++ rest) = ts ++ tokens (List.replicate n '\\' ++ rest) ∧
      ∀ t ∈ ts, t.Quiet := by
  obtain ⟨m, hm⟩ := exists_toList_escapeMarkup s
  obtain ⟨ts, n, hts, hquiet⟩ := exists_tokens_escape (hrest.replicate m) s.toList
  refine ⟨ts, n + m, ?_, hquiet⟩
  rw [hm, List.append_assoc, hts, ← List.append_assoc, List.replicate_append_replicate]

end Escape

/-! ## Painting -/

/-- The tokens can be painted while the styles of some names are open. -/
def Paints (opened : List String) (ts : List Token) : Prop :=
  ∀ (position : Nat) (run : List Char) (c : Canvas), c.opened.map OpenStyle.name = opened →
    ∃ c', (partsFrom position run ts).foldlM Canvas.step c = .ok c'

theorem paints_nil (opened : List String) : Paints opened [] := fun _ run c _ => ⟨c.write run.reverse, rfl⟩

theorem Paints.quiet_append {opened : List String} {ts rest : List Token} (h : Paints opened rest)
    (hts : ∀ t ∈ ts, t.Quiet) : Paints opened (ts ++ rest) := by
  induction ts with
  | nil => exact h
  | cons t ts ih =>
    have hpaints := ih fun u hu => hts u (List.mem_cons_of_mem t hu)
    intro position run c hc
    cases t with
    | char x => exact hpaints (position + 1) (x :: run) c hc
    | tag n inside =>
      have hescaped : Token.isEscaped n = true := hts _ List.mem_cons_self
      rw [List.cons_append, partsFrom, if_pos hescaped]
      exact hpaints _ [] (((c.write run.reverse).write _).write _) hc

theorem paints_of_quiet {opened : List String} {ts : List Token} (h : ∀ t ∈ ts, t.Quiet) : Paints opened ts := by
  have hpaints := (paints_nil opened).quiet_append h
  rwa [List.append_nil] at hpaints

/-- Tokens after a tag that takes effect. -/
theorem paints_tag {opened : List String} {n : Nat} {inside : List Char} {rest : List Token}
    (hn : Token.isEscaped n = false)
    (h : ∀ (position : Nat) (c : Canvas), c.opened.map OpenStyle.name = opened →
      ∃ c', c.step (.tag position inside) = .ok c' ∧ Paints (c'.opened.map OpenStyle.name) rest) :
    Paints opened (.tag n inside :: rest) := by
  intro position run c hc
  obtain ⟨c', hstep, hpaints⟩ := h (position + n) ((c.write run.reverse).write (List.replicate (n / 2) '\\')) hc
  obtain ⟨final, hfinal⟩ := hpaints (position + (Token.tag n inside).length) [] c' rfl
  refine ⟨final, ?_⟩
  rw [partsFrom, if_neg (by simp [hn])]
  show (((c.write run.reverse).write (List.replicate (n / 2) '\\')).step (.tag (position + n) inside) >>= _) = _
  rw [hstep]
  exact hfinal

/-- A style may be opened if its color is no fault. -/
theorem Paints.opening {opened : List String} {rest : List Token} {inside : List Char} {name : String}
    (h : Paints (name :: opened) rest) (hslash : inside.head? ≠ some '/')
    (hname : styleNamed (styleName inside) = .ok name) : Paints opened (.tag 0 inside :: rest) := by
  refine paints_tag rfl fun position c hc => ⟨c.push name (styleExtra inside), ?_, ?_⟩
  · unfold Canvas.step
    split
    · next heq => cases heq
    · next heq =>
      obtain ⟨-, rfl⟩ := Part.tag.inj heq
      exact absurd rfl hslash
    · next heq =>
      obtain ⟨-, rfl⟩ := Part.tag.inj heq
      rw [hname]
      rfl
  · rw [Canvas.push, List.map_cons, hc]
    exact h

/-- A style that is open may be closed. -/
theorem Paints.closing {opened : List String} {n : Nat} {rest : List Token} {closed : List Char} {name : String}
    (h : ∀ opened, Paints opened rest) (hblank : isBlankText (styleName closed) = false)
    (hname : styleNamed (styleName closed) = .ok name) (hhandler : name.toList.head? ≠ some '@') (hmem : name ∈ opened) :
    Paints opened (.tag n ('/' :: closed) :: rest) := by
  cases hn : Token.isEscaped n with
  | true =>
    have hquiet : ∀ t ∈ [Token.tag n ('/' :: closed)], t.Quiet := by simpa [Token.Quiet] using hn
    exact (h opened).quiet_append hquiet
  | false =>
    refine paints_tag hn fun position c hc => ?_
    obtain ⟨style, hstyle⟩ : ∃ style, c.opened.find? (fun o => o.name == name) = some style := by
      rw [← Option.isSome_iff_exists, List.find?_isSome]
      obtain ⟨o, ho, honame⟩ := List.mem_map.1 (hc ▸ hmem)
      exact ⟨o, ho, beq_iff_eq.2 honame⟩
    have hsname : style.name = name := by simpa using List.find?_some hstyle
    have hplain : style.isHandler = false := by
      rw [OpenStyle.isHandler, hsname]
      simpa using hhandler
    obtain ⟨c', hclose⟩ : ∃ c', c.closeNamed (String.ofList (bracketed ('/' :: closed))) position name = .ok c' := by
      rw [Canvas.closeNamed, hstyle]
      dsimp only
      rw [Canvas.close, hplain]
      exact ⟨_, rfl⟩
    refine ⟨c', ?_, h _⟩
    show (if isBlankText (styleName closed) then c.closeLast position else (styleNamed (styleName closed)).bind _) = _
    rw [hblank, hname]
    exact hclose

theorem paint_of_paints {s : String} (h : Paints [] (tokens s.toList)) : ∃ canvas, paint s = .ok canvas := h 0 [] {} rfl

/-! ## Styles -/

/-- Only the parts of a mixed color may be at fault. -/
theorem exists_isColor {word : String} (h : inCall? "rgb(" word.toList = none) : ∃ known, isColor word = .ok known := by
  unfold isColor isMixedColor
  rw [h]
  split
  · exact ⟨true, rfl⟩
  · exact ⟨false, rfl⟩

theorem readWord?_of_color (s : Style) {word : String} (htrait : Trait.ofWord? word = none)
    (h : inCall? "rgb(" word.toList = none) :
    s.readWord? word = .ok (some { s with color := some word }) ∨ s.readWord? word = .ok none := by
  obtain ⟨known, hknown⟩ := exists_isColor h
  rw [Style.readWord?, htrait]
  dsimp only
  rw [hknown]
  cases known
  · exact .inr rfl
  · exact .inl rfl

/-- The style of file names is written in canonical words. -/
theorem styleNamed_boldBlue : styleNamed "bold blue" = .ok "bold blue" := by
  have htrim : trim "bold blue" = "bold blue" := by decide +kernel
  have hwords : words "bold blue" = ["bold", "blue"] := by decide +kernel
  have hlower : lower "bold" = "bold" ∧ lower "blue" = "blue" ∧ lower "bold blue" = "bold blue" := by decide +kernel
  have hbold : ({} : Style).readWords? "bold" "blue" = .ok (some (({} : Style).settle .bold true, false)) := by
    have htrait : Trait.ofWord? "bold" = some .bold := by decide +kernel
    rw [Style.readWords?, if_pos (by decide), Style.readWord?, htrait]
    rfl
  have hstyle : style? "bold blue" = (({} : Style).settle .bold true).readWord? "blue" := by
    have hnone : ("bold blue" == "none") = false := by decide
    rw [style?, htrim, hnone, if_neg Bool.false_ne_true, hwords, Style.read?, hlower.1, hbold]
    dsimp only
    rw [Style.read?, hlower.2.1]
    rfl
  have hblue : Trait.ofWord? "blue" = none ∧ inCall? "rgb(" "blue".toList = none := by decide +kernel
  rcases readWord?_of_color (({} : Style).settle .bold true) hblue.1 hblue.2 with h | h
  · rw [styleNamed, canonicalStyle, hstyle, h]
    rfl
  · rw [styleNamed, canonicalStyle, hstyle, h]
    simp [Except.map, Except.mapError, htrim, hlower]

/-- A single word can name a style unless it is a mixed color. -/
theorem exists_styleNamed {word : String} (hwords : trim word = word ∧ words word = [word] ∧ lower word = word)
    (hplain : (word == "none") = false ∧ Style.isParticle word = false)
    (hcolor : Trait.ofWord? word = none ∧ inCall? "rgb(" word.toList = none) : ∃ name, styleNamed word = .ok name := by
  obtain ⟨htrim, hwords, hlower⟩ := hwords
  have hstyle : style? word = ({} : Style).readWord? word := by
    rw [style?, htrim, hplain.1, if_neg Bool.false_ne_true, hwords, Style.read?, hlower, hplain.2,
      if_neg Bool.false_ne_true]
  rw [styleNamed, canonicalStyle, hstyle]
  rcases readWord?_of_color {} hcolor.1 hcolor.2 with h | h
  · rw [h]
    exact ⟨_, rfl⟩
  · rw [h]
    exact ⟨_, rfl⟩

/-! ## Messages -/

theorem quiet_map_char {a : List Char} : ∀ t ∈ a.map Token.char, t.Quiet := by
  intro t ht
  obtain ⟨c, -, rfl⟩ := List.mem_map.1 ht
  trivial

theorem paints_of_not_mem {opened : List String} {a : List Char} (h : '[' ∉ a) : Paints opened (tokens a) := by
  rw [tokens_of_not_mem h]
  exact paints_of_quiet quiet_map_char

theorem paints_append {opened : List String} {a s : String} (ha : '[' ∉ a.toList)
    (hlast : a.toList.getLast? ≠ some '\\') (hs : Paints opened (tokens s.toList)) :
    Paints opened (tokens (a ++ s).toList) := by
  rw [String.toList_append, tokens_append ha hlast]
  exact hs.quiet_append quiet_map_char

theorem paints_escapeMarkup {opened : List String} (s : String) : Paints opened (tokens (escapeMarkup s).toList) := by
  obtain ⟨ts, n, hts, hquiet⟩ := exists_tokens_escapeMarkup secluded_nil s
  rw [List.append_nil, List.append_nil] at hts
  rw [hts]
  refine (paints_of_not_mem fun h => ?_).quiet_append hquiet
  exact absurd (List.eq_of_mem_replicate h) (by decide)

/-- A tag that is written out, and the backslashes before it. -/
theorem tokens_written (inside : List Char) (h : tag? (bracketed inside) = some (inside, [])) (n : Nat)
    (after : List Char) :
    tokens (List.replicate n '\\' ++ (bracketed inside ++ after)) = .tag n inside :: tokens after :=
  tokens_replicate (tag?_bracketed h after) n

/-- A style is opened in a message. -/
theorem paints_opening {opened : List String} {inside after : List Char} {name : String}
    (h : Paints (name :: opened) (tokens after)) (htag : tag? (bracketed inside) = some (inside, []))
    (hslash : inside.head? ≠ some '/') (hname : styleNamed (styleName inside) = .ok name) :
    Paints opened (tokens (bracketed inside ++ after)) := by
  have htokens := tokens_written inside htag 0 after
  rw [List.replicate_zero, List.nil_append] at htokens
  rw [htokens]
  exact h.opening hslash hname

/-- The name of a file comes before a text without opening brackets. -/
theorem paints_fileLabel (path : Option String) {s : String} (h : '[' ∉ s.toList) :
    Paints [] (tokens (fileLabel path ++ s).toList) := by
  unfold fileLabel
  split
  · rw [String.empty_append]
    exact paints_of_not_mem h
  · next path =>
    split
    · rw [String.empty_append]
      exact paints_of_not_mem h
    · have hafter : '[' ∉ (": " ++ s).toList := by
        rw [String.toList_append, List.mem_append]
        exact fun hmem => hmem.elim (by decide) h
      have htext : ("[bold blue]" ++ escapeMarkup path ++ "[/bold blue]: " ++ s).toList =
          bracketed "bold blue".toList ++ ((escapeMarkup path).toList ++
            (bracketed "/bold blue".toList ++ (": " ++ s).toList)) := by
        simp only [String.toList_append, List.append_assoc]
        rfl
      have hrest : Secluded (bracketed "/bold blue".toList ++ (": " ++ s).toList) := secluded_bracket _
      obtain ⟨ts, n, hts, hquiet⟩ := exists_tokens_escapeMarkup hrest path
      rw [htext]
      refine paints_opening ?_ (by decide) (by decide) styleNamed_boldBlue
      rw [hts, tokens_written "/bold blue".toList (by decide)]
      refine Paints.quiet_append ?_ hquiet
      exact Paints.closing (fun _ => paints_of_not_mem hafter) (by decide) styleNamed_boldBlue (by decide)
        List.mem_cons_self

theorem paints_section {s : String} (h : '[' ∉ s.toList) : Paints [] (tokens ("[tool.log_codemod]" ++ s).toList) := by
  obtain ⟨name, hname⟩ : ∃ name, styleNamed "tool.log_codemod" = .ok name :=
    exists_styleNamed (by decide +kernel) (by decide) (by decide +kernel)
  rw [String.toList_append]
  have hpaints : Paints [name] (tokens s.toList) := paints_of_not_mem h
  exact @paints_opening [] "tool.log_codemod".toList s.toList name hpaints (by decide) (by decide) hname

/-! ## Faults -/

theorem partsFrom_append (position : Nat) (run cs : List Char) (ts : List Token) :
    partsFrom position run (cs.map .char ++ ts) = partsFrom (position + cs.length) (cs.reverse ++ run) ts := by
  induction cs generalizing position run with
  | nil => rfl
  | cons c cs ih =>
    rw [List.map_cons, List.cons_append, partsFrom, ih, List.reverse_cons, List.append_assoc, List.length_cons]
    congr 1
    omega

/-- The first tag of a message closes nothing. -/
theorem paint_unopened {a b : String} {closed : List Char} (ha : '[' ∉ a.toList) (hlast : a.toList.getLast? ≠ some '\\')
    (htag : tag? (bracketed ('/' :: closed)) = some ('/' :: closed, [])) (hblank : isBlankText (styleName closed) = false)
    (hname : ∃ name, styleNamed (styleName closed) = .ok name) :
    ∃ fault, paint (a ++ (String.ofList (bracketed ('/' :: closed)) ++ b)) = .error fault := by
  obtain ⟨name, hname⟩ := hname
  have hwritten := tokens_written ('/' :: closed) htag 0 b.toList
  rw [List.replicate_zero, List.nil_append] at hwritten
  rw [paint, parts, String.toList_append, tokens_append ha hlast, String.toList_append, String.toList_ofList, hwritten,
    partsFrom_append]
  show ∃ fault, (if isBlankText (styleName closed) then _ else (styleNamed (styleName closed)).bind _) >>= _ = _
  rw [hblank, hname]
  exact ⟨_, rfl⟩

end CallRedirect.Text

namespace CallRedirect.Notice

/-- The texts that the wording of a notice takes in as they are. -/
def rawParts : Notice → List String
  | redirected _ => []
  | merged name origin => [name, origin]
  | commentsMoved => []
  | settingsLoaded path => [path]
  | settingsUnreadable path _ => [path]
  | callsRedirected _ _ callee => [callee]
  | importAdded _ name origin => [name, origin]
  | remark _ message => [message]

theorem bracket_not_mem_toDigits (n : Nat) : '[' ∉ Nat.toDigits 10 n :=
  fun h => absurd (Nat.isDigit_of_mem_toDigits (by decide) (by decide) h) (by decide)

theorem paints_wording (n : Notice) (h : ∀ s ∈ n.rawParts, '[' ∉ s.toList) :
    Text.Paints [] (Text.tokens n.wording.toList) := by
  cases n with
  | redirected count =>
    have hplain : '[' ∉ ("Rewrote " ++ count.repr ++ " call site(s)").toList := by simp [bracket_not_mem_toDigits]
    exact Text.paints_of_not_mem hplain
  | merged name origin =>
    obtain ⟨hname, horigin⟩ : '[' ∉ name.toList ∧ '[' ∉ origin.toList := by simpa [rawParts] using h
    have hplain : '[' ∉ ("Merged '" ++ name ++ "' into existing import of '" ++ origin ++ "'").toList := by
      simp [hname, horigin]
    exact Text.paints_of_not_mem hplain
  | commentsMoved => exact Text.paints_of_not_mem (by decide)
  | settingsLoaded path =>
    have hpath : '[' ∉ (" from " ++ path).toList := by simpa [rawParts] using h
    have htext : (settingsLoaded path).wording = "Loaded " ++ ("[tool.log_codemod]" ++ (" from " ++ path)) := by
      rw [← String.append_assoc, ← String.append_assoc]
      rfl
    rw [htext]
    exact Text.paints_append (by decide) (by decide) (Text.paints_section hpath)
  | settingsUnreadable path reason =>
    have hpath : '[' ∉ ("Ignoring unreadable " ++ path ++ ": ").toList := by simpa [rawParts] using h
    have hlast : ("Ignoring unreadable " ++ path ++ ": ").toList.getLast? = some ' ' := by
      rw [String.toList_append, List.getLast?_append]
      rfl
    exact Text.paints_append hpath (by rw [hlast]; decide) (Text.paints_escapeMarkup reason)
  | callsRedirected path count callee =>
    have hcallee : '[' ∉ callee.toList := by simpa [rawParts] using h
    have htext : (callsRedirected path count callee).wording =
        fileLabel path ++ ("Rewrote " ++ (count.repr ++ (" call site(s) to " ++ callee))) := by
      simp only [← String.append_assoc]
      rfl
    rw [htext]
    exact Text.paints_fileLabel path (by simp [hcallee, bracket_not_mem_toDigits])
  | importAdded path name origin =>
    obtain ⟨hname, horigin⟩ : '[' ∉ name.toList ∧ '[' ∉ origin.toList := by simpa [rawParts] using h
    have htext : (importAdded path name origin).wording =
        fileLabel path ++ ("Added '" ++ (name ++ ("' import from '" ++ (origin ++ "'")))) := by
      simp only [← String.append_assoc]
      rfl
    rw [htext]
    exact Text.paints_fileLabel path (by simp [hname, horigin])
  | remark level message => exact Text.paints_of_not_mem (h message (by simp [rawParts]))

/-- A notice can be painted if no text that its wording takes in as it is has an opening bracket. -/
theorem paint_message (n : Notice) (h : ∀ s ∈ n.rawParts, '[' ∉ s.toList) : ∃ canvas, Text.paint n.message = .ok canvas := by
  have hsign : '[' ∉ n.level.sign.toList ∧ n.level.sign.toList.getLast? ≠ some '\\' := by
    cases n.level <;> decide
  exact Text.paint_of_paints (Text.paints_append hsign.1 hsign.2 (n.paints_wording h))

end CallRedirect.Notice
