import CallRedirect.Import.Reading
import CallRedirect.Proofs.Merging
import CallRedirect.Proofs.Nesting
import CallRedirect.Text.Identifier

/-! # How imports are spelled

What an import declaration prints is put together out of fixed words, a string literal, names and import attributes. Line
ends are escaped in the literal, so only the names and the attributes can bring any in, and those of a declaration that
was read stand in the file as they are printed.

* `Bytes.Unbroken`: bytes without line ends.
* `Text.unbroken_quoted`: a string literal has none.
* `ImportDecl.Spelled.good_print`: what holds of names and attributes holds of the declaration.
* `ImportDecl.spelled_ofNode?`: the names and attributes of a declaration that was read. -/

namespace CallRedirect
set_option autoImplicit false

/-! ## Bytes without line ends -/

namespace Bytes

/-- Neither of the two bytes that end lines occurs. -/
def Unbroken (b : Bytes) : Prop := ∀ x ∈ b, x ≠ carriageReturn ∧ x ≠ lineFeed

/-- A character is encoded as itself, or by bytes above all of ASCII. -/
theorem toNat_of_mem_utf8EncodeChar {c : Char} {x : UInt8} (h : x ∈ String.utf8EncodeChar c) :
    x.toNat = c.toNat ∨ 128 ≤ x.toNat := by
  have hval : c.val.toNat = c.toNat := rfl
  have hbyte (n : Nat) : (UInt8.ofNat n).toNat = n % 256 := UInt8.toNat_ofNat'
  unfold String.utf8EncodeChar at h
  simp only [hval] at h
  split at h
  · left
    rw [List.mem_singleton.1 h, hbyte]
    omega
  · right
    split at h
    · simp only [List.mem_cons, List.not_mem_nil, or_false] at h
      rcases h with rfl | rfl <;> rw [hbyte] <;> omega
    · split at h
      · simp only [List.mem_cons, List.not_mem_nil, or_false] at h
        rcases h with rfl | rfl | rfl <;> rw [hbyte] <;> omega
      · simp only [List.mem_cons, List.not_mem_nil, or_false] at h
        rcases h with rfl | rfl | rfl | rfl <;> rw [hbyte] <;> omega

theorem unbroken_ofString {s : String} (h : ∀ c ∈ s.toList, c ≠ '\r' ∧ c ≠ '\n') : (ofString s).Unbroken := by
  have hbytes : ofString s = s.toList.flatMap String.utf8EncodeChar := by
    rw [ofString, String.toUTF8_eq_toByteArray, ← String.utf8Encode_toList, List.utf8Encode]
    simp
  intro x hx
  rw [hbytes] at hx
  obtain ⟨c, hc, hxc⟩ := List.mem_flatMap.1 hx
  have hnot {d : Char} (hd : c ≠ d) (hascii : d.toNat < 128) : x.toNat ≠ d.toNat := by
    intro heq
    rcases toNat_of_mem_utf8EncodeChar hxc with hsame | hhigh
    · exact hd (Char.toNat_inj.1 (hsame.symm.trans heq))
    · omega
  refine ⟨?_, ?_⟩
  · rintro rfl
    exact hnot (h c hc).1 (by decide) rfl
  · rintro rfl
    exact hnot (h c hc).2 (by decide) rfl

/-- Bytes without line ends are good, and so are good bytes one after the other. -/
structure Joinable (good : Bytes → Prop) : Prop where
  unbroken : ∀ {b : Bytes}, b.Unbroken → good b
  append : ∀ {a b : Bytes}, good a → good b → good (a ++ b)

end Bytes

namespace Text

/-! ## Names and literals -/

theorem unbroken_isName {s : String} (h : isName s.toList = true) : (Bytes.ofString s).Unbroken := by
  have hpart {c : Char} (hc : isNamePart c = true) : c ≠ '\r' ∧ c ≠ '\n' := by
    constructor <;> rintro rfl <;> exact absurd hc (by decide)
  apply Bytes.unbroken_ofString
  cases hlist : s.toList with
  | nil => exact nofun
  | cons c cs =>
    rw [hlist, isName, Bool.and_eq_true, List.all_eq_true] at h
    refine List.forall_mem_cons.2 ⟨hpart ?_, fun c hc => hpart (h.2 c hc)⟩
    rw [isNamePart, h.1, Bool.true_or]

theorem unbroken_escaped {c x : Char} (h : x ∈ escaped c) : x ≠ '\r' ∧ x ≠ '\n' := by
  have hdigit : ∀ n < 16, Nat.digitChar n ≠ '\r' ∧ Nat.digitChar n ≠ '\n' := by decide
  unfold escaped at h
  split at h
  case h_8 =>
    split at h
    · simp only [List.mem_cons, List.not_mem_nil, or_false] at h
      rcases h with rfl | rfl | rfl | rfl | rfl | rfl
      · decide
      · decide
      · decide
      · decide
      · exact hdigit _ (by omega)
      · exact hdigit _ (by omega)
    · next hlow =>
      -- the two line ends are control characters
      obtain rfl := List.mem_singleton.1 h
      constructor <;> rintro rfl <;> exact hlow (by decide)
  all_goals
    simp only [List.mem_cons, List.not_mem_nil, or_false] at h
    rcases h with rfl | rfl <;> decide

/-- Line ends are escaped in a string literal. -/
theorem unbroken_quoted (s : String) : (Bytes.ofString (quoted s)).Unbroken := by
  apply Bytes.unbroken_ofString
  intro c hc
  rw [quoted, String.toList_ofList, List.cons_append, List.mem_cons, List.mem_append, List.mem_singleton] at hc
  rcases hc with rfl | hc | rfl
  · decide
  · obtain ⟨c', -, hc⟩ := List.mem_flatMap.1 hc
    exact unbroken_escaped hc
  · decide

section Joined
variable {good : Bytes → Prop} (hgood : Bytes.Joinable good)
include hgood

theorem good_append {s t : String} (hs : good (Bytes.ofString s)) (ht : good (Bytes.ofString t)) :
    good (Bytes.ofString (s ++ t)) := by
  rw [Bytes.ofString_append]
  exact hgood.append hs ht

theorem good_word {s : String} (h : (s.toList.all fun c => c != '\r' && c != '\n') = true) : good (Bytes.ofString s) := by
  refine hgood.unbroken (Bytes.unbroken_ofString fun c hc => ?_)
  simpa using List.all_eq_true.1 h c hc

theorem good_joined {ss : List String} (h : ∀ s ∈ ss, good (Bytes.ofString s)) :
    good (Bytes.ofString (joined ", " ss)) := by
  fun_induction joined ", " ss with
  | case1 => exact good_word hgood (by decide)
  | case2 s => exact h s List.mem_cons_self
  | case3 s t rest ih =>
    have hcomma : good (Bytes.ofString ", ") := good_word hgood (by decide)
    exact good_append hgood (good_append hgood (h s List.mem_cons_self) hcomma)
      (ih fun u hu => h u (List.mem_cons_of_mem s hu))

theorem good_orNone {name : Option String} (h : ∀ n, name = some n → good (Bytes.ofString n)) :
    good (Bytes.ofString (orNone name)) := by
  cases name with
  | none => exact good_word hgood (by decide)
  | some n => exact h n rfl

end Joined
end Text

/-! ## Declarations -/

/-- The names of the entry are good. -/
structure Specifier.Spelled (good : Bytes → Prop) (s : Specifier) : Prop where
  imported : ∀ name, s.imported = some name → good (Bytes.ofString name)
  localName : ∀ name, s.localName = some name → good (Bytes.ofString name)

/-- The names and the attributes of the declaration are good. -/
structure ImportDecl.Spelled (good : Bytes → Prop) (d : ImportDecl) : Prop where
  specifiers : ∀ s ∈ d.specifiers, s.Spelled good
  attributes : ∀ a, d.attributes = some a → good (Bytes.ofString a)

section Print
variable {good : Bytes → Prop} (hgood : Bytes.Joinable good)
include hgood

theorem Specifier.Spelled.good_print {s : Specifier} (h : s.Spelled good) : good (Bytes.ofString s.print) := by
  have halias : good (Bytes.ofString s.aliasClause) := by
    unfold aliasClause
    split
    · exact Text.good_word hgood (by decide)
    · next l hl =>
      split
      · exact Text.good_word hgood (by decide)
      · exact Text.good_append hgood (Text.good_word hgood (by decide)) (h.localName l hl)
  unfold print
  split
  · cases hlocal : s.localName with
    | none => exact Text.good_word hgood (by decide)
    | some l => exact h.localName l hlocal
  · exact Text.good_append hgood (Text.good_word hgood (by decide)) (Text.good_orNone hgood h.localName)
  · refine Text.good_append hgood (Text.good_append hgood ?_ (Text.good_orNone hgood h.imported)) halias
    split <;> exact Text.good_word hgood (by decide)

theorem ImportDecl.Spelled.good_clauses {d : ImportDecl} (h : d.Spelled good) :
    ∀ clause ∈ d.clauses, good (Bytes.ofString clause) := by
  have hprint {form : Specifier.Form} {s : Specifier} (hs : s ∈ d.ofForm form) : good (Bytes.ofString s.print) :=
    (h.specifiers s (List.mem_of_mem_filter hs)).good_print hgood
  intro clause hclause
  rcases List.mem_append.1 hclause with hclause | hclause
  · obtain ⟨s, hs, rfl⟩ := List.mem_map.1 hclause
    exact (List.mem_append.1 hs).elim hprint hprint
  · unfold namedClause at hclause
    split at hclause
    · cases hclause
    · obtain rfl := List.mem_singleton.1 hclause
      refine Text.good_append hgood (Text.good_append hgood (Text.good_word hgood (by decide)) ?_)
        (Text.good_word hgood (by decide))
      refine Text.good_joined hgood fun text htext => ?_
      obtain ⟨s, hs, rfl⟩ := List.mem_map.1 htext
      exact hprint hs

/-- What holds of the names and attributes of a declaration, of any bytes without line ends, and of two texts one after
the other, holds of its print. -/
theorem ImportDecl.Spelled.good_print {d : ImportDecl} (h : d.Spelled good) : good (Bytes.ofString d.print) := by
  have hbinding : good (Bytes.ofString d.bindingClause) := by
    unfold bindingClause
    split
    · exact Text.good_word hgood (by decide)
    · exact Text.good_append hgood (Text.good_joined hgood (h.good_clauses hgood)) (Text.good_word hgood (by decide))
  have hattributes : good (Bytes.ofString d.attributeClause) := by
    unfold attributeClause
    split
    · exact Text.good_word hgood (by decide)
    · next a ha =>
      split
      · exact Text.good_word hgood (by decide)
      · exact Text.good_append hgood (Text.good_word hgood (by decide)) (h.attributes a ha)
  have hliteral := hgood.unbroken (Text.unbroken_quoted d.origin)
  unfold print
  refine Text.good_append hgood (Text.good_append hgood (Text.good_append hgood (Text.good_append hgood ?_ hbinding)
    hliteral) hattributes) (Text.good_word hgood (by decide))
  split <;> exact Text.good_word hgood (by decide)

end Print

theorem ImportDecl.Spelled.merge {good : Bytes → Prop} {d : ImportDecl} {spec : Specifier} (h : d.Spelled good)
    (hspec : spec.Spelled good) : (d.merge spec).Spelled good := by
  refine ⟨fun s hs => ?_, h.attributes⟩
  rcases List.mem_append.1 (Specifier.mem_of_mem_dedup hs) with hs | hs
  · exact h.specifiers s hs
  · obtain rfl := List.mem_singleton.1 hs
    exact hspec

/-! ## Declarations that were read -/

section Read
variable {good : Bytes → Prop} {src : Bytes} {n : Node} (h : ∀ m ∈ n.nodes, good (Bytes.ofString (m.text src)))
include h

theorem Specifier.spelled_ofClausePart {part : Node} (hpart : part ∈ n.nodes) :
    ∀ s ∈ ofClausePart src part, s.Spelled good := by
  have hchild {m c : Node} {field : String} (hm : m ∈ n.nodes) (hc : m.child? field = some c) :
      good (Bytes.ofString (c.text src)) :=
    h c (Node.mem_nodes_trans hm (Node.child_mem_nodes (Node.mem_children_of_child? hc)))
  have hnamed {c : Node} {kind : String} (hc : c ∈ part.namedChildrenOfKind kind) : c ∈ n.nodes :=
    Node.mem_nodes_trans hpart (Node.child_mem_nodes (List.mem_of_mem_filter (List.mem_of_mem_filter hc)))
  intro s hs
  unfold ofClausePart at hs
  split at hs
  · obtain rfl := List.mem_singleton.1 hs
    exact ⟨nofun, fun name hname => Option.some.inj hname ▸ h part hpart⟩
  · obtain rfl := List.mem_singleton.1 hs
    refine ⟨nofun, fun name hname => ?_⟩
    obtain ⟨c, hc, rfl⟩ := Option.map_eq_some_iff.1 hname
    exact h c (hnamed (List.mem_of_head? hc))
  · obtain ⟨m, hm, rfl⟩ := List.mem_map.1 hs
    constructor
    · intro name hname
      obtain ⟨c, hc, rfl⟩ := Option.map_eq_some_iff.1 hname
      exact hchild (hnamed hm) hc
    · intro name hname
      obtain ⟨c, hc, rfl⟩ := Option.map_eq_some_iff.1 hname
      exact hchild (hnamed hm) hc
  · cases hs

/-- The names and attributes of a declaration that was read are texts of nodes. -/
theorem ImportDecl.spelled_ofNode? {decl : ImportDecl} (hdecl : ofNode? src n = some decl) : decl.Spelled good := by
  have hnamed {m c : Node} (hm : m ∈ n.nodes) (hc : c ∈ m.namedChildren) : c ∈ n.nodes :=
    Node.mem_nodes_trans hm (Node.child_mem_nodes (List.mem_of_mem_filter hc))
  unfold ofNode? at hdecl
  split at hdecl
  · cases hdecl
  · obtain ⟨origin, -, rfl⟩ := Option.map_eq_some_iff.1 hdecl
    constructor
    · intro s hs
      dsimp only at hs
      unfold specifiersOf at hs
      split at hs
      · cases hs
      · next clause hclause =>
        have hclause := hnamed n.self_mem_nodes (List.mem_of_mem_filter (List.mem_of_getLast? hclause))
        obtain ⟨part, hpart, hs⟩ := List.mem_flatMap.1 hs
        exact Specifier.spelled_ofClausePart h (hnamed hclause hpart) s hs
    · intro a ha
      obtain ⟨c, hc, rfl⟩ := Option.map_eq_some_iff.1 ha
      exact h c (hnamed n.self_mem_nodes (List.mem_of_mem_filter (List.mem_of_getLast? hc)))

end Read
end CallRedirect
