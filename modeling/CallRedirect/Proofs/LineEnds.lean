import CallRedirect.Proofs.Outcomes
import CallRedirect.Proofs.Spelling
import Mathlib.Data.List.Chain

/-! # Line ends

A run puts line ends into a file of the kind the file has. If there is no carriage return in a file, a run brings none in.
If every line feed of a file comes behind a carriage return, then so it is after a run, but for one case: the first line of
a script takes in the carriage return at its end, and an import that is put right behind it comes between the two bytes of
the line end.

* `Bytes.Paired`: every line feed comes behind a carriage return.
* `Node.KeepsLineEnds`: a promise of the parser, that only comments part the two bytes.
* `Settings.good_run`: what holds of windows of a file, holds of its text after a run.
* `Document.SplitsLineEnd`: a new import comes between the two bytes.
* `Settings.run_lineEnds`: the line ends of a file after a run. -/

namespace CallRedirect
set_option autoImplicit false

/-! ## Pairs -/

namespace Bytes

/-- Every line feed comes right behind a carriage return. -/
def Paired (b : Bytes) : Prop :=
  b.head? ≠ some lineFeed ∧ b.IsChain fun x y => y = lineFeed → x = carriageReturn

instance (b : Bytes) : Decidable b.Paired := inferInstanceAs (Decidable (_ ∧ _))

theorem Paired.append {a b : Bytes} (ha : a.Paired) (hb : b.Paired) : Paired (a ++ b) := by
  refine ⟨?_, List.isChain_append.2 ⟨ha.2, hb.2, fun x _ y hy hline => ?_⟩⟩
  · cases a with
    | nil => exact hb.1
    | cons x a => exact ha.1
  · rw [hline] at hy
    exact absurd hy hb.1

theorem Paired.slice {src : Bytes} (h : src.Paired) {p : Nat} (hp : src[p]? ≠ some lineFeed) (q : Nat) :
    (src.slice p q).Paired := by
  refine ⟨fun hhead => ?_, (h.2.take q).drop p⟩
  rw [Bytes.slice, List.head?_drop, List.getElem?_take] at hhead
  split at hhead
  · exact hp hhead
  · cases hhead

theorem Paired.getLast? {a b : Bytes} (h : Paired (a ++ lineFeed :: b)) : a.getLast? = some carriageReturn := by
  cases hlast : a.getLast? with
  | none =>
    rw [List.getLast?_eq_none_iff.1 hlast] at h
    exact absurd rfl h.1
  | some x => rw [(List.isChain_append.1 h.2).2.2 x hlast lineFeed rfl rfl]

theorem joinable_paired : Joinable Paired where
  unbroken := by
    intro b hb
    have hline : lineFeed ∉ b := fun hmem => (hb _ hmem).2 rfl
    refine ⟨fun hhead => hline (List.mem_of_head? hhead), ?_⟩
    apply List.Pairwise.isChain
    refine List.pairwise_of_forall_mem_list fun x _ y hy heq => ?_
    exact absurd (heq ▸ hy) hline
  append := Paired.append

theorem joinable_noCarriageReturn : Joinable fun b => carriageReturn ∉ b where
  unbroken := fun hb hmem => (hb _ hmem).1 rfl
  append := fun ha hb hmem => (List.mem_append.1 hmem).elim ha hb

theorem mem_of_hasCrLf {b : Bytes} (h : b.hasCrLf = true) : carriageReturn ∈ b := by
  fun_induction hasCrLf b with
  | case1 x y rest ih =>
    rw [Bool.or_eq_true, Bool.and_eq_true, beq_iff_eq] at h
    rcases h with h | h
    · exact h.1 ▸ List.mem_cons_self
    · exact List.mem_cons_of_mem x (ih h)
  | case2 => cases h

end Bytes

/-! ## Windows -/

/-- What a parser promises about line ends: no node starts between the two bytes of one, and only comments stop there. -/
def Node.KeepsLineEnds (src : Bytes) (root : Node) : Prop :=
  ∀ n ∈ root.nodes, src[n.start]? ≠ some Bytes.lineFeed ∧ (src[n.stop]? = some Bytes.lineFeed → n.isComment = true)

instance (src : Bytes) (root : Node) : Decidable (root.KeepsLineEnds src) :=
  inferInstanceAs (Decidable (∀ n ∈ root.nodes, _))

namespace Document

theorem woven_paired {src : Bytes} {root : Node} (hstyle : src.hasCrLf = true) (hpaired : src.Paired)
    (htree : root.KeepsLineEnds src) :
    Woven src root (fun p => src[p]? ≠ some Bytes.lineFeed) (fun _ => True) Bytes.Paired := by
  refine ⟨⟨Bytes.Paired.append, fun hp _ => hpaired.slice hp _⟩, ?_, ⟨?_, trivial⟩, trivial,
    fun n hn => ⟨(htree n hn).1, trivial⟩, fun n hn => ⟨trivial, fun hcomment hline => ?_⟩⟩
  · rw [Bytes.newline, if_pos hstyle]
    decide
  · rw [← List.head?_eq_getElem?]
    exact hpaired.1
  · rw [(htree n hn).2 hline] at hcomment
    cases hcomment

theorem woven_noCarriageReturn {src : Bytes} (root : Node) (h : Bytes.carriageReturn ∉ src) :
    Woven src root (fun _ => True) (fun _ => True) fun b => Bytes.carriageReturn ∉ b := by
  refine ⟨⟨Bytes.joinable_noCarriageReturn.append, fun _ _ hmem => ?_⟩, ?_, ⟨trivial, trivial⟩, trivial,
    fun _ _ => ⟨trivial, trivial⟩, fun _ _ => ⟨trivial, fun _ => trivial⟩⟩
  · exact h (List.mem_of_mem_take (List.mem_of_mem_drop hmem))
  · have hstyle : ¬ src.hasCrLf = true := fun hstyle => h (Bytes.mem_of_hasCrLf hstyle)
    rw [Bytes.newline, if_neg hstyle]
    decide

end Document

/-! ## Runs -/

theorem Node.ofString_text {code : String} {root n : Node} (hroot : root.WellFormed code) (hn : n ∈ root.nodes) :
    Bytes.ofString (n.text (Bytes.ofString code)) = (Bytes.ofString code).slice n.start n.stop := by
  obtain ⟨s, hs⟩ := Bytes.isText_slice (hroot.boundaries n hn).1 (hroot.boundaries n hn).2
  rw [text, ← hs, Bytes.text, Bytes.text?_ofString, Option.getD_some]

theorem Document.ofNode?_of_mem_valueGroups {src : Bytes} {root : Node} {origin : String}
    {p : (Group × Nat) × ImportDecl} (h : p ∈ valueGroups src root origin) :
    ∃ n ∈ root.children, ImportDecl.ofNode? src n = some p.2 := by
  have hgroup := List.mem_of_getElem? (mem_valueGroups h)
  obtain ⟨q, -, hp⟩ := List.mem_filterMap.1 h
  obtain ⟨decl, hdecl, rfl⟩ := Option.map_eq_some_iff.1 hp
  refine ⟨q.1.item.node, item_mem_children hgroup, ?_⟩
  have himport := (Option.filter_eq_some_iff.1 hdecl).1
  unfold Item.import? at himport
  split at himport
  · exact himport
  · cases himport

namespace Settings

/-- All names in the settings are identifiers. -/
def Named (s : Settings) : Prop :=
  ∀ name ∈ s.object :: s.severity :: s.function :: s.localName.toList, Text.isName name.toList = true

instance (s : Settings) : Decidable s.Named := inferInstanceAs (Decidable (∀ name ∈ _, _))

section Names
variable {s : Settings} (h : s.Named)
include h

theorem Named.unbroken {name : String} (hname : name = s.function ∨ s.localName = some name) :
    (Bytes.ofString name).Unbroken := by
  refine Text.unbroken_isName (h name ?_)
  rcases hname with rfl | hname <;> simp [*]

theorem Named.unbroken_callee : (Bytes.ofString s.callee).Unbroken := by
  unfold callee
  split
  · exact h.unbroken (.inl rfl)
  · next l hl =>
    split
    · exact h.unbroken (.inl rfl)
    · exact h.unbroken (.inr hl)

theorem Named.severity_ne : s.severity ≠ "" := by
  intro heq
  have hname := h s.severity (by simp)
  rw [heq] at hname
  exact absurd hname (by decide)

theorem Named.spelled_specifier {good : Bytes → Prop} (hgood : Bytes.Joinable good) :
    s.request.specifier.Spelled good := by
  constructor
  · intro name hname
    obtain rfl := Option.some.inj hname
    exact hgood.unbroken (h.unbroken (.inl rfl))
  · intro name hname
    have hlocal : s.localName = some name := by
      have hname : (if s.localName = some s.function then none else s.localName) = some name := hname
      split at hname
      · cases hname
      · exact hname
    exact hgood.unbroken (h.unbroken (.inr hlocal))

end Names

section Process
variable {s : Settings} {code : String} {root : Node} (hnames : s.Named) (hroot : root.WellFormed code)
include hnames hroot

/-- The document of a run that redirects calls. -/
theorem process_document {p : Processed} (hp : s.process (.ofItems (Bytes.ofString code) root) = .ok p)
    (hpos : 0 < p.redirected) :
    ∃ changed d, (Document.ofItems (Bytes.ofString code) root).ensured s.request = .ok (changed, d) ∧
      p.session.document = d.marked (Session.placedAt (.ofItems (Bytes.ofString code) root) s.target) := by
  have hsome : Session.ambientCalls (.ofItems (Bytes.ofString code) root) s.target ≠ [] := by
    rw [redirected_process hp, Session.length_placed hroot] at hpos
    exact List.ne_nil_of_length_pos hpos
  have hprocess := process_of_ambient hroot
    (fun c hc => CallSite.callee_width hroot hnames.severity_ne hc) hsome
  split at hprocess
  · obtain ⟨notices, herror⟩ := hprocess
    rw [hp] at herror
    cases herror
  · next changed d hd =>
    obtain ⟨p', hp', -, -, hdocument⟩ := hprocess
    obtain rfl : p = p' := Except.ok.inj (hp.symm.trans hp')
    exact ⟨changed, d, hd, hdocument⟩

/-- What holds of the windows of a file and of bytes without line ends, holds of the text of the file after a run, if the
file may be opened behind the items above a new import. -/
theorem good_run {opens closes : Nat → Prop} {good : Bytes → Prop}
    (hwoven : Document.Woven (Bytes.ofString code) root opens closes good) (hgood : Bytes.Joinable good) {changed : Bool}
    {d : Document} (hd : (Document.ofItems (Bytes.ofString code) root).ensured s.request = .ok (changed, d))
    (hanchored : Slot.Anchored opens none (d.places.map Place.slot)) {out : Bytes}
    (hout : (d.marked (Session.placedAt (.ofItems (Bytes.ofString code) root) s.target)).renderBytes = .ok out) :
    good out := by
  have hspec : s.request.specifier.Spelled good := hnames.spelled_specifier hgood
  have hmade := made_marked (s := s) (ImportDecl.Spelled good)
    ⟨fun spec h => List.mem_singleton.1 h ▸ hspec, nofun⟩ (fun i decl hmem => ?_) hd
  · refine Document.Made.good_renderBytes hwoven hroot.inOrder_children ?_ (fun decl h => h.good_print hgood) hmade
      (by rwa [Document.places_marked]) hout
    rintro r ⟨c, hc, rfl⟩
    obtain ⟨hsite, hshape⟩ := CallSite.mem_all_iff.1 hc
    have hcall := Node.node_mem_nodes hsite
    have hcallee := Node.mem_nodes_trans hcall (Node.child_mem_nodes (CallSite.callee_mem_children hshape))
    have hplain {n : Node} {kind : String} (hkind : n.kind = kind)
        (hnot : (⟨kind, true, false, 0, 0, none, []⟩ : Node).isComment = false) : n.isComment = false := by
      rw [← hnot, Node.isComment, Node.isComment, Document.Item.isComment, Document.Item.isComment, hkind]
    exact ⟨(hwoven.starts _ hcall).2, (hwoven.stops _ hcall).2 (hplain hshape.call (by decide)),
      (hwoven.stops _ hcallee).2 (hplain hshape.access (by decide)), (hwoven.stops _ hcall).1,
      hgood.unbroken hnames.unbroken_callee⟩
  · rw [Document.valueImportsFrom_ofItems] at hmem
    obtain ⟨q, hq, hpair⟩ := List.mem_map.1 hmem
    obtain rfl : q.2 = decl := (Prod.mk.inj hpair).2
    obtain ⟨g, hg, hdecl⟩ := Document.ofNode?_of_mem_valueGroups hq
    refine ImportDecl.Spelled.merge (ImportDecl.spelled_ofNode? (fun m hm => ?_) hdecl) hspec
    have hm := Node.mem_nodes_of_child hg hm
    rw [Node.ofString_text hroot hm]
    exact hwoven.window (hwoven.starts m hm).1 (hwoven.stops m hm).1

end Process

end Settings

/-! ## Where a new import stands -/

namespace Slot
variable {opens : Nat → Prop}

theorem anchored_append {anchor : Option Slot} {xs ys : List (Option Slot)} :
    Anchored opens anchor (xs ++ ys) ↔ Anchored opens anchor xs ∧ Anchored opens (last anchor xs) ys := by
  induction xs generalizing anchor with
  | nil => exact ⟨fun h => ⟨trivial, h⟩, fun h => h.2⟩
  | cons x xs ih =>
    rw [List.cons_append, Anchored, Anchored, ih, and_assoc]
    rfl

theorem anchored_some (anchor : Option Slot) (slots : List Slot) : Anchored opens anchor (slots.map some) := by
  induction slots generalizing anchor with
  | nil => trivial
  | cons slot slots ih => exact ⟨nofun, ih _⟩

theorem last_some (anchor : Option Slot) (slots : List Slot) :
    last anchor (slots.map some) = slots.getLast?.or anchor := by
  rw [last_eq, List.filterMap_map, Function.id_comp, List.filterMap_some]

end Slot

namespace Document

/-- Where the items of a file stand, with a new import behind the first of them. -/
def slotsAround (above below : List Item) : List (Option Slot) :=
  (above.map Item.slot).map some ++ none :: (below.map Item.slot).map some

theorem anchored_slotsAround {opens : Nat → Prop} {above below : List Item}
    (h : ∀ i, above.getLast? = some i → opens i.node.stop) : Slot.Anchored opens none (slotsAround above below) := by
  refine Slot.anchored_append.2 ⟨Slot.anchored_some _ _, fun _ a ha => ?_, Slot.anchored_some _ _⟩
  rw [Slot.last_some, Option.or_none, List.getLast?_map] at ha
  obtain ⟨i, hi, rfl⟩ := Option.map_eq_some_iff.1 ha
  exact h i hi

/-- A declaration of its own is put in for the request. -/
def PutsIn (src : Bytes) (root : Node) (r : Request) : Prop :=
  ∀ p ∈ valueImports src root r.origin, p.2.isStarForm = true

instance (src : Bytes) (root : Node) (r : Request) : Decidable (PutsIn src root r) :=
  inferInstanceAs (Decidable (∀ p ∈ _, _))

/-- The items of a file keep their places, and a new import is put behind the items above it. -/
theorem slots_ensured {src : Bytes} {root : Node} {r : Request} (horder : Node.InOrder 0 src.length root.children)
    {changed : Bool} {d : Document} (hd : (ofItems src root).ensured r = .ok (changed, d)) :
    if PutsIn src root r then
      ∃ below, items root = (outline src root).above src ++ below ∧
        d.places.map Place.slot = slotsAround ((outline src root).above src) below
    else d.places.map Place.slot = ((items root).map Item.slot).map some := by
  have hinserted : ∃ below, items root = (outline src root).above src ++ below ∧
      ((ofItems src root).withImport r).places.map Place.slot = slotsAround ((outline src root).above src) below := by
    have himport : ((ofItems src root).withImport r).PrintsImport src root _ := Session.printsImport_ofItems r horder
    obtain ⟨below, haround, -⟩ := himport.around
    have hitems := haround.items
    rw [himport.tree] at hitems
    refine ⟨below.map Printed.item, hitems, ?_⟩
    rw [← map_slot_pieces haround.pieces, slotsAround]
    simp only [List.map_append, List.map_cons, List.map_map]
    rfl
  have hsame : (ofItems src root).places.map Place.slot = ((items root).map Item.slot).map some := by
    rw [places_ofItems, List.map_map, List.map_map]
    rfl
  have hputs : PutsIn src root r ↔ ∀ p ∈ (ofItems src root).valueImportsFrom r.origin, p.2.isStarForm = true := by
    rw [PutsIn, valueImports_eq, valueImportsFrom_ofItems, List.forall_mem_map, List.forall_mem_map]
  unfold ensured at hd
  split at hd
  · next hvalues =>
    obtain ⟨-, rfl⟩ := Prod.mk.inj (Except.ok.inj hd)
    rw [if_pos (hputs.2 (by simp [hvalues]))]
    exact hinserted
  · next i decl hvalues =>
    rw [hvalues, List.forall_mem_singleton] at hputs
    have hmem : (i, decl) ∈ (ofItems src root).valueImportsFrom r.origin := hvalues ▸ List.mem_singleton_self _
    split at hd
    · next hstar =>
      obtain ⟨-, rfl⟩ := Prod.mk.inj (Except.ok.inj hd)
      rw [if_pos (hputs.2 hstar)]
      exact hinserted
    · next hstar =>
      rw [if_neg fun h => hstar (hputs.1 h)]
      split at hd
      · obtain ⟨-, rfl⟩ := Prod.mk.inj (Except.ok.inj hd)
        exact hsame
      · obtain ⟨-, rfl⟩ := Prod.mk.inj (Except.ok.inj hd)
        obtain ⟨st, hst, -⟩ := mem_imports_iff.1 (mem_valueImportsFrom_iff.1 hmem).1
        obtain ⟨above, below, hold, hnew⟩ := places_merge hst decl r.specifier
        rw [← hsame, hold, hnew]
        simp [Statement.place]
  · cases hd

end Document

/-! ## Between the two bytes -/

namespace Piece

theorem exists_continued (src : Bytes) (p : Piece) (anchor : Option Slot) (ps : List Piece) (q : Piece)
    (qs : List Piece) :
    ∃ before, continued src p anchor (ps ++ q :: qs) =
      before ++ (q.bytes ++ continued src q (Slot.last anchor ((ps ++ [q]).map Piece.slot)) qs) := by
  induction ps generalizing p anchor with
  | nil => exact ⟨separator src p q anchor, List.append_assoc ..⟩
  | cons r ps ih =>
    obtain ⟨before, hbefore⟩ := ih r (r.slot.or anchor)
    refine ⟨separator src p r anchor ++ r.bytes ++ before, ?_⟩
    rw [List.cons_append, continued, hbefore, List.append_assoc _ before]
    rfl

/-- A row down to a piece, that piece, and the row from there on. -/
theorem exists_row (src : Bytes) (ps : List Piece) (q : Piece) (qs : List Piece) :
    ∃ before, row src (ps ++ q :: qs) =
      before ++ (q.bytes ++ continued src q (Slot.last none ((ps ++ [q]).map Piece.slot)) qs) := by
  cases ps with
  | nil =>
    refine ⟨[], ?_⟩
    rw [List.nil_append, row, List.nil_append, List.nil_append, List.map_singleton, Slot.last_cons, Option.or_none]
    rfl
  | cons p ps =>
    obtain ⟨before, hbefore⟩ := exists_continued src p p.slot ps q qs
    refine ⟨p.bytes ++ before, ?_⟩
    rw [List.cons_append, row, hbefore, List.append_assoc, List.cons_append, List.map_cons, Slot.last_cons, Option.or_none]

end Piece

namespace Document

/-- A declaration of its own is put in for the request, right behind an item that stops between the two bytes of a line
end. -/
def SplitsLineEnd (src : Bytes) (root : Node) (r : Request) : Prop :=
  PutsIn src root r ∧
    ∃ i, ((outline src root).above src).getLast? = some i ∧ src[i.node.stop]? = some Bytes.lineFeed

theorem Made.exists_decl {src : Bytes} {root : Node} {replaced : Replacement → Prop} {written : ImportDecl → Prop}
    {d : Document} (h : d.Made src root replaced written) {ps : List Piece} (hps : d.pieces = .ok ps) {p : Piece}
    (hp : p ∈ ps) (hslot : p.slot = none) : ∃ decl : ImportDecl, p.bytes = Bytes.ofString decl.print := by
  rcases h.mem_pieces hps hp with ⟨c, placement, ⟨i, -, -, hkept⟩, rfl⟩ | ⟨s, bytes, hs, hrender, rfl⟩
  · exact absurd (hkept.symm.trans hslot) (by simp)
  · have hverbatim : s.verbatim = false := by
      cases hverbatim : s.verbatim with
      | false => rfl
      | true =>
        have hsome := hs.verbatim hverbatim
        rw [show s.slot = none from hslot] at hsome
        cases hsome
    obtain ⟨decl, hform, -⟩ := hs.anew hverbatim
    rw [Statement.render, hverbatim] at hrender
    dsimp only at hrender
    rw [Statement.generate, hform] at hrender
    exact ⟨decl, (Except.ok.inj hrender).symm⟩

/-- Behind an import that is put between the two bytes of a line end stands a line feed. -/
theorem continued_split {src : Bytes} {root : Node} {above below : List Item} {i : Item} {q : Piece} {qs : List Piece}
    (horder : Node.InOrder 0 src.length root.children) (htree : root.KeepsLineEnds src)
    (hitems : items root = above ++ below) (hlast : above.getLast? = some i)
    (hline : src[i.node.stop]? = some Bytes.lineFeed) (hq : q.slot = none)
    (hqs : qs.map Piece.slot = (below.map Item.slot).map some) :
    ∃ rest, Piece.continued src q (some i.slot) qs ++ src.drop ((root.children.getLast?.map Node.stop).getD 0) =
      Bytes.lineFeed :: rest := by
  have hdrop : src.drop i.node.stop = Bytes.lineFeed :: src.drop (i.node.stop + 1) := by
    obtain ⟨hlt, heq⟩ := List.getElem?_eq_some_iff.1 hline
    rw [List.drop_eq_getElem_cons hlt, heq]
  cases below with
  | nil =>
    obtain rfl := List.map_eq_nil_iff.1 hqs
    have hstop : (root.children.getLast?.map Node.stop).getD 0 = i.node.stop := by
      rw [← map_node_items, hitems, List.append_nil, List.getLast?_map, hlast]
      rfl
    rw [hstop]
    exact ⟨_, hdrop⟩
  | cons j js =>
    obtain ⟨r, rs, rfl, hr, -⟩ := List.map_eq_cons_iff.1 hqs
    have hchain := isChain_next_items root
    rw [hitems] at hchain
    have hnext : i.Next j := (List.isChain_append.1 hchain).2.2 i hlast j rfl
    have hle : i.node.stop ≤ j.node.start := by
      have hapart := horder.apart
      rw [← map_node_items, hitems, List.map_append, List.pairwise_append] at hapart
      exact hapart.2.2 _ (List.mem_map_of_mem (List.mem_of_getLast? hlast)) _ List.mem_cons_self
    have hne : i.node.stop ≠ j.node.start := by
      intro heq
      have hj : j ∈ items root := hitems ▸ List.mem_append_right _ List.mem_cons_self
      exact (htree j.node (mem_nodes_of_mem_items hj)).1 (heq ▸ hline)
    -- what stood between the two items starts with the line feed
    have hgap : ∃ gap, src.slice i.node.stop j.node.start = Bytes.lineFeed :: gap := by
      rw [Bytes.slice, List.drop_take, hdrop]
      obtain ⟨k, hk⟩ := Nat.exists_eq_add_of_lt (Nat.lt_of_le_of_ne hle hne)
      exact ⟨_, by rw [show j.node.start - i.node.stop = k + 1 by omega, List.take_succ_cons]⟩
    obtain ⟨gap, hgap⟩ := hgap
    have hseparator : Piece.separator src q r (some i.slot) = Bytes.lineFeed :: gap := by
      have hfeed : (Piece.gap src i.slot j.slot).hasLineFeed = true := by
        show (src.slice i.node.stop j.node.start).hasLineFeed = true
        simp [hgap, Bytes.hasLineFeed]
      have hadjacent : Piece.adjacent i.slot j.slot = true := beq_iff_eq.2 hnext
      simp only [Piece.separator, hq, hr, hadjacent, hfeed, Bool.and_self, if_true]
      exact hgap
    rw [Piece.continued, hseparator]
    exact ⟨gap ++ r.bytes ++ Piece.continued src r (r.slot.or (some i.slot)) rs ++ src.drop _, rfl⟩

/-- A new import between the two bytes of a line end leaves a line feed behind it without a carriage return. -/
theorem not_paired_of_split {src : Bytes} {root : Node} {replaced : Replacement → Prop} {written : ImportDecl → Prop}
    {d : Document} (h : d.Made src root replaced written) (horder : Node.InOrder 0 src.length root.children)
    (htree : root.KeepsLineEnds src) {above below : List Item} (hitems : items root = above ++ below)
    (hslots : d.places.map Place.slot = slotsAround above below) {i : Item} (hlast : above.getLast? = some i)
    (hline : src[i.node.stop]? = some Bytes.lineFeed) {out : Bytes} (hout : d.renderBytes = .ok out) : ¬ out.Paired := by
  obtain ⟨ps, hps, hout⟩ := Failure.bind_eq_ok_iff.1 hout
  obtain rfl := Except.ok.inj hout
  have hpieces := (map_slot_pieces hps).trans hslots
  obtain ⟨qs, rest, rfl, hqs, hrest⟩ := List.map_eq_append_iff.1 hpieces
  obtain ⟨q, rs, rfl, hq, hrs⟩ := List.map_eq_cons_iff.1 hrest
  obtain ⟨decl, hdecl⟩ := h.exists_decl hps (List.mem_append_right _ List.mem_cons_self) hq
  obtain ⟨before, hbefore⟩ := Piece.exists_row src qs q rs
  have hanchor : Slot.last none ((qs ++ [q]).map Piece.slot) = some i.slot := by
    rw [List.map_append, hqs, Slot.last_eq, List.filterMap_append]
    simp [hq, List.filterMap_map, hlast]
  obtain ⟨behind, hbehind⟩ := continued_split horder htree hitems hlast hline hq hrs
  rw [h.source, h.bodyStop, h.tree, hbefore, hanchor]
  intro hpaired
  have hsplit : src.take d.bodyStart ++ (before ++ (q.bytes ++ Piece.continued src q (some i.slot) rs)) ++
      src.drop ((root.children.getLast?.map Node.stop).getD 0) =
      (src.take d.bodyStart ++ before ++ q.bytes) ++ Bytes.lineFeed :: behind := by
    rw [← hbehind]
    simp only [List.append_assoc]
  rw [hsplit] at hpaired
  have hlast := hpaired.getLast?
  have hsemicolon : Bytes.ofString ";" = [59] := by decide +kernel
  rw [hdecl, ImportDecl.print, Bytes.ofString_append, hsemicolon, ← List.append_assoc, List.getLast?_concat] at hlast
  exact absurd hlast (by decide)

end Document

/-! ## All runs -/

namespace Settings

/-- The line ends of a file after a run. In a file without carriage returns there are none after the run. In a file in
which every line feed comes behind a carriage return it is so after the run, exactly unless an import was put between the
two bytes of a line end. -/
theorem run_lineEnds {s : Settings} {file : SourceText} {o : Outcome} (hnames : s.Named)
    (hroot : file.root.WellFormed file.code) (hrun : (s.run file).result = .ok o) :
    let src := Bytes.ofString file.code
    let out := Bytes.ofString o.code
    (Bytes.carriageReturn ∉ src → Bytes.carriageReturn ∉ out) ∧
      (src.hasCrLf = true → src.Paired → file.root.KeepsLineEnds src →
        (out.Paired ↔ ¬ (0 < o.redirected ∧ Document.SplitsLineEnd src file.root s.request))) := by
  intro src out
  obtain ⟨p, -, hp, hredirected, ⟨hzero, hcode, -⟩ | ⟨hpos, hrender, -⟩⟩ := run_cases hrun
  · have hout : out = src := congrArg Bytes.ofString hcode
    rw [hout]
    refine ⟨id, fun _ hpaired _ => iff_of_true hpaired fun h => ?_⟩
    omega
  · obtain ⟨bytes, hbytes, hdecode⟩ := Failure.bind_eq_ok_iff.1 hrender
    obtain rfl : bytes = out := Bytes.eq_ofString_of_decode hdecode
    obtain ⟨changed, d, hd, hdocument⟩ := process_document hnames hroot hp hpos
    rw [hdocument] at hbytes
    have hslots := Document.slots_ensured hroot.inOrder_children hd
    constructor
    · intro hnone
      refine good_run hnames hroot (Document.woven_noCarriageReturn file.root hnone) Bytes.joinable_noCarriageReturn hd ?_
        hbytes
      exact Document.anchored_of_forall nofun fun _ _ => trivial
    · intro hstyle hpaired htree
      constructor
      · rintro hout ⟨-, hputs, i, hlast, hline⟩
        rw [if_pos hputs] at hslots
        obtain ⟨below, hitems, hslots⟩ := hslots
        have hmade := made_marked (fun _ => True) trivial (fun _ _ _ => trivial) hd
        exact Document.not_paired_of_split hmade hroot.inOrder_children htree hitems
          (by rwa [Document.places_marked]) hlast hline hbytes hout
      · intro hnot
        refine good_run hnames hroot (Document.woven_paired hstyle hpaired htree) Bytes.joinable_paired hd ?_ hbytes
        by_cases hputs : Document.PutsIn src file.root s.request
        · rw [if_pos hputs] at hslots
          obtain ⟨below, -, hslots⟩ := hslots
          rw [hslots]
          exact Document.anchored_slotsAround fun i hlast hline =>
            hnot ⟨hredirected ▸ hpos, hputs, i, hlast, hline⟩
        · rw [if_neg hputs] at hslots
          rw [hslots]
          exact Slot.anchored_some _ _

/-- A script with an import and a call to redirect, in which lines end in two bytes. -/
def importingScript : SourceText where
  code := "#!/usr/bin/env node\r\nimport a from \"m\";\r\nconsole.error(e);\r\n"
  root :=
    ⟨"program", true, false, 0, 60, none,
      [⟨"hash_bang_line", true, false, 0, 20, none, []⟩,
        ⟨"import_statement", true, false, 21, 39, none,
          [⟨"import_clause", true, false, 28, 29, none, [⟨"identifier", true, false, 28, 29, none, []⟩]⟩,
            ⟨"string", true, false, 35, 38, some "source", []⟩]⟩,
        ⟨"expression_statement", true, false, 41, 58, none,
          [Session.consoleCall 41 57 [⟨"identifier", true, false, 55, 56, none, []⟩]]⟩]⟩

theorem run_lineEnds_script :
    (Bytes.ofString importingScript.code).hasCrLf = true ∧ (Bytes.ofString importingScript.code).Paired ∧
      ∃ o, (run {} importingScript).result = .ok o ∧ 0 < o.redirected ∧ (Bytes.ofString o.code).Paired := by
  have hstyle : (Bytes.ofString importingScript.code).hasCrLf = true := by decide +kernel
  have hpaired : (Bytes.ofString importingScript.code).Paired := by decide +kernel
  have hcount : (run {} importingScript).result.toOption.map Outcome.redirected = some 1 := by decide +kernel
  have hlast : ∀ i, ((Document.outline (Bytes.ofString importingScript.code) importingScript.root).above
      (Bytes.ofString importingScript.code)).getLast? = some i →
        (Bytes.ofString importingScript.code)[i.node.stop]? ≠ some Bytes.lineFeed := by decide +kernel
  cases hrun : (run {} importingScript).result with
  | error e =>
    rw [hrun] at hcount
    cases hcount
  | ok o =>
    rw [hrun] at hcount
    have hone : o.redirected = 1 := Option.some.inj hcount
    have hout := (run_lineEnds (s := {}) (by decide +kernel) (by decide +kernel) hrun).2 hstyle hpaired (by decide +kernel)
    refine ⟨hstyle, hpaired, o, rfl, by omega, hout.2 ?_⟩
    rintro ⟨-, -, i, hi, hline⟩
    exact hlast i hi hline

/-- A script with a call to redirect and nothing else, in which lines end in two bytes. -/
def plainScript : SourceText where
  code := "#!/usr/bin/env node\r\nconsole.error(e);\r\n"
  root :=
    ⟨"program", true, false, 0, 40, none,
      [⟨"hash_bang_line", true, false, 0, 20, none, []⟩,
        ⟨"expression_statement", true, false, 21, 38, none,
          [Session.consoleCall 21 37 [⟨"identifier", true, false, 35, 36, none, []⟩]]⟩]⟩

/-- The import comes between the two bytes of the first line end, and the line feed behind it stands alone. -/
theorem run_splits_lineEnd :
    (Bytes.ofString plainScript.code).hasCrLf = true ∧ (Bytes.ofString plainScript.code).Paired ∧
      (run { dialect := .js } plainScript).result.toOption.map Outcome.code =
        some "#!/usr/bin/env node\r\r\nimport \x7b logError \x7d from \"src/lib.logger\";\nlogError(e);\r\n" ∧
      ¬ (Bytes.ofString
        "#!/usr/bin/env node\r\r\nimport \x7b logError \x7d from \"src/lib.logger\";\nlogError(e);\r\n").Paired := by
  refine ⟨by decide +kernel, by decide +kernel, by decide +kernel, by decide +kernel⟩

end Settings
end CallRedirect
