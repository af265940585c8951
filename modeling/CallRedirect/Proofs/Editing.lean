import CallRedirect.Proofs.Attaching

/-! # Printing what was edited

After any edits a document holds comments and statements of its file, in any order and under any statements, and new ones
between them. What is put before a piece depends on the piece before it, on the piece itself and on the last piece that
stood in the file. Said here of every document that edits can lead to: a block of items that stand as they stood prints
as the file has it, and what is put between any other two pieces ends a line.

* `Document.Sourced`: what every edit keeps.
* `Session.sourced_foldl_attempt`: so any sequence of edits keeps it.
* `Document.Cell`: a printed part, with what is put before it.
* `Document.Printout`: the text of an edited document, cell by cell.
* `Session.edited_printout`: the text after any edits. -/

namespace CallRedirect
set_option autoImplicit false

/-! ## What edits keep -/

/-- The comment is new, or as it was read from the file. -/
def Comment.Sourced (src : Bytes) (root : Node) (c : Comment) : Prop :=
  c.slot = none ∨ ∃ i ∈ Document.items root, i.isComment = true ∧ ∃ placement, c = i.comment src placement

/-- The statement is new, or has the slot of one of the file. -/
structure Statement.Sourced (src : Bytes) (root : Node) (s : Statement) : Prop where
  slot : s.slot = none ∨ ∃ i ∈ Document.items root, i.isComment = false ∧ s.slot = some i.slot
  leading : ∀ c ∈ s.leading, c.Sourced src root
  trailing : ∀ c ∈ s.trailing, c.Sourced src root

theorem Statement.sourced_of_new {src : Bytes} {root : Node} {s : Statement} (hslot : s.slot = none)
    (hleading : s.leading = []) (htrailing : s.trailing = []) : s.Sourced src root :=
  ⟨.inl hslot, by simp [hleading], by simp [htrailing]⟩

namespace Document

/-- Comments and statements are new, or of the file. -/
structure Sourced (src : Bytes) (root : Node) (d : Document) : Prop extends Framed d where
  source : d.source = src
  tree : d.root = root
  comments : ∀ c ∈ d.comments, c.Sourced src root
  statements : ∀ s ∈ d.statements, s.Sourced src root

theorem sourced_ofItems (src : Bytes) (root : Node) : (ofItems src root).Sourced src root := by
  have hcomment {is : List Item} {placement : Placement} (his : ∀ i ∈ is, i ∈ items root ∧ i.isComment = true)
      (c : Comment) (hc : c ∈ is.map (Item.comment src placement)) : c.Sourced src root := by
    obtain ⟨i, hi, rfl⟩ := List.mem_map.1 hc
    exact .inr ⟨i, (his i hi).1, (his i hi).2, placement, rfl⟩
  rw [ofItems_eq]
  refine ⟨⟨rfl, rfl⟩, rfl, rfl, hcomment fun i hi => ⟨mem_items_of_header hi, isComment_of_mem_header hi⟩, ?_⟩
  intro s hs
  obtain ⟨g, hg, rfl⟩ := List.mem_map.1 hs
  have hsorted := sorted_outline src root g hg
  have hmem (i : Item) (hi : i ∈ g.items) := mem_items_of_group hg hi
  refine ⟨.inr ⟨g.item, hmem _ (by simp [Group.items]), hsorted.item, rfl⟩, ?_, ?_⟩
  · exact hcomment fun i hi => ⟨hmem i (by simp [Group.items, hi]), hsorted.leading i hi⟩
  · exact hcomment fun i hi => ⟨hmem i (by simp [Group.items, hi]), hsorted.trailing i hi⟩

section Sourced
variable {src : Bytes} {root : Node} {d : Document} (h : d.Sourced src root)
include h

theorem Sourced.with_statements {ss : List Statement} (hss : ∀ s ∈ ss, s.Sourced src root) :
    Sourced src root { d with statements := ss } :=
  ⟨⟨h.bodyStart, h.bodyStop⟩, h.source, h.tree, h.comments, hss⟩

theorem Sourced.insert {s : Statement} (hs : s.Sourced src root) (i : Nat) : (d.insert i s).Sourced src root := by
  apply h.with_statements
  intro s' hs'
  simp only [List.mem_append, List.mem_cons] at hs'
  rcases hs' with hs' | rfl | hs'
  · exact h.statements s' (List.mem_of_mem_take hs')
  · exact hs
  · exact h.statements s' (List.mem_of_mem_drop hs')

theorem Sourced.remove (i : Nat) : (d.remove i).Sourced src root :=
  h.with_statements fun s hs => h.statements s (List.mem_of_mem_eraseIdx hs)

theorem Sourced.move (source destination : Nat) : (d.move source destination).Sourced src root := by
  unfold Document.move
  split
  · next s hs => exact (h.remove source).insert (h.statements s (List.mem_of_getElem? hs)) destination
  · exact h

theorem Sourced.modify {f : Statement → Statement} (hf : ∀ s, s.Sourced src root → (f s).Sourced src root) (i : Nat) :
    (d.modify i f).Sourced src root := by
  apply h.with_statements
  intro s hs
  obtain ⟨j, hj⟩ := List.mem_iff_getElem?.1 hs
  rw [List.getElem?_modify] at hj
  obtain ⟨s', hs', rfl⟩ := Option.map_eq_some_iff.1 hj
  have hs' := h.statements s' (List.mem_of_getElem? hs')
  by_cases hij : i = j
  · rw [if_pos hij]
    exact hf s' hs'
  · rw [if_neg hij]
    exact hs'

theorem Sourced.insertAtTop (decl : ImportDecl) : (d.insertAtTop (Statement.ofImport decl)).2.Sourced src root := by
  rcases d.insertAtTop_cases (Statement.ofImport decl) with
    htop | ⟨-, ⟨first, second, rest, hstatements, htop⟩ | ⟨first, hstatements, htop⟩⟩
  · rw [htop]
    exact h.insert (Statement.sourced_of_new rfl rfl rfl) 0
  · have hall := h.statements
    rw [hstatements, List.forall_mem_cons, List.forall_mem_cons] at hall
    obtain ⟨hfirst, hsecond, hrest⟩ := hall
    rw [htop]
    apply h.with_statements
    rw [List.forall_mem_cons, List.forall_mem_cons, List.forall_mem_cons]
    refine ⟨⟨.inl rfl, hfirst.leading, nofun⟩, ⟨hfirst.slot, nofun, nofun⟩, ⟨hsecond.slot, ?_, hsecond.trailing⟩, hrest⟩
    exact fun c hc => (List.mem_append.1 hc).elim (hfirst.trailing c) (hsecond.leading c)
  · have hfirst := h.statements first (hstatements ▸ List.mem_cons_self)
    rw [htop]
    apply h.with_statements
    rw [List.forall_mem_cons, List.forall_mem_singleton]
    exact ⟨⟨.inl rfl, hfirst.leading, nofun⟩, hfirst.slot, nofun, hfirst.trailing⟩

theorem Sourced.bucket (b : Bucket) : ∀ c ∈ d.bucket b, c.Sourced src root := by
  intro c hc
  cases b with
  | file => exact h.comments c hc
  | leading i =>
    cases hs : d.statements[i]? with
    | none => simp [Document.bucket, hs] at hc
    | some s => exact (h.statements s (List.mem_of_getElem? hs)).leading c (by simpa [Document.bucket, hs] using hc)
  | trailing i =>
    cases hs : d.statements[i]? with
    | none => simp [Document.bucket, hs] at hc
    | some s => exact (h.statements s (List.mem_of_getElem? hs)).trailing c (by simpa [Document.bucket, hs] using hc)

theorem Sourced.modifyBucket {f : List Comment → List Comment}
    (hf : ∀ cs, (∀ c ∈ cs, c.Sourced src root) → ∀ c ∈ f cs, c.Sourced src root) (b : Bucket) :
    (d.modifyBucket b f).Sourced src root := by
  cases b with
  | file => exact ⟨⟨h.bodyStart, h.bodyStop⟩, h.source, h.tree, hf _ h.comments, h.statements⟩
  | leading i =>
    refine h.modify ?_ i
    exact fun s hs => ⟨hs.slot, hf _ hs.leading, hs.trailing⟩
  | trailing i =>
    refine h.modify ?_ i
    exact fun s hs => ⟨hs.slot, hs.leading, hf _ hs.trailing⟩

theorem Sourced.addComment {c : Comment} (hc : c.Sourced src root) (b : Bucket) :
    (d.modifyBucket b (· ++ [c])).Sourced src root := by
  apply h.modifyBucket
  intro cs hcs c' hc'
  rcases List.mem_append.1 hc' with hc' | hc'
  · exact hcs c' hc'
  · exact List.mem_singleton.1 hc' ▸ hc

theorem Sourced.moveComment (source : Bucket) (i : Nat) (destination : Bucket) :
    (d.moveComment source i destination).Sourced src root := by
  unfold Document.moveComment
  split
  · next c hc =>
    have htaken : (d.modifyBucket source (·.eraseIdx i)).Sourced src root :=
      h.modifyBucket (fun cs hcs c' hc' => hcs c' (List.mem_of_mem_eraseIdx hc')) source
    exact htaken.addComment (h.bucket source c (List.mem_of_getElem? hc)) destination
  · exact h

theorem Sourced.insertAfterImports {decl : ImportDecl} {d' : Document}
    (hafter : d.insertAfterImports? (Statement.ofImport decl) = some d') : d'.Sourced src root := by
  obtain ⟨p, -, rfl⟩ := Option.map_eq_some_iff.1 hafter
  exact h.insert (Statement.sourced_of_new rfl rfl rfl) _

theorem Sourced.withImport (r : Request) : (d.withImport r).Sourced src root := by
  rw [Document.withImport, Request.statement_eq]
  cases hafter : d.insertAfterImports? (Statement.ofImport r.declaration) with
  | some d' => exact h.insertAfterImports hafter
  | none => exact h.insertAtTop _

theorem Sourced.ensured {r : Request} {changed : Bool} {d' : Document} (hensured : d.ensured r = .ok (changed, d')) :
    d'.Sourced src root := by
  unfold Document.ensured at hensured
  split at hensured
  · obtain ⟨-, rfl⟩ := Prod.mk.inj (Except.ok.inj hensured)
    exact h.withImport r
  · split at hensured
    · obtain ⟨-, rfl⟩ := Prod.mk.inj (Except.ok.inj hensured)
      exact h.withImport r
    · split at hensured
      · obtain ⟨-, rfl⟩ := Prod.mk.inj (Except.ok.inj hensured)
        exact h
      · obtain ⟨-, rfl⟩ := Prod.mk.inj (Except.ok.inj hensured)
        refine h.modify ?_ _
        exact fun s hs => ⟨hs.slot, hs.leading, hs.trailing⟩
  · cases hensured

end Sourced

end Document

namespace Session
variable {src : Bytes} {root : Node} {s s' : Session}

theorem sourced_redirect {t : Target} {n : Nat} (h : s.document.Sourced src root) (hs' : s.redirect t = .ok (n, s')) :
    s'.document.Sourced src root := by
  rw [(redirect_eq_ok hs').2]
  apply h.with_statements
  intro st hst
  obtain ⟨i, hi⟩ := List.mem_iff_getElem?.1 hst
  rw [List.getElem?_mapIdx] at hi
  obtain ⟨st', hst', rfl⟩ := Option.map_eq_some_iff.1 hi
  have hst' := h.statements st' (List.mem_of_getElem? hst')
  exact ⟨hst'.slot, hst'.leading, hst'.trailing⟩

theorem sourced_ensure {r : Request} {changed : Bool} (h : s.document.Sourced src root)
    (hs' : s.ensure r = .ok (changed, s')) : s'.document.Sourced src root := by
  have hensured := map_ensure r s
  rw [hs'] at hensured
  exact h.ensured hensured.symm

theorem sourced_insertAtTop (decl : ImportDecl) (h : s.document.Sourced src root) :
    (s.insertAtTop decl).2.document.Sourced src root := by
  have hdocument : (s.insertAtTop decl).2.document = (s.document.insertAtTop (Statement.ofImport decl)).2 := by
    unfold insertAtTop
    dsimp only
    split <;> rfl
  rw [hdocument]
  exact h.insertAtTop decl

/-- Every edit keeps what is of the file as it was read. -/
theorem sourced_apply {e : Edit} {answer : Answer} (h : s.document.Sourced src root)
    (hs' : s.apply e = .ok (answer, s')) : s'.document.Sourced src root := by
  cases e with
  | ensure r =>
    obtain ⟨⟨changed, s₁⟩, hs₁, hs'⟩ := Failure.bind_eq_ok_iff.1 hs'
    obtain ⟨-, rfl⟩ := Prod.mk.inj (Except.ok.inj hs')
    exact sourced_ensure h hs₁
  | census origin =>
    obtain ⟨census, -, hs'⟩ := Failure.bind_eq_ok_iff.1 hs'
    obtain ⟨-, rfl⟩ := Prod.mk.inj (Except.ok.inj hs')
    exact h
  | redirect t =>
    obtain ⟨⟨n, s₁⟩, hs₁, hs'⟩ := Failure.bind_eq_ok_iff.1 hs'
    obtain ⟨-, rfl⟩ := Prod.mk.inj (Except.ok.inj hs')
    exact sourced_redirect h hs₁
  | insertAtTop decl =>
    obtain rfl : s' = (s.insertAtTop decl).2 := (congrArg Prod.snd (Except.ok.inj hs')).symm
    exact sourced_insertAtTop decl h
  | insertAfterImports decl =>
    simp only [apply] at hs'
    split at hs'
    · next d hafter =>
      obtain ⟨-, rfl⟩ := Prod.mk.inj (Except.ok.inj hs')
      exact h.insertAfterImports hafter
    · obtain ⟨-, rfl⟩ := Prod.mk.inj (Except.ok.inj hs')
      exact h
  | insertImport i decl =>
    obtain ⟨-, rfl⟩ := Prod.mk.inj (Except.ok.inj hs')
    exact h.insert (Statement.sourced_of_new rfl rfl rfl) i
  | insertPlain i kind verbatim =>
    obtain ⟨-, rfl⟩ := Prod.mk.inj (Except.ok.inj hs')
    exact h.insert (Statement.sourced_of_new rfl rfl rfl) i
  | remove i =>
    obtain ⟨-, rfl⟩ := Prod.mk.inj (Except.ok.inj hs')
    exact h.remove i
  | move source destination =>
    obtain ⟨-, rfl⟩ := Prod.mk.inj (Except.ok.inj hs')
    exact h.move source destination
  | addComment bucket text placement =>
    obtain ⟨-, rfl⟩ := Prod.mk.inj (Except.ok.inj hs')
    exact h.addComment (.inl rfl) bucket
  | moveComment source i destination =>
    obtain ⟨-, rfl⟩ := Prod.mk.inj (Except.ok.inj hs')
    exact h.moveComment source i destination
  | statementAt offset =>
    obtain ⟨-, rfl⟩ := Prod.mk.inj (Except.ok.inj hs')
    exact h
  | imports i name =>
    obtain ⟨-, rfl⟩ := Prod.mk.inj (Except.ok.inj hs')
    exact h
  | look i =>
    obtain ⟨-, rfl⟩ := Prod.mk.inj (Except.ok.inj hs')
    exact h

/-- Carries out an edit; one that fails changes nothing. -/
def attempt (s : Session) (e : Edit) : Session :=
  match s.apply e with
  | .ok (_, s') => s'
  | .error _ => s

theorem sourced_attempt (e : Edit) (h : s.document.Sourced src root) : (s.attempt e).document.Sourced src root := by
  unfold attempt
  split
  · next hs' => exact sourced_apply h hs'
  · exact h

theorem sourced_foldl_attempt (edits : List Edit) (h : s.document.Sourced src root) :
    (edits.foldl attempt s).document.Sourced src root := by
  induction edits generalizing s with
  | nil => exact h
  | cons e edits ih => exact ih (sourced_attempt e h)

end Session

namespace Document

/-! ## Cells -/

/-- What a document prints: its comments, each with the placement of its bucket, and its statements without them. -/
inductive Leaf where
  | comment (c : Comment) (placement : Placement)
  | statement (s : Statement)

namespace Leaf

def slot : Leaf → Option Slot
  | comment c _ => c.slot
  | statement s => s.slot

/-- A comment that trailed a statement when it was read, and does not now. -/
def moved : Leaf → Bool
  | comment c placement => c.placement == .trailing && placement != .trailing
  | statement _ => false

def render (src : Bytes) : Leaf → Except Failure Bytes
  | comment c _ => .ok (c.bytes src)
  | statement s => s.render src

/-- A comment that goes on to the end of its line. -/
def isLineComment : Leaf → Bool
  | comment c _ => !c.isBlock
  | statement _ => false

/-- A comment that was not moved from behind a statement, or a statement that prints as it stands in the file. -/
def untouched : Leaf → Bool
  | comment c placement => !(comment c placement).moved
  | statement s => s.verbatim && s.replacements.isEmpty

/-- The leaf is an item of the file, as it stood there. -/
def StandsFor (l : Leaf) (i : Item) : Prop := l.slot = some i.slot ∧ l.untouched = true

def piece (l : Leaf) (bytes : Bytes) : Piece := ⟨bytes, l.slot, l.moved⟩

end Leaf

end Document

/-- A statement between its comments. -/
def Statement.leaves (s : Statement) : List Document.Leaf :=
  s.leading.map (.comment · .leading) ++ .statement s :: s.trailing.map (.comment · .trailing)

namespace Document

/-- The leaves of a document, in the order in which they print. -/
def leaves (d : Document) : List Leaf := d.comments.map (.comment · .file) ++ d.statements.flatMap Statement.leaves

/-- A printed leaf, with what is put before it. -/
structure Cell where
  before : Bytes
  leaf : Leaf
  bytes : Bytes

namespace Cell

def piece (c : Cell) : Piece := c.leaf.piece c.bytes

def text (c : Cell) : Bytes := c.before ++ c.bytes

/-- One cell is printed after another. -/
def Follows (src : Bytes) (a b : Cell) : Prop := ∃ anchor, b.before = Piece.separator src a.piece b.piece anchor

end Cell

/-- The cells after a piece. -/
def cellsAfter (src : Bytes) (previous : Piece) (anchor : Option Slot) : List (Leaf × Bytes) → List Cell
  | [] => []
  | (l, bytes) :: rest =>
    ⟨Piece.separator src previous (l.piece bytes) anchor, l, bytes⟩ ::
      cellsAfter src (l.piece bytes) (l.slot.or anchor) rest

/-- The cells of a row. -/
def cells (src : Bytes) : List (Leaf × Bytes) → List Cell
  | [] => []
  | (l, bytes) :: rest => ⟨[], l, bytes⟩ :: cellsAfter src (l.piece bytes) l.slot rest

section Cells
variable {src : Bytes}

theorem flatMap_cellsAfter (previous : Piece) (anchor : Option Slot) (ls : List (Leaf × Bytes)) :
    (cellsAfter src previous anchor ls).flatMap Cell.text =
      Piece.continued src previous anchor (ls.map fun p => p.1.piece p.2) := by
  induction ls generalizing previous anchor with
  | nil => rfl
  | cons p ls ih =>
    rw [cellsAfter, List.flatMap_cons, ih, List.map_cons, Piece.continued]
    rfl

theorem flatMap_cells (ls : List (Leaf × Bytes)) :
    (cells src ls).flatMap Cell.text = Piece.row src (ls.map fun p => p.1.piece p.2) := by
  cases ls with
  | nil => rfl
  | cons p ls =>
    rw [cells, List.flatMap_cons, flatMap_cellsAfter, List.map_cons, Piece.row]
    rfl

theorem map_cellsAfter (previous : Piece) (anchor : Option Slot) (ls : List (Leaf × Bytes)) :
    (cellsAfter src previous anchor ls).map (fun c => (c.leaf, c.bytes)) = ls := by
  induction ls generalizing previous anchor with
  | nil => rfl
  | cons p ls ih => rw [cellsAfter, List.map_cons, ih]

theorem map_cells (ls : List (Leaf × Bytes)) : (cells src ls).map (fun c => (c.leaf, c.bytes)) = ls := by
  cases ls with
  | nil => rfl
  | cons p ls => rw [cells, List.map_cons, map_cellsAfter]

theorem isChain_cellsAfter (c : Cell) (anchor : Option Slot) (ls : List (Leaf × Bytes)) :
    (c :: cellsAfter src c.piece anchor ls).IsChain (Cell.Follows src) := by
  induction ls generalizing c anchor with
  | nil => exact .singleton c
  | cons p ls ih =>
    rw [cellsAfter]
    exact .cons_cons ⟨anchor, rfl⟩ (ih ⟨_, p.1, p.2⟩ _)

theorem isChain_cells (ls : List (Leaf × Bytes)) : (cells src ls).IsChain (Cell.Follows src) := by
  cases ls with
  | nil => exact .nil
  | cons p ls => exact isChain_cellsAfter ⟨[], p.1, p.2⟩ _ ls

/-! ## What is put between two cells -/

theorem endsLine_newline (src : Bytes) : EndsLine src.newline := by
  unfold EndsLine Bytes.newline
  split <;> rfl

/-- What is put between two pieces of the file is the gap that was between them, or ends a line. -/
theorem separator_gap_or_endsLine (previous current : Piece) (anchor : Option Slot) :
    (∃ left right, previous.slot = some left ∧ current.slot = some right ∧ Piece.adjacent left right = true ∧
      Piece.separator src previous current anchor = Piece.gap src left right) ∨
        EndsLine (Piece.separator src previous current anchor) := by
  unfold Piece.separator
  split
  · next left right hleft hright =>
    split
    · next hadjacent =>
      split
      · exact .inr (endsLine_newline src)
      · exact .inl ⟨left, right, hleft, hright, hadjacent, rfl⟩
    · exact .inr (endsLine_newline src)
  · split
    · next hgap => exact .inr (Bool.and_eq_true_iff.1 hgap).2
    · exact .inr (endsLine_newline src)
  · exact .inr (endsLine_newline src)

/-- The leaves that have a slot have that of an item. -/
def Leaf.Slotted (root : Node) (l : Leaf) : Prop := ∀ slot ∈ l.slot, ∃ i ∈ items root, slot = i.slot

variable {root : Node} {a b : Cell}

/-- Between two cells there is the gap of two items that were next to each other, or the end of a line. -/
def Cell.Parted (src : Bytes) (root : Node) (a b : Cell) : Prop :=
  (∃ i ∈ items root, ∃ j ∈ items root, i.Next j ∧ a.leaf.slot = some i.slot ∧ b.leaf.slot = some j.slot ∧
    b.before = i.gap src j) ∨ EndsLine b.before

theorem Cell.Follows.parted (h : a.Follows src b) (ha : a.leaf.Slotted root) (hb : b.leaf.Slotted root) :
    a.Parted src root b := by
  obtain ⟨anchor, hbefore⟩ := h
  rw [Parted, hbefore]
  refine (separator_gap_or_endsLine a.piece b.piece anchor).imp_left ?_
  rintro ⟨left, right, hleft, hright, hadjacent, hgap⟩
  obtain ⟨i, hi, rfl⟩ := ha left hleft
  obtain ⟨j, hj, rfl⟩ := hb right hright
  exact ⟨i, hi, j, hj, beq_iff_eq.1 hadjacent, hleft, hright, hgap⟩

theorem Leaf.StandsFor.moved {l : Leaf} {i : Item} (h : l.StandsFor i) : l.moved = false := by
  cases l with
  | comment c placement => simpa [Leaf.untouched] using h.2
  | statement s => rfl

theorem Leaf.StandsFor.piece_eq {l : Leaf} {i : Item} (h : l.StandsFor i) (bytes : Bytes) :
    l.piece bytes = Printed.piece ⟨i, bytes, false⟩ := by
  rw [Leaf.piece, h.1, h.moved, Printed.piece]

/-- Two items that stand as they stood keep their gap. -/
theorem Cell.Follows.before_eq {i j : Item} (h : a.Follows src b) (ha : a.leaf.StandsFor i) (hb : b.leaf.StandsFor j)
    (hij : i.Next j) : b.before = i.gap src j := by
  obtain ⟨anchor, hbefore⟩ := h
  rw [hbefore, Cell.piece, Cell.piece, ha.piece_eq, hb.piece_eq, separator_piece hij]
  rfl

theorem Leaf.StandsFor.bytes_eq {l : Leaf} {i : Item} {bytes : Bytes} (h : l.StandsFor i)
    (hrender : l.render src = .ok bytes) : bytes = i.bytes src := by
  obtain ⟨hslot, huntouched⟩ := h
  cases l with
  | comment c placement =>
    obtain rfl := Except.ok.inj hrender
    have hslot : c.slot = some i.slot := hslot
    rw [Comment.bytes, hslot]
    rfl
  | statement s =>
    obtain ⟨hverbatim, hreplacements⟩ : s.verbatim = true ∧ s.replacements = [] := by
      simpa [Leaf.untouched] using huntouched
    have hslot : s.slot = some i.slot := hslot
    rw [Leaf.render, Statement.render, hverbatim, hslot, hreplacements] at hrender
    exact (Except.ok.inj hrender).symm

/-! ## Blocks -/

theorem stop_le_start {lo hi : Nat} (horder : Node.InOrder lo hi root.children) {i j : Item} (hi : i ∈ items root)
    (hj : j ∈ items root) (hij : i.Next j) : i.node.stop ≤ j.node.start := by
  have hpairwise : (items root).Pairwise fun a b => a.node.stop ≤ b.node.start := by
    have hapart := horder.apart
    rwa [← map_node_items, List.pairwise_map] at hapart
  exact rel_of_isChain hpairwise.isChain (pairwise_ordinal_items root) hi hj hij

/-- Items that stand next to each other as they stood print as the file has them. -/
theorem block_eq {lo hi : Nat} (horder : Node.InOrder lo hi root.children) {c : Cell} {block : List Cell} {i : Item}
    {is : List Item} (hrender : ∀ c' ∈ c :: block, c'.leaf.render src = .ok c'.bytes)
    (hfollows : (c :: block).IsChain (Cell.Follows src)) (hitems : ∀ j ∈ i :: is, j ∈ items root)
    (hnext : (i :: is).IsChain Item.Next)
    (hstands : List.Forall₂ (fun c j => Leaf.StandsFor c.leaf j) (c :: block) (i :: is)) :
    c.bytes ++ block.flatMap Cell.text = src.slice i.node.start (is.getLastD i).node.stop ∧
      i.node.start ≤ (is.getLastD i).node.stop := by
  induction block generalizing c i is with
  | nil =>
    obtain ⟨hc, hnil⟩ := List.forall₂_cons.1 hstands
    obtain rfl := List.forall₂_nil_left_iff.1 hnil
    have hspan := horder.inside i.node (mem_children_of_mem_items (hitems i List.mem_cons_self))
    rw [hc.bytes_eq (hrender c List.mem_cons_self)]
    exact ⟨List.append_nil _, hspan.2.1⟩
  | cons b block ih =>
    obtain ⟨hc, hrest⟩ := List.forall₂_cons.1 hstands
    obtain ⟨j, js, hb, -, rfl⟩ := List.forall₂_cons_left_iff.1 hrest
    obtain ⟨hcb, hfollows⟩ := List.isChain_cons_cons.1 hfollows
    obtain ⟨hij, hnext⟩ := List.isChain_cons_cons.1 hnext
    have hi := hitems i List.mem_cons_self
    have hj := hitems j (List.mem_cons_of_mem _ List.mem_cons_self)
    obtain ⟨hblock, hle⟩ := ih (fun c' hc' => hrender c' (List.mem_cons_of_mem c hc')) hfollows
      (fun k hk => hitems k (List.mem_cons_of_mem i hk)) hnext hrest
    have hspan := (horder.inside i.node (mem_children_of_mem_items hi)).2.1
    have hgap := stop_le_start horder hi hj hij
    have htext : c.bytes ++ (b :: block).flatMap Cell.text =
        i.bytes src ++ (i.gap src j ++ (b.bytes ++ block.flatMap Cell.text)) := by
      rw [hc.bytes_eq (hrender c List.mem_cons_self), List.flatMap_cons, Cell.text, hcb.before_eq hc hb hij,
        List.append_assoc]
    rw [List.getLastD_cons]
    refine ⟨?_, by omega⟩
    rw [htext, hblock, Item.gap, Item.bytes, src.slice_append_slice hgap hle, src.slice_append_slice hspan (by omega)]

end Cells

/-! ## The cells of a document -/

/-- A comment that goes on to the end of its line. -/
def Item.isLineComment (src : Bytes) (i : Item) : Bool := i.isComment && !(i.comment src .file).isBlock

def Leaf.Sourced (src : Bytes) (root : Node) : Leaf → Prop
  | comment c _ => c.Sourced src root
  | statement s => s.Sourced src root

section Leaves
variable {src : Bytes} {root : Node}

theorem Sourced.leaves {d : Document} (h : d.Sourced src root) : ∀ l ∈ d.leaves, l.Sourced src root := by
  have hcomments {cs : List Comment} (hcs : ∀ c ∈ cs, c.Sourced src root) (placement : Placement) :
      ∀ l ∈ cs.map (Leaf.comment · placement), l.Sourced src root := by
    intro l hl
    obtain ⟨c, hc, rfl⟩ := List.mem_map.1 hl
    exact hcs c hc
  intro l hl
  rw [Document.leaves, List.mem_append, List.mem_flatMap] at hl
  rcases hl with hl | ⟨s, hs, hl⟩
  · exact hcomments h.comments .file l hl
  · have hsourced := h.statements s hs
    rw [Statement.leaves, List.mem_append, List.mem_cons] at hl
    rcases hl with hl | rfl | hl
    · exact hcomments hsourced.leading .leading l hl
    · exact hsourced
    · exact hcomments hsourced.trailing .trailing l hl

theorem Leaf.Sourced.slotted {l : Leaf} (h : l.Sourced src root) : l.Slotted root := by
  intro slot hslot
  cases l with
  | comment c placement =>
    have hslot : c.slot = some slot := hslot
    rcases h with hnone | ⟨i, hi, -, placement, rfl⟩
    · rw [hnone] at hslot
      cases hslot
    · exact ⟨i, hi, (Option.some.inj hslot).symm⟩
  | statement s =>
    have hslot : s.slot = some slot := hslot
    rcases Statement.Sourced.slot h with hnone | ⟨i, hi, -, hsome⟩
    · rw [hnone] at hslot
      cases hslot
    · exact ⟨i, hi, Option.some.inj (hslot.symm.trans hsome)⟩

theorem Leaf.Sourced.isLineComment {l : Leaf} {i : Item} (h : l.Sourced src root) (hi : i ∈ items root)
    (hslot : l.slot = some i.slot) (hline : l.isLineComment = true) : i.isLineComment src = true := by
  cases l with
  | statement s => cases hline
  | comment c placement =>
    have hslot : c.slot = some i.slot := hslot
    rcases h with hnone | ⟨j, hj, hcomment, placement, rfl⟩
    · rw [hnone] at hslot
      cases hslot
    · obtain rfl := eq_of_slot hj hi (Option.some.inj hslot)
      exact Bool.and_eq_true_iff.2 ⟨hcomment, hline⟩

/-- The pieces of a document are its leaves, each with the bytes it prints. -/
theorem exists_leaves {d : Document} {ps : List Piece} (h : d.pieces = .ok ps) :
    ∃ ls : List (Leaf × Bytes), ls.map Prod.fst = d.leaves ∧ (∀ p ∈ ls, p.1.render d.source = .ok p.2) ∧
      ls.map (fun p => p.1.piece p.2) = ps := by
  have hcomments (cs : List Comment) (placement : Placement) :
      List.Forall₂ (fun (l : Leaf) p => ∃ bytes, l.render d.source = .ok bytes ∧ p = l.piece bytes)
        (cs.map (Leaf.comment · placement)) (cs.map (Piece.ofComment d.source placement)) := by
    rw [List.forall₂_map_left_iff, List.forall₂_map_right_iff, List.forall₂_same]
    exact fun c _ => ⟨_, rfl, rfl⟩
  have hall : List.Forall₂ (fun (l : Leaf) p => ∃ bytes, l.render d.source = .ok bytes ∧ p = l.piece bytes)
      d.leaves ps := by
    obtain ⟨pss, hpss, h⟩ := Failure.bind_eq_ok_iff.1 h
    obtain rfl := Except.ok.inj h
    refine List.rel_append (hcomments d.comments .file) (forall₂_flatten ((forall₂_mapM hpss).imp fun s ps hs => ?_))
    rw [Statement.pieces] at hs
    cases hrender : s.render d.source with
    | error e =>
      rw [hrender] at hs
      cases hs
    | ok bytes =>
      rw [hrender] at hs
      obtain rfl := Except.ok.inj hs
      exact List.rel_append (hcomments s.leading .leading)
        (.cons ⟨bytes, hrender, rfl⟩ (hcomments s.trailing .trailing))
  clear h
  generalize d.leaves = leaves at hall
  induction hall with
  | nil => exact ⟨[], rfl, by simp, rfl⟩
  | @cons l p leaves ps hl _ ih =>
    obtain ⟨bytes, hrender, rfl⟩ := hl
    obtain ⟨ls, rfl, hls, rfl⟩ := ih
    exact ⟨(l, bytes) :: ls, rfl, List.forall_mem_cons.2 ⟨hrender, hls⟩, rfl⟩

end Leaves

/-- The text that leaves print, cell by cell. -/
structure Printout (src : Bytes) (root : Node) (leaves : List Leaf) (cells : List Cell) (text : Bytes) : Prop where
  leaves : cells.map Cell.leaf = leaves
  slotted : ∀ c ∈ cells, c.leaf.Slotted root
  render : ∀ c ∈ cells, c.leaf.render src = .ok c.bytes
  first : ∀ c ∈ cells.head?, c.before = []
  /-- All cells stand between what preceded the items of the file and what followed them. -/
  text : text = src.take ((root.children.head?.map Node.start).getD 0) ++ cells.flatMap Cell.text ++
    src.drop ((root.children.getLast?.map Node.stop).getD 0)
  /-- Items that stand next to each other as they stood print as the file has them. -/
  block : ∀ above c block below i is, cells = above ++ ((c :: block) ++ below) → (∀ j ∈ i :: is, j ∈ items root) →
    (i :: is).IsChain Item.Next → List.Forall₂ (fun c j => Leaf.StandsFor c.leaf j) (c :: block) (i :: is) →
      c.bytes ++ block.flatMap Cell.text = src.slice i.node.start (is.getLastD i).node.stop
  parted : cells.IsChain (Cell.Parted src root)
  /-- Where every line comment of the file ends its line, no line comment runs into the next cell. -/
  lines : (∀ i ∈ items root, ∀ j ∈ items root, i.Next j → i.isLineComment src = true → EndsLine (i.gap src j)) →
    cells.IsChain fun a b => a.leaf.isLineComment = true → EndsLine b.before

/-- A document of comments and statements that are new, or of the file, prints cell by cell. -/
theorem Sourced.printout {src : Bytes} {root : Node} {d : Document} {lo hi : Nat} {bytes : Bytes}
    (h : d.Sourced src root) (horder : Node.InOrder lo hi root.children) (hbytes : d.renderBytes = .ok bytes) :
    ∃ cells, Printout src root d.leaves cells bytes := by
  obtain ⟨ps, hps, htext⟩ := Failure.bind_eq_ok_iff.1 hbytes
  obtain ⟨ls, hleaves, hrender, rfl⟩ := exists_leaves hps
  obtain rfl := Except.ok.inj htext
  rw [h.source] at hrender
  have hmap : (cells src ls).map (fun c => (c.leaf, c.bytes)) = ls := map_cells ls
  have hmem : ∀ c ∈ cells src ls, (c.leaf, c.bytes) ∈ ls := by
    intro c hc
    rw [← hmap]
    exact List.mem_map_of_mem hc
  have hsourced : ∀ c ∈ cells src ls, c.leaf.Sourced src root := by
    intro c hc
    exact h.leaves _ (hleaves ▸ List.mem_map_of_mem (hmem c hc))
  have hchain : (cells src ls).IsChain (Cell.Follows src) := isChain_cells ls
  have hparted : (cells src ls).IsChain (Cell.Parted src root) := by
    rw [List.isChain_iff_getElem] at hchain ⊢
    intro k hk
    exact (hchain k hk).parted (hsourced _ (List.getElem_mem _)).slotted (hsourced _ (List.getElem_mem _)).slotted
  refine ⟨cells src ls, ?_, fun c hc => (hsourced c hc).slotted, fun c hc => hrender _ (hmem c hc), ?_, ?_, ?_, hparted,
    ?_⟩
  · have hfst := congrArg (List.map Prod.fst) hmap
    rw [List.map_map] at hfst
    exact hfst.trans hleaves
  · cases ls with
    | nil => nofun
    | cons p ls => exact fun c hc => by obtain rfl := Option.some.inj hc; rfl
  · rw [flatMap_cells, h.source, h.bodyStart, h.bodyStop, h.tree]
  · intro above c block below i is hcells hitems hnext hstands
    rw [hcells] at hchain
    have hblock : (c :: block).IsChain (Cell.Follows src) :=
      (List.isChain_append.1 (List.isChain_append.1 hchain).2.1).1
    refine (block_eq horder (fun c' hc' => hrender _ (hmem c' ?_)) hblock hitems hnext hstands).1
    rw [hcells]
    exact List.mem_append_right _ (List.mem_append_left _ hc')
  · intro hlines
    rw [List.isChain_iff_getElem] at hparted ⊢
    intro k hk hline
    rcases hparted k hk with ⟨i, hi, j, hj, hij, hslot, -, hgap⟩ | hends
    · rw [hgap]
      exact hlines i hi j hj hij ((hsourced _ (List.getElem_mem _)).isLineComment hi hslot hline)
    · exact hends

end Document

/-- Whatever edits are made to a file that was read, and in whatever order: if the document prints, it prints cell by
cell. -/
theorem Session.edited_printout (dialect : Dialect) (code : String) (root : Node) (hfault : root.firstFaulty? = none)
    (horder : Node.InOrder 0 (Bytes.ofString code).length root.children) :
    ∃ d, Document.ofTree dialect (Bytes.ofString code) root = .ok d ∧
      ∀ (s : Session) (edits : List Edit) (text : String), s.document = d →
        (edits.foldl attempt s).document.render = .ok text →
        ∃ cells, Document.Printout (Bytes.ofString code) root (edits.foldl attempt s).document.leaves cells
          (Bytes.ofString text) := by
  refine ⟨_, Document.ofTree_eq_ok hfault, fun s edits text hs hrender => ?_⟩
  have hsourced : s.document.Sourced (Bytes.ofString code) root := hs ▸ Document.sourced_ofItems _ root
  obtain ⟨bytes, hbytes, hdecode⟩ := Failure.bind_eq_ok_iff.1 hrender
  rw [← Bytes.eq_ofString_of_decode hdecode]
  exact (sourced_foldl_attempt edits hsourced).printout horder hbytes

namespace Session

/-- The tree of a comment, `f();` with a comment behind it, and `g();` and `h();` on one line. -/
def rearranged : Node :=
  ⟨"program", true, false, 0, 25, none,
    [⟨"comment", true, false, 0, 4, none, []⟩, ⟨"expression_statement", true, false, 5, 9, none, []⟩,
      ⟨"comment", true, false, 10, 14, none, []⟩, ⟨"expression_statement", true, false, 15, 19, none, []⟩,
      ⟨"expression_statement", true, false, 20, 24, none, []⟩]⟩

/-- An import is put between the statements and widened later, the comment behind the first statement goes below it, a
new one comes in its place, and the last statement goes to the top. -/
def rearrangement : List Edit :=
  [.insertImport 1 (Request.declaration ⟨"x", "m", none⟩), .moveComment (.trailing 0) 0 (.leading 2),
    .addComment (.trailing 0) "// n" .trailing, .move 3 0, .ensure ⟨"y", "m", none⟩]

theorem edited_printout_rearranged :
    ∃ s : Session,
      Document.ofTree .js (Bytes.ofString "// a\nf(); // b\ng(); h();\n") rearranged = .ok s.document ∧
      (rearrangement.foldl attempt s).document.render =
        .ok "h();\n// a\nf();\n// n\nimport \x7b x, y \x7d from \"m\";\n// b\ng();\n" ∧
      ∃ cells, Document.Printout (Bytes.ofString "// a\nf(); // b\ng(); h();\n") rearranged
        (rearrangement.foldl attempt s).document.leaves cells
        (Bytes.ofString "h();\n// a\nf();\n// n\nimport \x7b x, y \x7d from \"m\";\n// b\ng();\n") := by
  obtain ⟨d, hd, h⟩ := edited_printout .js "// a\nf(); // b\ng(); h();\n" rearranged (by decide +kernel) (by decide)
  have hrun : ((Document.ofTree .js (Bytes.ofString "// a\nf(); // b\ng(); h();\n") rearranged).toOption.bind fun d =>
      (rearrangement.foldl attempt ⟨d, {}, []⟩).document.render.toOption) =
        some "h();\n// a\nf();\n// n\nimport \x7b x, y \x7d from \"m\";\n// b\ng();\n" := by
    decide +kernel
  rw [hd] at hrun
  cases htext : (rearrangement.foldl attempt ⟨d, {}, []⟩).document.render with
  | error e =>
    simp only [Except.toOption, Option.bind_some, htext] at hrun
    cases hrun
  | ok text =>
    simp only [Except.toOption, Option.bind_some, htext, Option.some.injEq] at hrun
    subst hrun
    exact ⟨⟨d, {}, []⟩, hd, htext, h _ _ _ rfl htext⟩

end Session
end CallRedirect
