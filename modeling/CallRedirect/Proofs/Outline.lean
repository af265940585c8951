import CallRedirect.Document.Attachment
import CallRedirect.Proofs.Nesting
import Mathlib.Data.List.TakeWhile

/-! # The outline of a file

Attaching comments sorts the items of a file into the header and one group for each statement. No item is lost,
repeated or moved by that: read in order, header and groups are the items again.

* `Document.outline`: header and groups of a tree.
* `Document.ofItems_eq`: the document of a tree is read off its outline.
* `Outline.items_outline`: the outline holds every item once, in order. -/

namespace CallRedirect
set_option autoImplicit false

namespace Document

/-! ## Items -/

/-- One item is the next after another. -/
def Item.Next (a b : Item) : Prop := b.ordinal = a.ordinal + 1

theorem map_node_items (root : Node) : (items root).map Item.node = root.children := by
  rw [items, List.map_map]
  exact List.zipIdx_map_fst 0 root.children

theorem isChain_next_items (root : Node) : (items root).IsChain Item.Next := by
  have key (ns : List Node) (k : Nat) : ((ns.zipIdx k).map fun p => Item.mk p.1 p.2).IsChain Item.Next := by
    induction ns generalizing k with
    | nil => exact .nil
    | cons n ns ih =>
      have htail := ih (k + 1)
      cases ns with
      | nil => exact .singleton _
      | cons m ns => exact .cons_cons rfl htail
  exact key root.children 0

/-- An item is told by its number. -/
theorem mem_items_iff {root : Node} {i : Item} : i ∈ items root ↔ root.children[i.ordinal]? = some i.node := by
  rw [items, List.mem_map]
  constructor
  · rintro ⟨⟨n, k⟩, hn, rfl⟩
    exact List.mk_mem_zipIdx_iff_getElem?.1 hn
  · intro h
    exact ⟨(i.node, i.ordinal), List.mk_mem_zipIdx_iff_getElem?.2 h, rfl⟩

theorem pairwise_ordinal_items (root : Node) : (items root).Pairwise fun a b => a.ordinal < b.ordinal := by
  rw [List.pairwise_iff_getElem]
  intro i j hi hj hij
  simpa [items] using hij

theorem mem_children_of_mem_items {root : Node} {i : Item} (h : i ∈ items root) : i.node ∈ root.children := by
  rw [← map_node_items]
  exact List.mem_map_of_mem h

/-! ## Groups -/

/-- The items of a group, in order. -/
def Group.items (g : Group) : List Item := g.leading ++ g.item :: g.trailing

/-- The item of a group is a statement, and what goes with it are comments. -/
structure Group.Sorted (g : Group) : Prop where
  item : g.item.isComment = false
  leading : ∀ i ∈ g.leading, i.isComment = true
  trailing : ∀ i ∈ g.trailing, i.isComment = true

theorem flatMap_items_groups (src : Bytes) (current : Group) (waiting : List Item) (position : Nat)
    (rest : List Item) :
    (groups src current waiting position rest).flatMap Group.items = current.items ++ waiting ++ rest := by
  induction rest generalizing current waiting position with
  | nil => simp [groups, Group.items]
  | cons i rest ih =>
    rw [groups]
    split
    · simp [ih, Group.items]
    · split
      · next h =>
        have hw : waiting = [] := by simp_all
        simp [ih, Group.items, hw]
      · simp [ih]

theorem sorted_groups {src : Bytes} {current : Group} {waiting : List Item} {position : Nat} {rest : List Item}
    (hcurrent : current.Sorted) (hwaiting : ∀ i ∈ waiting, i.isComment = true) :
    ∀ g ∈ groups src current waiting position rest, g.Sorted := by
  induction rest generalizing current waiting position with
  | nil =>
    intro g hg
    obtain rfl := List.mem_singleton.1 hg
    refine ⟨hcurrent.item, hcurrent.leading, ?_⟩
    intro i hi
    rcases List.mem_append.1 hi with hi | hi
    · exact hcurrent.trailing i hi
    · exact hwaiting i hi
  | cons i rest ih =>
    rw [groups]
    split
    · next hi =>
      have hstart : Group.Sorted { leading := waiting, item := i } :=
        ⟨by simpa using hi, hwaiting, by simp⟩
      intro g hg
      rcases List.mem_cons.1 hg with rfl | hg
      · exact hcurrent
      · exact ih hstart (by simp) g hg
    · next hi =>
      have hi : i.isComment = true := by simpa using hi
      split
      · refine ih ⟨hcurrent.item, hcurrent.leading, ?_⟩ (by simp)
        intro j hj
        rcases List.mem_append.1 hj with hj | hj
        · exact hcurrent.trailing j hj
        · obtain rfl := List.mem_singleton.1 hj
          exact hi
      · refine ih hcurrent ?_
        intro j hj
        rcases List.mem_append.1 hj with hj | hj
        · exact hwaiting j hj
        · obtain rfl := List.mem_singleton.1 hj
          exact hi

/-! ## Outlines -/

/-- The comments that belong to the file, and the groups of its statements. -/
structure Outline where
  header : List Item
  groups : List Group

/-- The outline of a tree. -/
def outline (src : Bytes) (root : Node) : Outline :=
  let above := (items root).takeWhile Item.isComment
  match (items root).dropWhile Item.isComment with
  | [] => ⟨above, []⟩
  | first :: rest =>
    let n := headerLength src above first
    ⟨above.take n, groups src { leading := above.drop n, item := first } [] first.node.stop rest⟩

/-- The items of an outline, in order. -/
def Outline.items (o : Outline) : List Item := o.header ++ o.groups.flatMap Group.items

theorem ofItems_eq (src : Bytes) (root : Node) :
    ofItems src root =
      { source := src
        root := root
        bodyStart := (root.children.head?.map Node.start).getD 0
        bodyStop := (root.children.getLast?.map Node.stop).getD 0
        comments := (outline src root).header.map (Item.comment src .file)
        statements := (outline src root).groups.map (Group.statement src) } := by
  cases h : (items root).dropWhile Item.isComment with
  | nil => simp [ofItems, outline, h]
  | cons first rest => simp [ofItems, outline, h]

theorem items_outline (src : Bytes) (root : Node) : (outline src root).items = items root := by
  have hsplit := List.takeWhile_append_dropWhile (p := Item.isComment) (l := items root)
  simp only [outline]
  split
  · next h =>
    rw [h] at hsplit
    simpa [Outline.items] using hsplit
  · next first rest h =>
    rw [h] at hsplit
    rw [Outline.items, flatMap_items_groups]
    simp only [Group.items, List.append_nil, ← List.append_assoc, List.take_append_drop]
    simpa using hsplit

theorem sorted_outline (src : Bytes) (root : Node) : ∀ g ∈ (outline src root).groups, g.Sorted := by
  have hcomments : ∀ i ∈ (items root).takeWhile Item.isComment, i.isComment = true :=
    fun i hi => List.mem_takeWhile_imp hi
  simp only [outline]
  split
  · simp
  · next first rest h =>
    apply sorted_groups
    · refine ⟨?_, fun i hi => hcomments i (List.mem_of_mem_drop hi), by simp⟩
      have hfirst := List.head?_dropWhile_not Item.isComment (items root)
      simpa [h] using hfirst
    · simp

theorem sublist_items_of_groups (gs : List Group) : (gs.map Group.item).Sublist (gs.flatMap Group.items) := by
  induction gs with
  | nil => exact .slnil
  | cons g gs ih =>
    rw [List.map_cons, List.flatMap_cons, Group.items, List.append_assoc, List.cons_append]
    have htail : (g.item :: gs.map Group.item).Sublist (g.item :: (g.trailing ++ gs.flatMap Group.items)) :=
      (List.sublist_append_of_sublist_right ih).cons_cons g.item
    exact htail.trans (List.sublist_append_right _ _)

theorem sublist_groups (src : Bytes) (root : Node) :
    ((outline src root).groups.map Group.item).Sublist (items root) := by
  rw [← items_outline src root, Outline.items]
  exact (sublist_items_of_groups _).trans (List.sublist_append_right _ _)

theorem isComment_of_mem_header {src : Bytes} {root : Node} {i : Item} (hi : i ∈ (outline src root).header) :
    i.isComment = true := by
  simp only [outline] at hi
  split at hi
  · exact List.mem_takeWhile_imp hi
  · exact List.mem_takeWhile_imp (List.mem_of_mem_take hi)

end Document
end CallRedirect
