import CallRedirect.Document.Layout
import CallRedirect.Proofs.CallSites
import CallRedirect.Proofs.Patch
import CallRedirect.Proofs.Resolution
import CallRedirect.Session.Redirect

/-! # The tree of a redirected file

After a run the text of a file has changed, and so has its tree: the callee of each redirected call is a single
identifier, an import stands where there was none or reads otherwise, and everything has moved. The tree of the new text
is grown here from the old one, without reading the text again.

* `Node.regrown`: a tree with new offsets, and an identifier for the callee of some calls.
* `Piece.starts`: where the pieces of a printed row start.
* `Document.regrown`: the tree of a document that was changed. -/

namespace CallRedirect
set_option autoImplicit false

namespace Node

/-! ## Trees -/

/-- An identifier in the place of a node. -/
def asIdentifier (move : Nat → Nat) (n : Node) : Node :=
  ⟨"identifier", true, false, move n.start, move n.stop, n.field, []⟩

mutual

/-- The tree with its offsets moved, and with an identifier in place of the callee of each swapped call. -/
def regrown (move : Nat → Nat) (swapped : Node → Bool) : Node → Node
  | ⟨kind, named, missing, start, stop, field, children⟩ =>
    ⟨kind, named, missing, move start, move stop, field,
      regrownParts move swapped
        (if swapped ⟨kind, named, missing, start, stop, field, children⟩ then
          (children.find? fun c => c.field == some "function").map key
        else none)
        children⟩

/-- The same for the parts of a node, of which one may be the callee of a swapped call. -/
def regrownParts (move : Nat → Nat) (swapped : Node → Bool) (callee : Option Key) : List Node → List Node
  | [] => []
  | c :: cs =>
    (if callee = some c.key then c.asIdentifier move else c.regrown move swapped) ::
      regrownParts move swapped callee cs

end

section Regrown
variable (move : Nat → Nat) (swapped : Node → Bool)

/-- The part is the callee of a swapped call. -/
def IsSwappedCallee (n c : Node) : Prop := swapped n = true ∧ (n.child? "function").map key = some c.key

instance (n c : Node) : Decidable (IsSwappedCallee swapped n c) := inferInstanceAs (Decidable (_ ∧ _))

/-- What a part of a node becomes. -/
def regrownPart (n c : Node) : Node :=
  if IsSwappedCallee swapped n c then c.asIdentifier move else c.regrown move swapped

theorem regrownParts_eq (callee : Option Key) (cs : List Node) :
    regrownParts move swapped callee cs =
      cs.map fun c => if callee = some c.key then c.asIdentifier move else c.regrown move swapped := by
  induction cs with
  | nil => rfl
  | cons c cs ih => rw [regrownParts, ih, List.map_cons]

theorem children_regrown (n : Node) : (n.regrown move swapped).children = n.children.map (n.regrownPart move swapped) := by
  obtain ⟨kind, named, missing, start, stop, field, children⟩ := n
  rw [regrown, regrownParts_eq]
  apply List.map_congr_left
  intro c _
  rw [regrownPart]
  apply ite_congr (propext _) (fun _ => rfl) (fun _ => rfl)
  rw [IsSwappedCallee, child?]
  split
  · next h => simp [h]
  · next h => simp [h]

@[simp] theorem kind_regrown (n : Node) : (n.regrown move swapped).kind = n.kind := by cases n; rfl

@[simp] theorem named_regrown (n : Node) : (n.regrown move swapped).named = n.named := by cases n; rfl

@[simp] theorem missing_regrown (n : Node) : (n.regrown move swapped).missing = n.missing := by cases n; rfl

@[simp] theorem start_regrown (n : Node) : (n.regrown move swapped).start = move n.start := by cases n; rfl

@[simp] theorem stop_regrown (n : Node) : (n.regrown move swapped).stop = move n.stop := by cases n; rfl

@[simp] theorem field_regrown (n : Node) : (n.regrown move swapped).field = n.field := by cases n; rfl

@[simp] theorem field_regrownPart (n c : Node) : (n.regrownPart move swapped c).field = c.field := by
  rw [regrownPart]
  split
  · rfl
  · exact field_regrown move swapped c

@[simp] theorem start_regrownPart (n c : Node) : (n.regrownPart move swapped c).start = move c.start := by
  rw [regrownPart]
  split
  · rfl
  · exact start_regrown move swapped c

@[simp] theorem stop_regrownPart (n c : Node) : (n.regrownPart move swapped c).stop = move c.stop := by
  rw [regrownPart]
  split
  · rfl
  · exact stop_regrown move swapped c

theorem child?_regrown_eq (n : Node) (field : String) :
    (n.regrown move swapped).child? field = (n.child? field).map (n.regrownPart move swapped) := by
  rw [child?, children_regrown, List.find?_map, child?]
  simp only [Function.comp_def, field_regrownPart]

theorem opensScope_regrown (n : Node) : (n.regrown move swapped).opensScope = n.opensScope := by
  rw [opensScope, scopeKind?, kind_regrown, opensScope, scopeKind?]

theorem isFunctionScope_regrown (n : Node) : (n.regrown move swapped).isFunctionScope = n.isFunctionScope := by
  rw [isFunctionScope, scopeKind?, kind_regrown, isFunctionScope, scopeKind?]

theorem key_regrown (n : Node) : (n.regrown move swapped).key = ⟨n.kind, move n.start, move n.stop⟩ := by
  rw [key, kind_regrown, start_regrown, stop_regrown]

end Regrown

/-! ## Sites -/

/-- A site of a tree, and what it becomes in the regrown tree; no site in the callee of a swapped call is among them. -/
inductive Grown (move : Nat → Nat) (swapped : Node → Bool) : List Node → List Node → Node → Site → Site → Prop where
  | self (outer outer' : List Node) (n : Node) :
    Grown move swapped outer outer' n ⟨n, outer⟩ ⟨n.regrown move swapped, outer'⟩
  | part {outer outer' : List Node} {n c : Node} {s s' : Site} (hc : c ∈ n.children)
    (hcallee : ¬ IsSwappedCallee swapped n c)
    (hs : Grown move swapped (n :: outer) (n.regrown move swapped :: outer') c s s') :
    Grown move swapped outer outer' n s s'

section Sites
variable {move : Nat → Nat} {swapped : Node → Bool} {outer outer' : List Node} {n : Node} {s s' : Site}

theorem not_isSwappedCallee (h : swapped n = false) (c : Node) : ¬ IsSwappedCallee swapped n c := by
  simp [IsSwappedCallee, h]

theorem regrownPart_of_not {c : Node} (h : ¬ IsSwappedCallee swapped n c) :
    n.regrownPart move swapped c = c.regrown move swapped := if_neg h

/-- The parts of a node that is not a swapped call are regrown one by one. -/
theorem children_regrown_of_false (h : swapped n = false) :
    (n.regrown move swapped).children = n.children.map (regrown move swapped) := by
  rw [children_regrown]
  apply List.map_congr_left
  intro c _
  exact regrownPart_of_not (not_isSwappedCallee h c)

theorem child?_regrown_of_false (h : swapped n = false) (field : String) :
    (n.regrown move swapped).child? field = (n.child? field).map (regrown move swapped) := by
  rw [child?_regrown_eq]
  exact Option.map_congr fun c _ => regrownPart_of_not (not_isSwappedCallee h c)

theorem mem_children_regrown {c : Node} (hc : c ∈ n.children) (h : ¬ IsSwappedCallee swapped n c) :
    c.regrown move swapped ∈ (n.regrown move swapped).children := by
  rw [children_regrown, ← regrownPart_of_not h]
  exact List.mem_map_of_mem hc

theorem Grown.mem (h : Grown move swapped outer outer' n s s') : s ∈ n.preorder outer := by
  induction h with
  | self outer outer' n => exact n.self_mem_preorder outer
  | part hc _ _ ih => exact mem_preorder_of_child hc ih

theorem Grown.mem_regrown (h : Grown move swapped outer outer' n s s') :
    s' ∈ (n.regrown move swapped).preorder outer' := by
  induction h with
  | self outer outer' n => exact self_mem_preorder outer' _
  | part hc hcallee _ ih => exact mem_preorder_of_child (mem_children_regrown hc hcallee) ih

theorem Grown.node (h : Grown move swapped outer outer' n s s') : s'.node = s.node.regrown move swapped := by
  induction h with
  | self => rfl
  | part _ _ _ ih => exact ih

/-- The nodes around a site become those around what it becomes. -/
theorem Grown.ancestors (h : Grown move swapped outer outer' n s s') :
    ∃ path, (∀ m ∈ path, m ∈ n.nodes) ∧ s.ancestors = path ++ outer ∧
      s'.ancestors = path.map (regrown move swapped) ++ outer' := by
  induction h with
  | self => exact ⟨[], by simp, rfl, rfl⟩
  | @part outer outer' n c s s' hc _ _ ih =>
    obtain ⟨path, hpath, hs, hs'⟩ := ih
    refine ⟨path ++ [n], fun m hm => ?_, by simp [hs], by simp [hs']⟩
    rcases List.mem_append.1 hm with hm | hm
    · exact mem_nodes_of_child hc (hpath m hm)
    · exact List.mem_singleton.1 hm ▸ n.self_mem_nodes

/-- A part of a site that is not the callee of a swapped call becomes a part of what the site becomes. -/
theorem Grown.child {c : Node} (h : Grown move swapped outer outer' n s s') (hc : c ∈ s.node.children)
    (hcallee : ¬ IsSwappedCallee swapped s.node c) :
    Grown move swapped outer outer' n (s.child c) (s'.child (c.regrown move swapped)) := by
  induction h with
  | self => exact .part hc hcallee (.self _ _ c)
  | part hd hcallee' _ ih => exact .part hd hcallee' (ih hc hcallee)

/-- A site of the regrown tree was one before, or is the new callee of a call. -/
theorem exists_grown_of_mem_regrown (hs' : s' ∈ (n.regrown move swapped).preorder outer') (outer : List Node) :
    (∃ s, Grown move swapped outer outer' n s s') ∨ ∃ m : Node, s'.node = m.asIdentifier move := by
  induction n using induct generalizing outer outer' with
  | step n ih =>
    rw [preorder_eq, List.mem_cons, List.mem_flatMap] at hs'
    rcases hs' with rfl | ⟨c', hc', hbelow⟩
    · exact .inl ⟨_, .self outer outer' n⟩
    · rw [children_regrown] at hc'
      obtain ⟨c, hc, rfl⟩ := List.mem_map.1 hc'
      by_cases hcallee : IsSwappedCallee swapped n c
      · rw [regrownPart, if_pos hcallee, preorder_eq] at hbelow
        obtain rfl := List.mem_singleton.1 hbelow
        exact .inr ⟨c, rfl⟩
      · rw [regrownPart_of_not hcallee] at hbelow
        exact (ih c hc hbelow (n :: outer)).imp_left fun ⟨s, hs⟩ => ⟨s, .part hc hcallee hs⟩

/-- A site of the tree becomes one of the regrown tree, unless it stands in the callee of a swapped call. -/
theorem exists_grown_of_mem (hs : s ∈ n.preorder outer) (outer' : List Node) :
    (∃ s', Grown move swapped outer outer' n s s') ∨
      ∃ m ∈ n.nodes, ∃ c ∈ m.children, IsSwappedCallee swapped m c ∧ s.node ∈ c.nodes := by
  induction n using induct generalizing outer outer' with
  | step n ih =>
    rw [preorder_eq, List.mem_cons, List.mem_flatMap] at hs
    rcases hs with rfl | ⟨c, hc, hbelow⟩
    · exact .inl ⟨_, .self outer outer' n⟩
    · by_cases hcallee : IsSwappedCallee swapped n c
      · exact .inr ⟨n, n.self_mem_nodes, c, hc, hcallee, node_mem_nodes hbelow⟩
      · rcases ih c hc hbelow (n.regrown move swapped :: outer') with ⟨s', hs'⟩ | ⟨m, hm, hrest⟩
        · exact .inl ⟨s', .part hc hcallee hs'⟩
        · exact .inr ⟨m, mem_nodes_of_child hc hm, hrest⟩

/-- Without a swapped call nothing but the offsets changes. -/
theorem mem_nodes_regrown_of_none {m : Node} (hnone : ∀ n, swapped n = false)
    (hm : m ∈ (n.regrown move swapped).nodes) : ∃ k ∈ n.nodes, m = k.regrown move swapped := by
  induction n using induct with
  | step n ih =>
    rcases mem_nodes_iff.1 hm with rfl | ⟨c', hc', hbelow⟩
    · exact ⟨n, n.self_mem_nodes, rfl⟩
    · rw [children_regrown] at hc'
      obtain ⟨c, hc, rfl⟩ := List.mem_map.1 hc'
      have hcallee : ¬ IsSwappedCallee swapped n c := fun h => by simpa [hnone] using h.1
      rw [regrownPart_of_not hcallee] at hbelow
      obtain ⟨k, hk, rfl⟩ := ih c hc hbelow
      exact ⟨k, mem_nodes_of_child hc hk, rfl⟩

end Sites
end Node

/-! ## Printed rows -/

namespace Piece

/-- Where the pieces after the first start, if the first stops at an offset. -/
def startsAfter (src : Bytes) (previous : Piece) (anchor : Option Slot) (position : Nat) : List Piece → List Nat
  | [] => []
  | p :: rest =>
    let start := position + (separator src previous p anchor).length
    start :: startsAfter src p (p.slot.or anchor) (start + p.bytes.length) rest

/-- Where the pieces of a row start, if the row starts at an offset. -/
def starts (src : Bytes) (position : Nat) : List Piece → List Nat
  | [] => []
  | p :: rest => position :: startsAfter src p p.slot (position + p.bytes.length) rest

end Piece

/-! ## Documents -/

namespace Document

/-- The patches that redirecting the calls of a target makes. -/
def patches (d : Document) (t : Target) : List Patch := (Session.ambientCalls d t).map (CallSite.patch t)

/-- The node of the file is a call of the target, and one that is redirected. -/
def redirects (d : Document) (t : Target) (n : Node) : Bool :=
  (CallSite.match? d.source t ⟨n, []⟩).isSome && (Session.ambientCalls d t).any fun c => c.call.node.key == n.key

/-- Where an offset in a part of the file goes, if the part is printed at another offset. -/
def moved (d : Document) (t : Target) (n : Node) (start p : Nat) : Nat :=
  start + (d.source.patched (d.patches t) n.start p).length

/-- What stands at an offset of the new text: the part of the file that had a slot, or an import. -/
def graft (d : Document) (t : Target) (imp : Node) : Option Slot → Nat → Node
  | none, start => imp.regrown (start + ·) fun _ => false
  | some slot, start =>
    let n := d.root.children[slot.ordinal]?.getD default
    n.regrown (d.moved t n start) (d.redirects t)

/-- The slots of all that is printed, in order; none where an import was written. -/
def slots (d : Document) : List (Option Slot) :=
  d.comments.map Comment.slot ++ d.statements.flatMap fun s =>
    s.leading.map Comment.slot ++ (if s.verbatim then s.slot else none) :: s.trailing.map Comment.slot

/-- The tree of the text of a document, in which `imp` is the tree of the import that was written. -/
def regrown (d : Document) (t : Target) (imp : Node) : Except Failure Node := do
  let pieces ← d.pieces
  return { d.root with
    stop := d.bodyStart + (Piece.row d.source pieces).length + (d.root.stop - d.bodyStop)
    children := List.zipWith (d.graft t imp) d.slots (Piece.starts d.source d.bodyStart pieces) }

end Document
end CallRedirect
