import CallRedirect.CallSite
import CallRedirect.Proofs.Nesting
import CallRedirect.Proofs.Splice

/-! # Call sites in document order

* `CallSite.IsCallOf`: the shape of a call of the target, said part by part.
* `CallSite.mem_all_iff`: the call sites of a tree are the nodes of that shape.
* `CallSite.Proper`: what a parser promises about the callee of such a call.
* `CallSite.pairwise_before`: of two call sites the later one stands behind the earlier one or in its arguments.
* `CallSite.laminar_of_proper`: so their replacements can be spliced as if all callees were patched at once. -/

namespace CallRedirect
set_option autoImplicit false

theorem rel_or_rel_of_pairwise {α : Type} {R : α → α → Prop} {l : List α} (h : l.Pairwise R) {a b : α} (ha : a ∈ l)
    (hb : b ∈ l) (hne : a ≠ b) : R a b ∨ R b a := by
  have hsymm : Std.Symm fun a b => R a b ∨ R b a := ⟨fun _ _ => Or.symm⟩
  have hboth : l.Pairwise fun a b => R a b ∨ R b a := h.imp Or.inl
  exact hboth.forall ha hb hne

namespace CallSite

/-! ## The shape of a call -/

/-- No optional chain stands among the children, as a node or as a bare token. -/
def Unchained (n : Node) : Prop := ∀ c ∈ n.children, c.kind ≠ "optional_chain" ∧ c.kind ≠ "?."

/-- The call is a plain call of the target: `object.severity(...)`. -/
structure IsCallOf (src : Bytes) (t : Target) (c : CallSite) : Prop where
  call : c.call.node.kind = "call_expression"
  unchained : Unchained c.call.node
  callee : c.call.node.child? "function" = some c.callee
  access : c.callee.kind = "member_expression"
  unchainedAccess : Unchained c.callee
  object : c.callee.child? "object" = some c.object
  objectName : c.object.kind = "identifier" ∧ c.object.text src = t.object
  property : ∃ p, c.callee.child? "property" = some p ∧ p.kind = "property_identifier" ∧ p.text src = t.severity

theorem hasOptionalChain_eq_false_iff {n : Node} : hasOptionalChain n = false ↔ Unchained n := by
  simp [hasOptionalChain, Unchained]

theorem spells_iff {src : Bytes} {kind text : String} {n : Node} :
    spells src kind text n = true ↔ n.kind = kind ∧ n.text src = text := by
  simp [spells]

theorem memberObject?_eq_some_iff {src : Bytes} {t : Target} {callee object : Node} :
    memberObject? src t callee = some object ↔
      callee.kind = "member_expression" ∧ Unchained callee ∧ callee.child? "object" = some object ∧
        (object.kind = "identifier" ∧ object.text src = t.object) ∧
        ∃ p, callee.child? "property" = some p ∧ p.kind = "property_identifier" ∧ p.text src = t.severity := by
  rw [memberObject?, ← hasOptionalChain_eq_false_iff]
  split
  · next h =>
    simp only [Bool.or_eq_true, bne_iff_ne] at h
    grind
  · next h =>
    simp only [Bool.or_eq_true, bne_iff_ne, not_or, not_not, Bool.not_eq_true] at h
    cases ho : callee.child? "object" with
    | none => simp
    | some o =>
      cases hp : callee.child? "property" with
      | none => simp
      | some p =>
        simp only [Option.bind_eq_bind, Option.bind_some, Bool.and_eq_true, spells_iff]
        split <;> grind

theorem match?_eq_some_iff {src : Bytes} {t : Target} {s : Site} {c : CallSite} :
    match? src t s = some c ↔ c.call = s ∧ c.IsCallOf src t := by
  constructor
  · intro h
    rw [match?] at h
    split at h
    · cases h
    · next hplain =>
      simp only [Bool.or_eq_true, bne_iff_ne, not_or, not_not, Bool.not_eq_true] at hplain
      obtain ⟨callee, hcallee, h⟩ := Option.bind_eq_some_iff.1 h
      obtain ⟨object, hobject, h⟩ := Option.bind_eq_some_iff.1 h
      obtain rfl := Option.some.inj h
      obtain ⟨haccess, hunchained, hchild, hname, hproperty⟩ := memberObject?_eq_some_iff.1 hobject
      exact ⟨rfl, hplain.1, hasOptionalChain_eq_false_iff.1 hplain.2, hcallee, haccess, hunchained, hchild, hname,
        hproperty⟩
  · rintro ⟨rfl, h⟩
    have hplain : ¬ (c.call.node.kind != "call_expression" || hasOptionalChain c.call.node) = true := by
      simp [h.call, hasOptionalChain_eq_false_iff.2 h.unchained]
    have hobject : memberObject? src t c.callee = some c.object :=
      memberObject?_eq_some_iff.2 ⟨h.access, h.unchainedAccess, h.object, h.objectName, h.property⟩
    rw [match?, if_neg hplain, h.callee]
    show (memberObject? src t c.callee).bind _ = _
    rw [hobject]
    rfl

theorem mem_all_iff {src : Bytes} {t : Target} {root : Node} {c : CallSite} :
    c ∈ all src t root ↔ c.call ∈ root.preorder [] ∧ c.IsCallOf src t := by
  rw [all, Node.sites_eq_preorder, List.mem_filterMap]
  constructor
  · rintro ⟨s, hs, hc⟩
    obtain ⟨rfl, hshape⟩ := match?_eq_some_iff.1 hc
    exact ⟨hs, hshape⟩
  · rintro ⟨hs, hshape⟩
    exact ⟨c.call, hs, match?_eq_some_iff.2 ⟨rfl, hshape⟩⟩

/-! ## The order of call sites -/

/-- The callee starts where the call starts, is not empty, and holds no call of its own. -/
structure Proper (c : CallSite) : Prop where
  start : c.callee.start = c.call.node.start
  nonempty : c.callee.start < c.callee.stop
  simple : ∀ n ∈ c.callee.nodes, n.kind ≠ "call_expression"

instance (c : CallSite) : Decidable c.Proper :=
  decidable_of_iff
    (c.callee.start = c.call.node.start ∧ c.callee.start < c.callee.stop ∧
      ∀ n ∈ c.callee.nodes, n.kind ≠ "call_expression")
    ⟨fun ⟨h1, h2, h3⟩ => ⟨h1, h2, h3⟩, fun h => ⟨h.start, h.nonempty, h.simple⟩⟩

/-- A call stands behind another, or in its arguments. -/
def Before (a b : CallSite) : Prop :=
  a.call.node.stop ≤ b.call.node.start ∨ (a.callee.stop ≤ b.call.node.start ∧ b.call.node.stop ≤ a.call.node.stop)

section Order
variable {src : Bytes} {t : Target} {root : Node}

theorem callee_mem_children {c : CallSite} (h : c.IsCallOf src t) : c.callee ∈ c.call.node.children :=
  Node.mem_children_of_child? h.callee

theorem nested_call {c : CallSite} (hroot : root.Nested) (hc : c.call ∈ root.preorder []) : c.call.node.Nested :=
  fun _ hm => hroot _ (Node.mem_nodes_trans (Node.node_mem_nodes hc) hm)

theorem callee_span {c : CallSite} (hroot : root.Nested) (hc : c ∈ all src t root) :
    c.call.node.start ≤ c.callee.start ∧ c.callee.stop ≤ c.call.node.stop := by
  obtain ⟨hsite, hshape⟩ := mem_all_iff.1 hc
  have hspan := (nested_call hroot hsite).child_span (callee_mem_children hshape)
  exact ⟨hspan.1, hspan.2.2⟩

theorem before_of_follows {a b : CallSite} {t' : Target} (hroot : root.Nested) (ha : a ∈ all src t root)
    (hb : b ∈ all src t' root) (hpa : a.Proper) (hpb : b.Proper) (h : a.call.node.Follows b.call.node) :
    a.Before b := by
  obtain ⟨hsite, hshape⟩ := mem_all_iff.1 ha
  obtain ⟨-, hshape'⟩ := mem_all_iff.1 hb
  rcases h with hbehind | ⟨c, hc, hbelow⟩
  · exact .inl hbehind
  · have hnested := nested_call hroot hsite
    have hspan := hnested.child_span hc
    have hbspan := (hnested.child hc).span hspan.2.1 hbelow
    have hbcallee := callee_span hroot hb
    -- the child that holds `b` is not the callee of `a`, and nothing of any width stands before that callee
    rcases (hnested _ (Node.self_mem_nodes _)).eq_or_apart hc (callee_mem_children hshape) with rfl | hleft | hright
    · exact absurd hshape'.call (hpa.simple _ hbelow)
    · have := hpa.start
      have := hpb.nonempty
      omega
    · exact .inr (by omega)

theorem pairwise_before (hroot : root.Nested) (hproper : ∀ c ∈ all src t root, c.Proper) :
    (all src t root).Pairwise Before := by
  have hfollows : (all src t root).Pairwise fun a b => a.call.node.Follows b.call.node := by
    rw [all, Node.sites_eq_preorder, List.pairwise_filterMap]
    refine (Node.preorder_pairwise [] hroot).imp ?_
    intro s s' hfollows a ha b hb
    obtain ⟨rfl, -⟩ := match?_eq_some_iff.1 ha
    obtain ⟨rfl, -⟩ := match?_eq_some_iff.1 hb
    exact hfollows
  exact hfollows.imp_of_mem fun ha hb h => before_of_follows hroot ha hb (hproper _ ha) (hproper _ hb) h

theorem eq_of_call {a b : CallSite} {t' : Target} (ha : a.IsCallOf src t) (hb : b.IsCallOf src t')
    (h : a.call = b.call) : a = b := by
  have hcallee : a.callee = b.callee := by
    have hchild := ha.callee
    rw [h, hb.callee] at hchild
    exact (Option.some.inj hchild).symm
  have hobject : a.object = b.object := by
    have hchild := ha.object
    rw [hcallee, hb.object] at hchild
    exact (Option.some.inj hchild).symm
  cases a
  cases b
  simp_all

/-- Two calls, of one target or of two, are one and the same, or one stands behind the other or in its arguments. -/
theorem eq_or_before {a b : CallSite} {t' : Target} (hroot : root.Nested) (ha : a ∈ all src t root)
    (hb : b ∈ all src t' root) (hpa : a.Proper) (hpb : b.Proper) : a = b ∨ a.Before b ∨ b.Before a := by
  obtain ⟨hsite, hshape⟩ := mem_all_iff.1 ha
  obtain ⟨hsite', hshape'⟩ := mem_all_iff.1 hb
  by_cases hcall : a.call = b.call
  · exact .inl (eq_of_call hshape hshape' hcall)
  · rcases rel_or_rel_of_pairwise (Node.preorder_pairwise [] hroot) hsite hsite' hcall with hfollows | hfollows
    · exact .inr (.inl (before_of_follows hroot ha hb hpa hpb hfollows))
    · exact .inr (.inr (before_of_follows hroot hb ha hpb hpa hfollows))

/-! ## Their replacements -/

/-- The patch that puts the function in place of the callee. -/
def patch (t : Target) (c : CallSite) : Patch := ⟨c.call.node.start, c.callee.stop, Bytes.ofString t.callee⟩

theorem proper_replacement {c : CallSite} (hroot : root.Nested) (hc : c ∈ all src t root)
    (hwidth : c.callee.start < c.callee.stop) (t' : Target) : (c.replacement t').Proper := by
  have hspan := callee_span hroot hc
  refine ⟨?_, hspan.2, rfl⟩
  show c.call.node.start < c.callee.stop
  omega

theorem callee_reach {c : CallSite} (hroot : root.Nested) (hc : c ∈ all src t root) (hproper : c.Proper) :
    c.call.node.start < c.callee.stop ∧ c.callee.stop ≤ c.call.node.stop := by
  have hspan := callee_span hroot hc
  have hwidth := hproper.nonempty
  exact ⟨by omega, hspan.2⟩

/-- The callees that are replaced are not empty, and stand one after the other. -/
theorem pairwise_callee (hroot : root.Nested) (hproper : ∀ c ∈ all src t root, c.Proper) {cs : List CallSite}
    (hcs : cs.Sublist (all src t root)) :
    cs.Pairwise fun a b => a.call.node.start < a.callee.stop ∧ a.callee.stop ≤ b.call.node.start := by
  refine ((pairwise_before hroot hproper).sublist hcs).imp_of_mem fun {a b} ha _ hbefore => ?_
  have hspan := callee_reach hroot (hcs.subset ha) (hproper a (hcs.subset ha))
  refine ⟨hspan.1, ?_⟩
  rcases hbefore with hbehind | hinside
  · exact Nat.le_trans hspan.2 hbehind
  · exact hinside.1

/-- Replacements of proper calls, whatever their targets and callees. -/
theorem laminar_of_proper (hroot : root.Nested) {rs : List Replacement}
    (h : ∀ r ∈ rs, ∃ t t' c, c ∈ all src t root ∧ c.Proper ∧ c.replacement t' = r) : Replacement.Laminar rs := by
  refine ⟨?_, ?_⟩
  · intro r hr
    obtain ⟨t, t', c, hc, hproper, rfl⟩ := h r hr
    exact proper_replacement hroot hc hproper.nonempty t'
  · intro r hr r' hr'
    obtain ⟨t, t', a, ha, hpa, rfl⟩ := h r hr
    obtain ⟨u, u', b, hb, hpb, rfl⟩ := h r' hr'
    rcases eq_or_before hroot ha hb hpa hpb with rfl | (hbehind | hinside) | (hbehind | hinside)
    · exact .inr (.inr (.inr (.inr ⟨rfl, rfl, rfl⟩)))
    · exact .inl hbehind
    · exact .inr (.inr (.inl hinside))
    · exact .inr (.inl hbehind)
    · exact .inr (.inr (.inr (.inl hinside)))

theorem laminar_replacements (hroot : root.Nested) (hproper : ∀ c ∈ all src t root, c.Proper) {cs : List CallSite}
    (hcs : cs.Sublist (all src t root)) (t' : Target) : Replacement.Laminar (cs.map (replacement t')) := by
  apply laminar_of_proper hroot
  intro r hr
  obtain ⟨c, hc, rfl⟩ := List.mem_map.1 hr
  exact ⟨t, t', c, hcs.subset hc, hproper c (hcs.subset hc), rfl⟩

end Order

end CallSite
end CallRedirect
