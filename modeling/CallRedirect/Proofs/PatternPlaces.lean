import CallRedirect.Scope.Pattern
import CallRedirect.Proofs.Preorder
import Mathlib.Data.List.Nodup
import Mathlib.Logic.Function.Iterate

/-! # The places of declared names

A pattern may declare one name several times, so names are told apart by their places: a place in a tree is the path of child
indices that leads to it.

* `Node.BindsAt`: the places where a pattern declares a name, by recursion on the pattern.
* `Node.RefersAt`: the places in default values, keys and type annotations.
* `Node.eachOnce_namesOnStack`: the search with a stack finds every name as often as it has places of the first kind.
* `Node.patternNames_eachOnce`: the search ends, and finds nothing in places of the second kind. -/

namespace CallRedirect
set_option autoImplicit false

namespace Node

/-! ## Places -/

/-- A child is the first one in a field. -/
structure FirstIn (n : Node) (field : String) (i : Nat) (c : Node) : Prop where
  child : n.children[i]? = some c
  fills : c.field = some field
  first : ∀ j < i, ∀ d, n.children[j]? = some d → d.field ≠ some field

/-- A child stands in a binding position. -/
inductive BindingChild (n : Node) (i : Nat) (c : Node) : Prop where
  | part (hkind : n.kind = "object_pattern" ∨ n.kind = "array_pattern") (hc : n.children[i]? = some c)
    (hnamed : c.named = true)
  | value (hkind : n.kind = "pair_pattern") (hc : n.FirstIn "value" i c)
  | defaulted (hkind : n.kind = "assignment_pattern" ∨ n.kind = "object_assignment_pattern") (hc : n.FirstIn "left" i c)
  | parameter (hkind : n.kind = "required_parameter" ∨ n.kind = "optional_parameter") (hc : n.FirstIn "pattern" i c)
  | rest (hkind : n.kind = "rest_pattern") (hc : n.children[i]? = some c) (hnamed : c.named = true)
    (htype : c.kind ≠ "type_annotation")

/-- A pattern declares a name at a place. -/
inductive BindsAt : Node → List Nat → Node → Prop where
  | name {n : Node} (hkind : n.kind = "identifier" ∨ n.kind = "shorthand_property_identifier_pattern") : BindsAt n [] n
  | deeper {n c m : Node} {i : Nat} {path : List Nat} (hc : n.BindingChild i c) (hm : BindsAt c path m) :
    BindsAt n (i :: path) m

/-- A child is a default value, a key or a type annotation. -/
inductive ReferenceChild (n c : Node) : Prop where
  | default (hkind : n.kind = "assignment_pattern" ∨ n.kind = "object_assignment_pattern") (hfield : c.field = some "right")
  | initial (hkind : n.kind = "required_parameter" ∨ n.kind = "optional_parameter") (hfield : c.field = some "value")
  | key (hkind : n.kind = "pair_pattern") (hfield : c.field = some "key")
  | computed (hkind : c.kind = "computed_property_name")
  | annotation (hkind : c.kind = "type_annotation")

/-- A place is in a default value, a key or a type annotation. -/
inductive RefersAt : Node → List Nat → Prop where
  | here {n c : Node} {i : Nat} {path : List Nat} (hc : n.children[i]? = some c) (href : n.ReferenceChild c) :
    RefersAt n (i :: path)
  | deeper {n c : Node} {i : Nat} {path : List Nat} (hc : n.children[i]? = some c) (href : RefersAt c path) :
    RefersAt n (i :: path)

theorem BindingChild.child {n c : Node} {i : Nat} (h : n.BindingChild i c) : n.children[i]? = some c := by
  cases h with
  | part _ hc => exact hc
  | value _ hc => exact hc.child
  | defaulted _ hc => exact hc.child
  | parameter _ hc => exact hc.child
  | rest _ hc => exact hc

theorem BindingChild.kind_mem {n c : Node} {i : Nat} (h : n.BindingChild i c) :
    n.kind ∈ ["object_pattern", "array_pattern", "pair_pattern", "assignment_pattern", "object_assignment_pattern",
      "required_parameter", "optional_parameter", "rest_pattern"] := by
  cases h with
  | part hkind => rcases hkind with hkind | hkind <;> simp [hkind]
  | value hkind => simp [hkind]
  | defaulted hkind => rcases hkind with hkind | hkind <;> simp [hkind]
  | parameter hkind => rcases hkind with hkind | hkind <;> simp [hkind]
  | rest hkind => simp [hkind]

theorem isPatternName_iff {n : Node} :
    n.isPatternName = true ↔ n.kind = "identifier" ∨ n.kind = "shorthand_property_identifier_pattern" := by
  simp [isPatternName]

theorem BindingChild.not_patternName {n c : Node} {i : Nat} (h : n.BindingChild i c) : ¬ n.isPatternName = true := by
  rw [isPatternName_iff]
  rintro (hkind | hkind)
  · exact absurd (hkind ▸ h.kind_mem) (by decide)
  · exact absurd (hkind ▸ h.kind_mem) (by decide)

/-- No name is declared below a computed key or a type annotation. -/
theorem BindsAt.kind_ne {n m : Node} {path : List Nat} (h : n.BindsAt path m) :
    n.kind ≠ "computed_property_name" ∧ n.kind ≠ "type_annotation" := by
  cases h with
  | name hkind => rcases hkind with hkind | hkind <;> simp [hkind]
  | deeper hc =>
    constructor
    · intro hkind
      exact absurd (hkind ▸ hc.kind_mem) (by decide)
    · intro hkind
      exact absurd (hkind ▸ hc.kind_mem) (by decide)

theorem BindingChild.not_referenceChild {n c m : Node} {i : Nat} {path : List Nat} (h : n.BindingChild i c)
    (hm : c.BindsAt path m) : ¬ n.ReferenceChild c := by
  intro href
  cases href with
  | default hdefault hfield =>
    cases h with
    | defaulted _ hc => simp [hc.fills] at hfield
    | _ hkind => rcases hdefault with heq | heq <;> simp [heq] at hkind
  | initial hinitial hfield =>
    cases h with
    | parameter _ hc => simp [hc.fills] at hfield
    | _ hkind => rcases hinitial with heq | heq <;> simp [heq] at hkind
  | key hpair hfield =>
    cases h with
    | value _ hc => simp [hc.fills] at hfield
    | _ hkind => simp [hpair] at hkind
  | computed hkind => exact hm.kind_ne.1 hkind
  | annotation hkind => exact hm.kind_ne.2 hkind

theorem BindsAt.not_refersAt {n m : Node} {path : List Nat} (h : n.BindsAt path m) : ¬ n.RefersAt path := by
  induction h with
  | name => nofun
  | deeper hc hm ih =>
    intro href
    cases href with
    | here hc' href =>
      obtain rfl := Option.some.inj (hc.child.symm.trans hc')
      exact hc.not_referenceChild hm href
    | deeper hc' href =>
      obtain rfl := Option.some.inj (hc.child.symm.trans hc')
      exact ih href

/-! ## Nodes by places -/

/-- A list has the nodes that stand in some places, each one once for each of its places. -/
def EachOnce {α : Type} (nodes : List Node) (stands : α → Node → Prop) : Prop :=
  ∃ places : List (Node × α), places.map Prod.fst = nodes ∧ (places.map Prod.snd).Nodup ∧
    ∀ c a, (c, a) ∈ places ↔ stands a c

section EachOnce
variable {α : Type} {nodes : List Node} {stands : α → Node → Prop}

theorem eachOnce_nil (h : ∀ a c, ¬ stands a c) : EachOnce [] stands :=
  ⟨[], rfl, List.nodup_nil, fun c a => by simp [h a c]⟩

theorem eachOnce_singleton (a : α) {c : Node} (h : ∀ b d, stands b d ↔ b = a ∧ d = c) : EachOnce [c] stands :=
  ⟨[(c, a)], rfl, List.nodup_singleton a, fun d b => by simp [h, and_comm]⟩

theorem EachOnce.congr {stands' : α → Node → Prop} (h : EachOnce nodes stands) (heq : ∀ a c, stands a c ↔ stands' a c) :
    EachOnce nodes stands' := by
  obtain ⟨places, hnodes, hnodup, hmem⟩ := h
  exact ⟨places, hnodes, hnodup, fun c a => (hmem c a).trans (heq a c)⟩

theorem EachOnce.reverse (h : EachOnce nodes stands) : EachOnce nodes.reverse stands := by
  obtain ⟨places, rfl, hnodup, hmem⟩ := h
  refine ⟨places.reverse, by rw [List.map_reverse], ?_, fun c a => by rw [List.mem_reverse, hmem]⟩
  rw [List.map_reverse]
  exact List.nodup_reverse.2 hnodup

theorem EachOnce.mem (h : EachOnce nodes stands) {c : Node} : c ∈ nodes ↔ ∃ a, stands a c := by
  obtain ⟨places, rfl, -, hmem⟩ := h
  simp [hmem]

/-- What stands below the children in some places, found child by child. -/
theorem EachOnce.below {stands : Nat → Node → Prop} {found : Node → List Node} {below : Node → List Nat → Node → Prop}
    (h : EachOnce nodes stands) (hbelow : ∀ i c, stands i c → EachOnce (found c) (below c)) :
    EachOnce (nodes.flatMap found) fun path m => ∃ i rest c, path = i :: rest ∧ stands i c ∧ below c rest m := by
  obtain ⟨places, rfl, hnodup, hmem⟩ := h
  have hfound : ∀ p ∈ places, EachOnce (found p.1) (below p.1) := fun p hp => hbelow p.2 p.1 ((hmem p.1 p.2).1 hp)
  choose! inner hnodes hinner hstands using hfound
  refine ⟨places.flatMap fun p => (inner p).map fun q => (q.1, p.2 :: q.2), ?_, ?_, fun m path => ?_⟩
  · rw [List.map_flatMap, List.flatMap_map]
    apply List.flatMap_congr
    intro p hp
    rw [List.map_map, ← hnodes p hp]
    rfl
  · rw [List.map_flatMap, List.nodup_flatMap]
    constructor
    · intro p hp
      rw [List.map_map]
      exact List.Nodup.of_map List.tail (by simpa [Function.comp_def] using hinner p hp)
    · -- paths below different children differ in their first step
      refine (List.pairwise_map.1 hnodup).imp fun {p p'} hne path hp hp' => ?_
      simp only [List.map_map, List.mem_map, Function.comp_apply] at hp hp'
      obtain ⟨q, -, rfl⟩ := hp
      obtain ⟨q', -, heq⟩ := hp'
      exact hne (List.cons.inj heq).1.symm
  · simp only [List.mem_flatMap, List.mem_map, Prod.mk.injEq]
    constructor
    · rintro ⟨p, hp, q, hq, rfl, rfl⟩
      exact ⟨p.2, q.2, p.1, rfl, (hmem _ _).1 hp, (hstands p hp _ _).1 hq⟩
    · rintro ⟨i, rest, c, rfl, hc, hm⟩
      have hp := (hmem c i).2 hc
      exact ⟨(c, i), hp, (m, rest), (hstands _ hp _ _).2 hm, rfl, rfl⟩

theorem eachOnce_filter (n : Node) (keep : Node → Bool) :
    EachOnce (n.children.filter keep) fun (i : Nat) c => n.children[i]? = some c ∧ keep c = true := by
  refine ⟨n.children.zipIdx.filter fun p => keep p.1, ?_, ?_, fun c i => ?_⟩
  · have := @List.filter_map _ _ Prod.fst keep n.children.zipIdx
    rw [List.zipIdx_map_fst] at this
    exact this.symm
  · refine List.Nodup.sublist (List.filter_sublist.map _) ?_
    rw [List.zipIdx_map_snd]
    exact List.nodup_range'
  · rw [List.mem_filter, List.mem_zipIdx_iff_getElem?]

theorem FirstIn.index_unique {n c d : Node} {field : String} {i j : Nat} (hc : n.FirstIn field i c)
    (hd : n.FirstIn field j d) : i = j := by
  by_contra hne
  rcases Nat.lt_or_gt_of_ne hne with hlt | hlt
  · exact hd.first i hlt c hc.child hc.fills
  · exact hc.first j hlt d hd.child hd.fills

theorem eachOnce_child? (n : Node) (field : String) : EachOnce (n.child? field).toList (n.FirstIn field) := by
  cases h : n.child? field with
  | none =>
    refine eachOnce_nil fun i c hc => ?_
    have := List.find?_eq_none.1 h c (List.mem_of_getElem? hc.child)
    simp [hc.fills] at this
  | some c =>
    obtain ⟨hfield, i, hi, rfl, hfirst⟩ := List.find?_eq_some_iff_getElem.1 h
    have hc : n.FirstIn field i n.children[i] := by
      refine ⟨List.getElem?_eq_getElem hi, by simpa using hfield, fun j hj d hd hfills => ?_⟩
      have := hfirst j hj
      obtain ⟨hlt, rfl⟩ := List.getElem?_eq_some_iff.1 hd
      simp [hfills] at this
    refine eachOnce_singleton i fun j d => ?_
    constructor
    · intro hd
      obtain rfl := hd.index_unique hc
      exact ⟨rfl, Option.some.inj (hd.child.symm.trans hc.child)⟩
    · rintro ⟨rfl, rfl⟩
      exact hc

end EachOnce

/-! ## The search -/

theorem eachOnce_bindingPositions (n : Node) : EachOnce n.bindingPositions n.BindingChild := by
  unfold bindingPositions
  split
  · next hkind =>
    exact (eachOnce_filter n _).congr fun i c =>
      ⟨fun h => .part (.inl hkind) h.1 h.2, fun h => by cases h <;> simp_all⟩
  · next hkind =>
    exact (eachOnce_filter n _).congr fun i c =>
      ⟨fun h => .part (.inr hkind) h.1 h.2, fun h => by cases h <;> simp_all⟩
  · next hkind =>
    exact (eachOnce_child? n _).congr fun i c => ⟨.value hkind, fun h => by cases h <;> simp_all⟩
  · next hkind =>
    exact (eachOnce_child? n _).congr fun i c => ⟨.defaulted (.inl hkind), fun h => by cases h <;> simp_all⟩
  · next hkind =>
    exact (eachOnce_child? n _).congr fun i c => ⟨.defaulted (.inr hkind), fun h => by cases h <;> simp_all⟩
  · next hkind =>
    exact (eachOnce_child? n _).congr fun i c => ⟨.parameter (.inl hkind), fun h => by cases h <;> simp_all⟩
  · next hkind =>
    exact (eachOnce_child? n _).congr fun i c => ⟨.parameter (.inr hkind), fun h => by cases h <;> simp_all⟩
  · next hkind =>
    rw [namedChildren, List.filter_filter]
    refine ((eachOnce_filter n _).congr fun i c => ?_).reverse
    constructor
    · rintro ⟨hc, hkeep⟩
      obtain ⟨htype, hnamed⟩ := Bool.and_eq_true_iff.1 hkeep
      exact .rest hkind hc hnamed (by simpa using htype)
    · intro h
      cases h <;> simp_all
  · refine eachOnce_nil fun i c h => ?_
    cases h with
    | _ hkind => simp_all

theorem namesOnStack_append (stack below : List Node) :
    namesOnStack (stack ++ below) = namesOnStack stack ++ namesOnStack below := by
  fun_induction namesOnStack stack with
  | case1 => rfl
  | case2 n stack hname ih => rw [List.cons_append, namesOnStack, if_pos hname, ih, List.cons_append]
  | case3 n stack hname ih => rw [List.cons_append, namesOnStack, if_neg hname, ← List.append_assoc, ih]

theorem namesOnStack_eq_flatMap (stack : List Node) : namesOnStack stack = stack.flatMap fun n => namesOnStack [n] := by
  induction stack with
  | nil => simp [namesOnStack]
  | cons n stack ih => rw [← List.singleton_append, namesOnStack_append, ih, List.flatMap_append, List.flatMap_singleton]

/-- The names found in a pattern are those that it declares, each once for each place. -/
theorem eachOnce_namesOnStack (n : Node) : EachOnce (namesOnStack [n]) n.BindsAt := by
  induction n using induct with
  | step n ih =>
    rw [namesOnStack]
    split
    · next hname =>
      rw [namesOnStack]
      refine eachOnce_singleton [] fun path m => ?_
      constructor
      · intro h
        cases h with
        | name => exact ⟨rfl, rfl⟩
        | deeper hc => exact absurd hname hc.not_patternName
      · rintro ⟨rfl, rfl⟩
        exact .name (isPatternName_iff.1 hname)
    · next hname =>
      rw [List.append_nil, namesOnStack_eq_flatMap]
      have hbelow := n.eachOnce_bindingPositions.below fun i c hc => ih c (List.mem_of_getElem? hc.child)
      refine hbelow.congr fun path m => ?_
      constructor
      · rintro ⟨i, rest, c, rfl, hc, hm⟩
        exact .deeper hc hm
      · intro h
        cases h with
        | name hkind => exact absurd (isPatternName_iff.2 hkind) hname
        | deeper hc hm => exact ⟨_, _, _, rfl, hc, hm⟩

/-! ## Rounds -/

/-- One round of the search, on the stack and the names found so far: a name on top of the stack is found, and any other
node gives way to those in its binding positions. -/
def searchRound : List Node × List Node → List Node × List Node
  | ([], found) => ([], found)
  | (n :: stack, found) =>
    if n.isPatternName then (stack, found ++ [n]) else (n.bindingPositions ++ stack, found)

/-- The search ends after no more rounds than there are nodes. -/
theorem exists_rounds (stack found : List Node) :
    ∃ rounds ≤ sizes stack, searchRound^[rounds] (stack, found) = ([], found ++ namesOnStack stack) := by
  fun_induction namesOnStack stack generalizing found with
  | case1 => exact ⟨0, Nat.zero_le _, by simp⟩
  | case2 n stack hname ih =>
    obtain ⟨rounds, hle, hrounds⟩ := ih (found ++ [n])
    refine ⟨rounds + 1, ?_, ?_⟩
    · have := n.size_eq
      rw [sizes_cons]
      omega
    · rw [Function.iterate_succ_apply, searchRound, if_pos hname, hrounds, List.append_assoc, List.singleton_append]
  | case3 n stack hname ih =>
    obtain ⟨rounds, hle, hrounds⟩ := ih found
    refine ⟨rounds + 1, ?_, ?_⟩
    · have := n.sizes_bindingPositions_lt
      rw [sizes_append] at hle
      rw [sizes_cons]
      omega
    · rw [Function.iterate_succ_apply, searchRound, if_neg hname, hrounds]

/-- The search in a pattern ends. It finds every name as often as the pattern declares it, at different places, and it finds
none in the places of default values, keys and type annotations. -/
theorem patternNames_eachOnce :
    patternNames none = [] ∧ ∀ n : Node,
      (∃ rounds ≤ n.size, searchRound^[rounds] ([n], []) = ([], patternNames (some n))) ∧
        EachOnce (patternNames (some n)) n.BindsAt ∧ ∀ path m, n.BindsAt path m → ¬ n.RefersAt path := by
  refine ⟨by simp [patternNames, namesOnStack], fun n => ⟨?_, n.eachOnce_namesOnStack, fun _ _ h => h.not_refersAt⟩⟩
  obtain ⟨rounds, hle, hrounds⟩ := exists_rounds [n] []
  exact ⟨rounds, by simpa using hle, hrounds⟩

end Node
end CallRedirect
