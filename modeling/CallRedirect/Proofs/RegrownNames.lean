import CallRedirect.Proofs.Regrowth

/-! # What regrown nodes declare

The callee of a call is in no place where a name is declared. So a node declares the same names after a tree was regrown,
each now at its new offsets.

* `Node.namesOnStack_regrown`: the names of patterns.
* `Declaration.regrown`: a declaration at its new offsets.
* `Node.regrown_mem_declarations`: what a node declares, it declares when it was regrown.
* `Node.standing_declarations`: no callee stands between a node and the names it declares. -/

namespace CallRedirect
set_option autoImplicit false

namespace Node

section Children
variable {move : Nat → Nat} {swapped : Node → Bool} (hcalls : ∀ n, swapped n = true → n.kind = "call_expression")
include hcalls

theorem not_swapped {n : Node} (h : n.kind ≠ "call_expression") : swapped n = false :=
  Bool.eq_false_iff.2 fun hswapped => h (hcalls n hswapped)

theorem child?_regrown {n : Node} (h : n.kind ≠ "call_expression") (field : String) :
    (n.regrown move swapped).child? field = (n.child? field).map (regrown move swapped) :=
  child?_regrown_of_false (not_swapped hcalls h) field

theorem namedChildren_regrown {n : Node} (h : n.kind ≠ "call_expression") :
    (n.regrown move swapped).namedChildren = n.namedChildren.map (regrown move swapped) := by
  rw [namedChildren, children_regrown_of_false (not_swapped hcalls h), List.filter_map, namedChildren]
  simp only [Function.comp_def, named_regrown]

theorem namedChildrenOfKind_regrown {n : Node} (h : n.kind ≠ "call_expression") (kind : String) :
    (n.regrown move swapped).namedChildrenOfKind kind = (n.namedChildrenOfKind kind).map (regrown move swapped) := by
  rw [namedChildrenOfKind, namedChildren_regrown hcalls h, List.filter_map, namedChildrenOfKind]
  simp only [Function.comp_def, kind_regrown]

end Children

theorem kind_of_mem_namedChildrenOfKind {n c : Node} {kind : String} (h : c ∈ n.namedChildrenOfKind kind) :
    c.kind = kind := by
  simpa using (List.mem_filter.1 h).2

theorem mem_children_of_namedChildren {n c : Node} (h : c ∈ n.namedChildren) : c ∈ n.children :=
  (List.mem_filter.1 h).1

/-! ## Patterns -/

/-- A member access declares nothing. -/
theorem patternNames_of_member {n : Node} (h : n.kind = "member_expression") : patternNames (some n) = [] := by
  simp [patternNames, namesOnStack, isPatternName, bindingPositions, h]

section Patterns
variable {move : Nat → Nat} {swapped : Node → Bool} (hcalls : ∀ n, swapped n = true → n.kind = "call_expression")

theorem isPatternName_regrown (n : Node) : (n.regrown move swapped).isPatternName = n.isPatternName := by
  rw [isPatternName, kind_regrown, isPatternName]

include hcalls

theorem bindingPositions_regrown (n : Node) :
    (n.regrown move swapped).bindingPositions = n.bindingPositions.map (regrown move swapped) := by
  have hne {kind : String} (hkind : n.kind = kind) (h : kind ≠ "call_expression") : n.kind ≠ "call_expression" :=
    hkind ▸ h
  rw [bindingPositions, kind_regrown, bindingPositions]
  split
  · next hk => rw [namedChildren_regrown hcalls (hne hk (by decide))]
  · next hk => rw [namedChildren_regrown hcalls (hne hk (by decide))]
  · next hk => rw [child?_regrown hcalls (hne hk (by decide)), Option.toList_map]
  · next hk => rw [child?_regrown hcalls (hne hk (by decide)), Option.toList_map]
  · next hk => rw [child?_regrown hcalls (hne hk (by decide)), Option.toList_map]
  · next hk => rw [child?_regrown hcalls (hne hk (by decide)), Option.toList_map]
  · next hk => rw [child?_regrown hcalls (hne hk (by decide)), Option.toList_map]
  · next hk =>
    rw [namedChildren_regrown hcalls (hne hk (by decide)), List.filter_map, List.map_reverse]
    simp only [Function.comp_def, kind_regrown]
  · rfl

theorem namesOnStack_regrown (stack : List Node) :
    namesOnStack (stack.map (regrown move swapped)) = (namesOnStack stack).map (regrown move swapped) := by
  fun_induction namesOnStack stack with
  | case1 => simp [namesOnStack]
  | case2 n stack hname ih =>
    rw [List.map_cons, namesOnStack, if_pos (by rw [isPatternName_regrown, hname]), ih, List.map_cons]
  | case3 n stack hname ih =>
    rw [List.map_cons, namesOnStack, if_neg (by rw [isPatternName_regrown]; exact hname),
      bindingPositions_regrown hcalls, ← List.map_append, ih]

theorem patternNames_regrown (pattern : Option Node) :
    patternNames (pattern.map (regrown move swapped)) = (patternNames pattern).map (regrown move swapped) := by
  rw [patternNames, Option.toList_map, namesOnStack_regrown hcalls, patternNames]

end Patterns
end Node

/-! ## Declarations -/

namespace Declaration

/-- The declaration at its new offsets. -/
def regrown (move : Nat → Nat) (swapped : Node → Bool) (d : Declaration) : Declaration :=
  { d with name := d.name.regrown move swapped }

section Parts
variable {move : Nat → Nat} {swapped : Node → Bool} (hcalls : ∀ n, swapped n = true → n.kind = "call_expression")
include hcalls

theorem ofPattern_regrown (kind : Binding.Kind) (reach : Reach) (pattern : Option Node) :
    ofPattern kind reach (pattern.map (Node.regrown move swapped)) =
      (ofPattern kind reach pattern).map (regrown move swapped) := by
  rw [ofPattern, Node.patternNames_regrown hcalls, ofPattern, List.map_map, List.map_map]
  rfl

theorem ofName_regrown (kind : Binding.Kind) (reach : Reach) {n : Node} (h : n.kind ≠ "call_expression") :
    ofName kind reach (n.regrown move swapped) = (ofName kind reach n).map (regrown move swapped) := by
  rw [ofName, Node.child?_regrown hcalls h, ofName]
  cases n.child? "name" with
  | none => rfl
  | some c =>
    by_cases hc : (c.kind == "identifier" || c.kind == "type_identifier") = true <;>
      simp [Option.filter, hc, regrown]

theorem ofNamespace_regrown {n : Node} (h : n.kind ≠ "call_expression") :
    ofNamespace (n.regrown move swapped) = (ofNamespace n).map (regrown move swapped) := by
  rw [ofNamespace, Node.child?_regrown hcalls h, ofNamespace]
  cases n.child? "name" with
  | none => rfl
  | some c => by_cases hc : c.kind = "identifier" <;> simp [Option.filter, hc, regrown]

theorem ofDeclarators_regrown (kind : Binding.Kind) (reach : Reach) {n : Node} (h : n.kind ≠ "call_expression") :
    ofDeclarators kind reach (n.regrown move swapped) = (ofDeclarators kind reach n).map (regrown move swapped) := by
  rw [ofDeclarators, Node.namedChildrenOfKind_regrown hcalls h, List.flatMap_map, ofDeclarators, List.map_flatMap]
  apply List.flatMap_congr
  intro d hd
  have hne : d.kind ≠ "call_expression" := by rw [Node.kind_of_mem_namedChildrenOfKind hd]; decide
  rw [Node.child?_regrown hcalls hne, ofPattern_regrown hcalls]

theorem ofLoopHead_regrown {src out : Bytes} {n : Node} (h : n.kind ≠ "call_expression")
    (hkeyword : ∀ c, n.child? "kind" = some c → (c.regrown move swapped).text out = c.text src) :
    ofLoopHead out (n.regrown move swapped) = (ofLoopHead src n).map (regrown move swapped) := by
  rw [ofLoopHead, Node.child?_regrown hcalls h, Node.child?_regrown hcalls h, ofLoopHead]
  cases hkind : n.child? "kind" with
  | none => rfl
  | some c =>
    simp only [Option.map_some, hkeyword c hkind]
    split
    · exact ofPattern_regrown hcalls _ _ _
    · exact ofPattern_regrown hcalls _ _ _

theorem importedName_regrown {n : Node} (h : n.kind ≠ "call_expression") :
    importedName (n.regrown move swapped) = (importedName n).map (Node.regrown move swapped) := by
  rw [importedName, Node.child?_regrown hcalls h, Node.child?_regrown hcalls h, importedName, ← Option.map_or]
  cases (n.child? "alias").or (n.child? "name") with
  | none => rfl
  | some c => by_cases hc : c.kind = "identifier" <;> simp [Option.filter, hc]

theorem importedNames_regrown (n : Node) :
    importedNames (n.regrown move swapped) = (importedNames n).map (Node.regrown move swapped) := by
  rw [importedNames, Node.kind_regrown, importedNames]
  split
  · rfl
  · next hk => rw [Node.namedChildrenOfKind_regrown hcalls (by rw [hk]; decide)]
  · next hk =>
    rw [Node.namedChildrenOfKind_regrown hcalls (by rw [hk]; decide), List.filterMap_map, List.map_filterMap]
    apply List.filterMap_congr
    intro e he
    have hne : e.kind ≠ "call_expression" := by rw [Node.kind_of_mem_namedChildrenOfKind he]; decide
    exact importedName_regrown hcalls hne
  · rfl

theorem importLocals_regrown (n : Node) :
    importLocals (n.regrown move swapped) = (importLocals n).map (Node.regrown move swapped) := by
  rw [importLocals, Node.kind_regrown, importLocals]
  split
  · next hk => rw [Node.namedChildrenOfKind_regrown hcalls (by rw [hk]; decide)]
  · next hk =>
    rw [Node.namedChildren_regrown hcalls (by rw [hk]; decide), List.flatMap_map, List.map_flatMap]
    exact List.flatMap_congr fun part _ => importedNames_regrown hcalls part
  · rfl

theorem ofImport_regrown {n : Node} (h : n.kind ≠ "call_expression") :
    ofImport (n.regrown move swapped) = (ofImport n).map (regrown move swapped) := by
  rw [ofImport, Node.namedChildren_regrown hcalls h, List.flatMap_map, ofImport, List.map_map]
  rw [List.flatMap_congr fun c _ => importLocals_regrown hcalls c, ← List.map_flatMap, List.map_map]
  rfl

/-- A parameter is not the callee of a call, so it stays among the parameters. -/
theorem regrown_mem_ofParameters (hcallees : ∀ n c, Node.IsSwappedCallee swapped n c → c.kind = "member_expression")
    {n : Node} (h : n.kind ≠ "call_expression") {d : Declaration} (hd : d ∈ ofParameters n) :
    d.regrown move swapped ∈ ofParameters (n.regrown move swapped) := by
  rw [ofParameters, List.mem_append] at hd ⊢
  rcases hd with hd | hd
  · left
    rw [Node.child?_regrown hcalls h, ofPattern_regrown hcalls]
    exact List.mem_map_of_mem hd
  · right
    rw [Node.child?_regrown hcalls h]
    cases hparams : n.child? "parameters" with
    | none =>
      rw [hparams] at hd
      cases hd
    | some params =>
      rw [hparams] at hd
      obtain ⟨p, hp, hd⟩ := List.mem_flatMap.1 hd
      have hcallee : ¬ Node.IsSwappedCallee swapped params p := by
        intro hcallee
        rw [ofPattern, Node.patternNames_of_member (hcallees _ _ hcallee)] at hd
        cases hd
      obtain ⟨hmem, hnamed⟩ := List.mem_filter.1 hp
      refine List.mem_flatMap.2 ⟨p.regrown move swapped, List.mem_filter.2 ⟨?_, ?_⟩, ?_⟩
      · exact Node.mem_children_regrown hmem hcallee
      · rwa [Node.named_regrown]
      · have hpattern : ofPattern .param .own (some (p.regrown move swapped)) = _ :=
          ofPattern_regrown hcalls .param .own (some p)
        rw [hpattern]
        exact List.mem_map_of_mem hd

end Parts
end Declaration

theorem Node.regrown_mem_declarations {move : Nat → Nat} {swapped : Node → Bool} {src out : Bytes}
    (hcalls : ∀ n, swapped n = true → n.kind = "call_expression")
    (hcallees : ∀ n c, IsSwappedCallee swapped n c → c.kind = "member_expression") {n : Node}
    (hkeyword : ∀ c, n.child? "kind" = some c → (c.regrown move swapped).text out = c.text src) {d : Declaration}
    (hd : d ∈ n.declarations src) : d.regrown move swapped ∈ (n.regrown move swapped).declarations out := by
  by_cases hne : n.kind = "call_expression"
  · simp [declarations, hne] at hd
  · have hlexical : ((n.regrown move swapped).child? "kind").map (text out) = (n.child? "kind").map (text src) := by
      rw [child?_regrown hcalls hne, Option.map_map]
      exact Option.map_congr hkeyword
    rw [declarations, kind_regrown, hlexical, Declaration.ofDeclarators_regrown hcalls _ _ hne,
      Declaration.ofDeclarators_regrown hcalls _ _ hne, Declaration.ofName_regrown hcalls _ _ hne,
      Declaration.ofName_regrown hcalls _ _ hne, Declaration.ofName_regrown hcalls _ _ hne,
      Declaration.ofName_regrown hcalls _ _ hne, Declaration.ofName_regrown hcalls _ _ hne,
      child?_regrown hcalls hne, Declaration.ofPattern_regrown hcalls, Declaration.ofLoopHead_regrown hcalls hne hkeyword,
      Declaration.ofImport_regrown hcalls hne, Declaration.ofNamespace_regrown hcalls hne]
    have hparameters {d : Declaration} (hd : d ∈ Declaration.ofParameters n) :
        d.regrown move swapped ∈ Declaration.ofParameters (n.regrown move swapped) :=
      Declaration.regrown_mem_ofParameters hcalls hcallees hne hd
    have hfunction {reach : Reach}
        (hd : d ∈ Declaration.ofName .functionDecl reach n ++ Declaration.ofParameters n) :
        d.regrown move swapped ∈ (Declaration.ofName .functionDecl reach n).map (Declaration.regrown move swapped) ++
          Declaration.ofParameters (n.regrown move swapped) :=
      List.mem_append.2 ((List.mem_append.1 hd).imp List.mem_map_of_mem hparameters)
    rw [declarations] at hd
    split at hd
    · exact List.mem_map_of_mem hd
    · exact List.mem_map_of_mem hd
    · exact hfunction hd
    · exact hfunction hd
    · exact List.mem_map_of_mem hd
    · exact hfunction hd
    · exact hfunction hd
    · exact hfunction hd
    · exact hparameters hd
    · exact hparameters hd
    · exact List.mem_map_of_mem hd
    · exact List.mem_map_of_mem hd
    · exact List.mem_map_of_mem hd
    · exact List.mem_map_of_mem hd
    · exact List.mem_map_of_mem hd
    · exact List.mem_map_of_mem hd
    · exact List.mem_map_of_mem hd
    · exact List.mem_map_of_mem hd
    · exact List.mem_map_of_mem hd
    · cases hd

/-- A node without parts declares nothing. -/
theorem Node.declarations_of_leaf (src : Bytes) {n : Node} (h : n.children = []) : n.declarations src = [] := by
  have hchild (field : String) : n.child? field = none := by rw [child?, h, List.find?_nil]
  have hchildren : n.namedChildren = [] := by rw [namedChildren, h, List.filter_nil]
  have hname (kind : Binding.Kind) (reach : Reach) : Declaration.ofName kind reach n = [] := by
    rw [Declaration.ofName, hchild]
    rfl
  have hpattern (kind : Binding.Kind) (reach : Reach) : Declaration.ofPattern kind reach none = [] := by
    simp [Declaration.ofPattern, patternNames, namesOnStack]
  have hparameters : Declaration.ofParameters n = [] := by simp [Declaration.ofParameters, hchild, hpattern]
  rw [declarations]
  simp only [hname, hparameters, hchild, hpattern, Declaration.ofDeclarators, namedChildrenOfKind, hchildren,
    Declaration.ofLoopHead, Declaration.ofImport, Declaration.ofNamespace, List.filter_nil, List.flatMap_nil,
    List.map_nil, List.append_nil, Option.filter_none, Option.toList_none]
  split <;> rfl

/-! ## Where names stand -/

/-- The node is of a kind that spells a name by itself. -/
def Node.isWord (n : Node) : Bool :=
  n.kind == "identifier" || n.kind == "property_identifier" || n.kind == "type_identifier" ||
    n.kind == "shorthand_property_identifier_pattern"

section Standing
variable {P : Node → Prop}
  (hP : ∀ n c : Node, P n → c ∈ n.children → n.kind ≠ "call_expression" ∨ c.kind ≠ "member_expression" → P c)
include hP

namespace Node

theorem standing_child? {n c : Node} {field : String} (h : n.kind ≠ "call_expression") (hn : P n)
    (hc : n.child? field = some c) : P c := hP n c hn (mem_children_of_child? hc) (.inl h)

theorem standing_namedChildrenOfKind {n c : Node} {kind : String} (h : n.kind ≠ "call_expression") (hn : P n)
    (hc : c ∈ n.namedChildrenOfKind kind) : P c :=
  hP n c hn (mem_children_of_namedChildren (List.mem_filter.1 hc).1) (.inl h)

theorem standing_bindingPositions {n : Node} (hn : P n) : ∀ c ∈ n.bindingPositions, P c := by
  have hchild {kind : String} (hkind : n.kind = kind) (h : kind ≠ "call_expression") (c : Node) (hc : c ∈ n.children) :
      P c := hP n c hn hc (.inl (hkind ▸ h))
  intro c hc
  rw [bindingPositions] at hc
  split at hc
  · next hk => exact hchild hk (by decide) c (mem_children_of_namedChildren hc)
  · next hk => exact hchild hk (by decide) c (mem_children_of_namedChildren hc)
  · next hk => exact hchild hk (by decide) c (mem_children_of_child? (Option.mem_toList.1 hc))
  · next hk => exact hchild hk (by decide) c (mem_children_of_child? (Option.mem_toList.1 hc))
  · next hk => exact hchild hk (by decide) c (mem_children_of_child? (Option.mem_toList.1 hc))
  · next hk => exact hchild hk (by decide) c (mem_children_of_child? (Option.mem_toList.1 hc))
  · next hk => exact hchild hk (by decide) c (mem_children_of_child? (Option.mem_toList.1 hc))
  · next hk =>
    have hc := (List.mem_filter.1 (List.mem_reverse.1 hc)).1
    exact hchild hk (by decide) c (mem_children_of_namedChildren hc)
  · cases hc

theorem standing_namesOnStack {stack : List Node} (hstack : ∀ n ∈ stack, P n) :
    ∀ m ∈ namesOnStack stack, P m ∧ m.isWord = true := by
  fun_induction namesOnStack stack with
  | case1 => simp
  | case2 n stack hname ih =>
    intro m hm
    rcases List.mem_cons.1 hm with rfl | hm
    · refine ⟨hstack m List.mem_cons_self, ?_⟩
      simp only [isPatternName, Bool.or_eq_true] at hname
      rcases hname with hk | hk <;> simp [isWord, hk]
    · exact ih (fun k hk => hstack k (List.mem_cons_of_mem n hk)) m hm
  | case3 n stack hname ih =>
    refine ih fun k hk => ?_
    rcases List.mem_append.1 hk with hk | hk
    · exact standing_bindingPositions hP (hstack n List.mem_cons_self) k hk
    · exact hstack k (List.mem_cons_of_mem n hk)

end Node

namespace Declaration

theorem standing_ofPattern {kind : Binding.Kind} {reach : Reach} {pattern : Option Node} {d : Declaration}
    (hpattern : ∀ n, pattern = some n → P n) (hd : d ∈ ofPattern kind reach pattern) :
    P d.name ∧ d.name.isWord = true := by
  obtain ⟨m, hm, rfl⟩ := List.mem_map.1 hd
  exact Node.standing_namesOnStack hP (fun n hn => hpattern n (Option.mem_toList.1 hn)) m hm

section Parts
variable {n : Node} {d : Declaration} (h : n.kind ≠ "call_expression") (hn : P n)
include h hn

theorem standing_ofName {kind : Binding.Kind} {reach : Reach} (hd : d ∈ ofName kind reach n) :
    P d.name ∧ d.name.isWord = true := by
  obtain ⟨c, hc, rfl⟩ := List.mem_map.1 hd
  obtain ⟨hc, hkind⟩ := Option.filter_eq_some_iff.1 (Option.mem_toList.1 hc)
  refine ⟨Node.standing_child? hP h hn hc, ?_⟩
  simp only [Bool.or_eq_true] at hkind
  rcases hkind with hk | hk <;> simp [Node.isWord, hk]

theorem standing_ofNamespace (hd : d ∈ ofNamespace n) : P d.name ∧ d.name.isWord = true := by
  obtain ⟨c, hc, rfl⟩ := List.mem_map.1 hd
  obtain ⟨hc, hkind⟩ := Option.filter_eq_some_iff.1 (Option.mem_toList.1 hc)
  exact ⟨Node.standing_child? hP h hn hc, by simp [Node.isWord, hkind]⟩

theorem standing_ofDeclarators {kind : Binding.Kind} {reach : Reach} (hd : d ∈ ofDeclarators kind reach n) :
    P d.name ∧ d.name.isWord = true := by
  obtain ⟨c, hc, hd⟩ := List.mem_flatMap.1 hd
  have hkind := Node.kind_of_mem_namedChildrenOfKind hc
  refine standing_ofPattern hP (fun m hm => ?_) hd
  exact Node.standing_child? hP (by simp [hkind]) (Node.standing_namedChildrenOfKind hP h hn hc) hm

theorem standing_ofParameters (hd : d ∈ ofParameters n) : P d.name ∧ d.name.isWord = true := by
  rw [ofParameters, List.mem_append] at hd
  rcases hd with hd | hd
  · exact standing_ofPattern hP (fun m hm => Node.standing_child? hP h hn hm) hd
  · split at hd
    · cases hd
    · next params hparams =>
      obtain ⟨p, hp, hd⟩ := List.mem_flatMap.1 hd
      have hmember : p.kind ≠ "member_expression" := by
        intro hkind
        rw [ofPattern, Node.patternNames_of_member hkind] at hd
        cases hd
      have hparams := Node.standing_child? hP h hn hparams
      have hp := hP params p hparams (Node.mem_children_of_namedChildren hp) (.inr hmember)
      exact standing_ofPattern hP (fun m hm => Option.some.inj hm ▸ hp) hd

theorem standing_ofLoopHead {src : Bytes} (hd : d ∈ ofLoopHead src n) : P d.name ∧ d.name.isWord = true := by
  rw [ofLoopHead] at hd
  split at hd
  · cases hd
  · split at hd
    · exact standing_ofPattern hP (fun m hm => Node.standing_child? hP h hn hm) hd
    · exact standing_ofPattern hP (fun m hm => Node.standing_child? hP h hn hm) hd

theorem standing_importedName {m : Node} (hm : importedName n = some m) : P m ∧ m.isWord = true := by
  obtain ⟨hm, hkind⟩ := Option.filter_eq_some_iff.1 hm
  refine ⟨?_, by simp [Node.isWord, hkind]⟩
  rcases Option.or_eq_some_iff.1 hm with hm | ⟨-, hm⟩
  · exact Node.standing_child? hP h hn hm
  · exact Node.standing_child? hP h hn hm

end Parts

theorem standing_identifier {n m : Node} (h : n.kind ≠ "call_expression") (hn : P n)
    (hm : m ∈ n.namedChildrenOfKind "identifier") : P m ∧ m.isWord = true :=
  ⟨Node.standing_namedChildrenOfKind hP h hn hm, by simp [Node.isWord, Node.kind_of_mem_namedChildrenOfKind hm]⟩

theorem standing_importedNames {part m : Node} (hpart : P part) (hm : m ∈ importedNames part) :
    P m ∧ m.isWord = true := by
  rw [importedNames] at hm
  split at hm
  · next hk =>
    obtain rfl := List.mem_singleton.1 hm
    exact ⟨hpart, by simp [Node.isWord, hk]⟩
  · next hk => exact standing_identifier hP (by simp [hk]) hpart hm
  · next hk =>
    obtain ⟨c, hc, hm⟩ := List.mem_filterMap.1 hm
    have hkind := Node.kind_of_mem_namedChildrenOfKind hc
    exact standing_importedName hP (by simp [hkind])
      (Node.standing_namedChildrenOfKind hP (by simp [hk]) hpart hc) hm
  · cases hm

theorem standing_ofImport {n : Node} {d : Declaration} (h : n.kind ≠ "call_expression") (hn : P n)
    (hd : d ∈ ofImport n) : P d.name ∧ d.name.isWord = true := by
  obtain ⟨m, hm, rfl⟩ := List.mem_map.1 hd
  obtain ⟨c, hc, hm⟩ := List.mem_flatMap.1 hm
  have hstanding : P c := hP n c hn (Node.mem_children_of_namedChildren hc) (.inl h)
  rw [importLocals] at hm
  split at hm
  · next hk => exact standing_identifier hP (by simp [hk]) hstanding hm
  · next hk =>
    obtain ⟨part, hpart, hm⟩ := List.mem_flatMap.1 hm
    have hpart := hP c part hstanding (Node.mem_children_of_namedChildren hpart) (.inl (by simp [hk]))
    exact standing_importedNames hP hpart hm
  · cases hm

end Declaration

/-- A declared name is a word, and no callee stands between it and the node that declares it: it has whatever passes down
the tree to all but callees. -/
theorem Node.standing_declarations {src : Bytes} {n : Node} {d : Declaration} (hn : P n)
    (hd : d ∈ n.declarations src) : P d.name ∧ d.name.isWord = true := by
  by_cases hne : n.kind = "call_expression"
  · simp [declarations, hne] at hd
  · have hfunction {reach : Reach}
        (hd : d ∈ Declaration.ofName .functionDecl reach n ++ Declaration.ofParameters n) :
        P d.name ∧ d.name.isWord = true :=
      (List.mem_append.1 hd).elim (Declaration.standing_ofName hP hne hn) (Declaration.standing_ofParameters hP hne hn)
    rw [declarations] at hd
    split at hd
    · exact Declaration.standing_ofDeclarators hP hne hn hd
    · exact Declaration.standing_ofDeclarators hP hne hn hd
    · exact hfunction hd
    · exact hfunction hd
    · exact Declaration.standing_ofName hP hne hn hd
    · exact hfunction hd
    · exact hfunction hd
    · exact hfunction hd
    · exact Declaration.standing_ofParameters hP hne hn hd
    · exact Declaration.standing_ofParameters hP hne hn hd
    · exact Declaration.standing_ofName hP hne hn hd
    · exact Declaration.standing_ofName hP hne hn hd
    · exact Declaration.standing_ofName hP hne hn hd
    · exact Declaration.standing_ofPattern hP (fun m hm => standing_child? hP hne hn hm) hd
    · exact Declaration.standing_ofLoopHead hP hne hn hd
    · exact Declaration.standing_ofImport hP hne hn hd
    · exact Declaration.standing_ofName hP hne hn hd
    · exact Declaration.standing_ofNamespace hP hne hn hd
    · exact Declaration.standing_ofNamespace hP hne hn hd
    · cases hd

end Standing

end CallRedirect
