import CallRedirect.Proofs.CallSites
import CallRedirect.Proofs.Printing
import CallRedirect.Proofs.Recording

/-! # Redirecting is patching callees

Redirecting the calls of a target in a file as it was read changes the callees of exactly the calls whose object is
ambient, and leaves every other byte alone.

* `Document.statementAt?_item`: the statement that starts at an offset.
* `CallSite.exists_statement`: every call stands in a statement of the file.
* `Document.laid_patched`: items with patches in them, one after the other, are the patched file.
* `Session.redirect_patches`: the text after redirecting, and how many calls were redirected. -/

namespace CallRedirect
set_option autoImplicit false

namespace Document

/-! ## Statements of the file -/

section Statements
variable {code : String} {root : Node} {src : Bytes}

theorem item_mem_children {g : Group} (hg : g ∈ (outline src root).groups) : g.item.node ∈ root.children :=
  mem_children_of_mem_items ((sublist_groups src root).subset (List.mem_map_of_mem hg))

theorem pairwise_groups (hroot : root.WellFormed code) (src : Bytes) :
    (outline src root).groups.Pairwise fun g g' =>
      g.item.node.start < g.item.node.stop ∧ g.item.node.stop ≤ g'.item.node.start := by
  have hsub := (sublist_groups src root).map Item.node
  rw [map_node_items, List.map_map] at hsub
  have hapart := (hroot.nested root root.self_mem_nodes).apart.sublist hsub
  refine (List.pairwise_map.1 hapart).imp_of_mem ?_
  intro g g' hg _ hle
  exact ⟨hroot.statements _ (item_mem_children hg) (sorted_outline src root g hg).item, hle⟩

theorem apart_groups (hroot : root.WellFormed code) {j k : Nat} {g g' : Group}
    (hg : (outline src root).groups[j]? = some g) (hg' : (outline src root).groups[k]? = some g') (hne : j ≠ k) :
    g.item.node.stop ≤ g'.item.node.start ∨ g'.item.node.stop ≤ g.item.node.start := by
  obtain ⟨hj, rfl⟩ := List.getElem?_eq_some_iff.1 hg
  obtain ⟨hk, rfl⟩ := List.getElem?_eq_some_iff.1 hg'
  have hpairwise := List.pairwise_iff_getElem.1 (pairwise_groups hroot src)
  rcases Nat.lt_or_gt_of_ne hne with hlt | hlt
  · exact .inl (hpairwise j k hj hk hlt).2
  · exact .inr (hpairwise k j hk hj hlt).2

theorem standsAt_statement (g : Group) (offset : Nat) :
    (g.statement src).standsAt offset = (g.item.node.start == offset) := rfl

theorem statementAt?_item (hroot : root.WellFormed code) {j : Nat} {g : Group}
    (hg : (outline src root).groups[j]? = some g) : (ofItems src root).statementAt? g.item.node.start = some j := by
  obtain ⟨hj, rfl⟩ := List.getElem?_eq_some_iff.1 hg
  rw [statementAt?, ofItems_eq, List.findIdx?_map, List.findIdx?_eq_some_iff_getElem]
  refine ⟨hj, by simp [standsAt_statement], ?_⟩
  intro k hk
  have hkj := List.pairwise_iff_getElem.1 (pairwise_groups hroot src) k j (by omega) hj hk
  simp only [Function.comp_apply, standsAt_statement, beq_iff_eq]
  omega

theorem fresh_ofItems (src : Bytes) (root : Node) : ∀ st ∈ (ofItems src root).statements, st.replacements = [] := by
  intro st hst
  rw [statements_ofItems] at hst
  obtain ⟨g, -, rfl⟩ := List.mem_map.1 hst
  rfl

/-- Every item that is no comment is a statement of the file. -/
theorem exists_group_of_item {i : Item} (src : Bytes) (hi : i ∈ items root) (hcomment : i.isComment = false) :
    ∃ (j : Nat) (g : Group), (outline src root).groups[j]? = some g ∧ g.item = i := by
  have hstatement : ¬ i.isComment = true := ne_true_of_eq_false hcomment
  rw [← items_outline src root, Outline.items, List.mem_append, List.mem_flatMap] at hi
  rcases hi with hheader | ⟨g, hg, hi⟩
  · exact absurd (isComment_of_mem_header hheader) hstatement
  · have hsorted := sorted_outline src root g hg
    rw [Group.items, List.mem_append, List.mem_cons] at hi
    rcases hi with hleading | rfl | htrailing
    · exact absurd (hsorted.leading i hleading) hstatement
    · obtain ⟨j, hj⟩ := List.mem_iff_getElem?.1 hg
      exact ⟨j, g, hj, rfl⟩
    · exact absurd (hsorted.trailing i htrailing) hstatement

/-- Every child of the root that is no comment is a statement of the file. -/
theorem exists_group {n : Node} (src : Bytes) (hn : n ∈ root.children) (hcomment : n.isComment = false) :
    ∃ (j : Nat) (g : Group), (outline src root).groups[j]? = some g ∧ g.item.node = n := by
  rw [← map_node_items] at hn
  obtain ⟨i, hi, rfl⟩ := List.mem_map.1 hn
  obtain ⟨j, g, hg, hitem⟩ := exists_group_of_item src hi hcomment
  exact ⟨j, g, hg, hitem ▸ rfl⟩

end Statements

/-! ## Patches in the items -/

/-- Items with patches in them and nowhere else, one after the other, are the patched file. -/
theorem laid_patched {src : Bytes} {ps : List Patch} {pos hi : Nat} {is : List Item}
    (horder : Node.InOrder pos hi (is.map Item.node))
    (hps : ∀ p ∈ ps, p.start < p.stop ∧
      (p.stop ≤ pos ∨ ∃ i ∈ is, i.node.start ≤ p.start ∧ p.stop ≤ i.node.stop)) :
    laid src (fun i => src.patched ps i.node.start i.node.stop) pos is = src.patched ps pos (stopAfter pos is) := by
  induction is generalizing pos with
  | nil => simp [laid, stopAfter]
  | cons i is ih =>
    have hspan := horder.inside i.node List.mem_cons_self
    -- no patch reaches into the gap: each ends above it, or stands in this item or a later one
    have hgap : src.patched ps pos i.node.start = src.slice pos i.node.start := by
      apply Bytes.patched_of_apart
      intro p hp
      refine ⟨(hps p hp).1, ?_⟩
      rcases (hps p hp).2 with hbefore | ⟨j, hj, hinside⟩
      · exact .inl hbefore
      · rcases List.mem_cons.1 hj with rfl | hj
        · exact .inr hinside.1
        · have := (List.pairwise_cons.1 horder.apart).1 j.node (List.mem_map_of_mem hj)
          exact .inr (by omega)
    have hrest := ih horder.tail fun p hp => by
      refine ⟨(hps p hp).1, ?_⟩
      rcases (hps p hp).2 with hbefore | ⟨j, hj, hinside⟩
      · exact .inl (by omega)
      · rcases List.mem_cons.1 hj with rfl | hj
        · exact .inl hinside.2
        · exact .inr ⟨j, hj, hinside⟩
    rw [laid, stopAfter, hrest, ← hgap, src.patched_append ps hspan.1 hspan.2.1,
      src.patched_append ps (by omega) (le_stopAfter horder.tail)]

theorem stopAfter_le {pos hi : Nat} {is : List Item} (h : Node.InOrder pos hi (is.map Item.node)) (hpos : pos ≤ hi) :
    stopAfter pos is ≤ hi := by
  induction is generalizing pos with
  | nil => exact hpos
  | cons i is ih => exact ih h.tail (h.inside i.node List.mem_cons_self).2.2

theorem stop_le_stopAfter {pos hi : Nat} {is : List Item} (h : Node.InOrder pos hi (is.map Item.node)) {i : Item}
    (hi : i ∈ is) : i.node.stop ≤ stopAfter pos is := by
  induction is generalizing pos with
  | nil => exact absurd hi List.not_mem_nil
  | cons j is ih =>
    rcases List.mem_cons.1 hi with rfl | hi
    · exact le_stopAfter h.tail
    · exact ih h.tail hi

theorem PrintsItems.renderBytes_patched {d : Document} {src : Bytes} {root : Node} {ps : List Patch}
    (h : d.PrintsItems fun i => src.patched ps i.node.start i.node.stop) (hsource : d.source = src)
    (htree : d.root = root) (horder : Node.InOrder 0 src.length root.children)
    (hps : ∀ p ∈ ps, p.start < p.stop ∧ ∃ i ∈ items root, i.node.start ≤ p.start ∧ p.stop ≤ i.node.stop) :
    d.renderBytes = .ok (src.patched ps 0 src.length) := by
  subst hsource htree
  rw [← map_node_items] at horder
  have hlaid : laid d.source (fun i => d.source.patched ps i.node.start i.node.stop) 0 (items d.root) =
      d.source.patched ps 0 (stopAfter 0 (items d.root)) :=
    laid_patched horder fun p hp => ⟨(hps p hp).1, .inr (hps p hp).2⟩
  have hrest : d.source.patched ps (stopAfter 0 (items d.root)) d.source.length =
      d.source.drop (stopAfter 0 (items d.root)) := by
    rw [Bytes.patched_of_apart, Bytes.slice, List.take_length]
    intro p hp
    obtain ⟨hspan, i, hi, -, hstop⟩ := hps p hp
    exact ⟨hspan, .inl (Nat.le_trans hstop (stop_le_stopAfter horder hi))⟩
  rw [h.renderBytes, hlaid, ← hrest, d.source.patched_append ps (Nat.zero_le _) (stopAfter_le horder (Nat.zero_le _))]

/-! ## Recorded replacements -/

theorem PrintsItems.recorded {src : Bytes} {root : Node} {on : Nat → List Replacement} {write : Item → Bytes}
    (hstatements : ∀ (j : Nat) (g : Group), (outline src root).groups[j]? = some g →
      Replacement.splice src (on j) g.item.node.start g.item.node.stop = some (write g.item))
    (hcomments : ∀ i ∈ items root, i.isComment = true → write i = i.bytes src) :
    ((ofItems src root).recorded on).PrintsItems write := by
  rw [Document.recorded, mapStatements, ofItems_eq]
  refine ⟨⟨rfl, rfl⟩, rfl, ?_, hcomments⟩
  rw [List.forall₂_iff_get]
  refine ⟨by simp, ?_⟩
  intro j hj hj'
  have hsplice := hstatements j _ (List.getElem?_eq_getElem hj')
  refine ⟨by simp [Group.statement, Item.statement], by simp [Group.statement, Item.statement],
    by simp [Group.statement, Item.statement], ?_⟩
  simp [Group.statement, Item.statement, Statement.render, Item.slot, hsplice]

end Document

/-! ## Calls in their statements -/

namespace CallSite
variable {code : String} {root : Node} {src : Bytes} {t : Target}

theorem exists_child (hroot : root.WellFormed code) {c : CallSite} (hc : c ∈ all src t root) :
    ∃ n ∈ root.children, n.isComment = false ∧ c.call ∈ n.preorder [root] := by
  obtain ⟨hsite, hshape⟩ := mem_all_iff.1 hc
  rw [Node.preorder_eq, List.mem_cons, List.mem_flatMap] at hsite
  rcases hsite with hself | ⟨n, hn, hbelow⟩
  · have hkind := hshape.call
    rw [hself, hroot.program] at hkind
    exact absurd hkind (by decide)
  · refine ⟨n, hn, ?_, hbelow⟩
    by_contra hcomment
    have hleaf := hroot.comments n (Node.child_mem_nodes hn) (by simpa using hcomment)
    rw [Node.preorder_eq, hleaf, List.flatMap_nil, List.mem_singleton] at hbelow
    have hcallee := callee_mem_children hshape
    rw [hbelow, hleaf] at hcallee
    exact absurd hcallee List.not_mem_nil

/-- Every call stands in a statement of the file, and that is where its replacement goes. -/
theorem exists_statement (hroot : root.WellFormed code) {c : CallSite} (hc : c ∈ all src t root) :
    ∃ (j : Nat) (g : Document.Group), (Document.outline src root).groups[j]? = some g ∧
      (Document.ofItems src root).statementAt? c.call.top.start = some j ∧
      g.item.node.start ≤ c.call.node.start ∧ c.call.node.stop ≤ g.item.node.stop := by
  obtain ⟨n, hn, hcomment, hbelow⟩ := exists_child hroot hc
  obtain ⟨j, g, hg, rfl⟩ := Document.exists_group src hn hcomment
  have hspan := (hroot.nested.child hn).span (hroot.nested.child_span hn).2.1 (Node.node_mem_nodes hbelow)
  refine ⟨j, g, hg, ?_, hspan.1, hspan.2.2⟩
  rw [hroot.top_of_mem hn hbelow]
  exact Document.statementAt?_item hroot hg

/-- A call stands in the statement that its replacement goes to, and apart from every other one. -/
theorem inside_or_apart (hroot : root.WellFormed code) {c : CallSite} (hc : c ∈ all src t root) {j : Nat}
    {g : Document.Group} (hg : (Document.outline src root).groups[j]? = some g) :
    if (Document.ofItems src root).statementAt? c.call.top.start = some j then
      g.item.node.start ≤ c.call.node.start ∧ c.call.node.stop ≤ g.item.node.stop
    else c.call.node.stop ≤ g.item.node.start ∨ g.item.node.stop ≤ c.call.node.start := by
  obtain ⟨k, g', hg', hat, hinside⟩ := exists_statement hroot hc
  rw [hat]
  split
  · next heq =>
    obtain rfl := Option.some.inj heq
    obtain rfl := Option.some.inj (hg.symm.trans hg')
    exact hinside
  · next hne =>
    rcases Document.apart_groups hroot hg hg' (fun heq => hne (congrArg some heq.symm)) with hbehind | hbefore
    · right
      omega
    · left
      omega

/-- The callee that is replaced stands in a statement of the file. -/
theorem patch_in_statement (hroot : root.WellFormed code) {c : CallSite} (hc : c ∈ all src t root) (hproper : c.Proper)
    (t' : Target) :
    (c.patch t').start < (c.patch t').stop ∧ ∃ i ∈ Document.items root, i.isComment = false ∧
      i.node.start ≤ (c.patch t').start ∧ (c.patch t').stop ≤ i.node.stop := by
  have hspan := callee_span hroot.nested hc
  obtain ⟨j, g, hg, -, hstart, hstop⟩ := exists_statement hroot hc
  have hg := List.mem_of_getElem? hg
  refine ⟨(proper_replacement hroot.nested hc hproper.nonempty t').callee, g.item, ?_,
    (Document.sorted_outline src root g hg).item, hstart, Nat.le_trans hspan.2 hstop⟩
  exact Document.mem_items_of_group hg (List.mem_append_right _ List.mem_cons_self)

theorem bounded_replacement (hroot : root.WellFormed code) {c : CallSite} (hc : c ∈ all src t root) (t' : Target) :
    (c.replacement t').Bounded code := by
  obtain ⟨hsite, hshape⟩ := mem_all_iff.1 hc
  have hcall := Node.node_mem_nodes hsite
  have hcallee := Node.mem_nodes_trans hcall (Node.child_mem_nodes (callee_mem_children hshape))
  exact ⟨(hroot.boundaries _ hcall).1, (hroot.boundaries _ hcall).2, (hroot.boundaries _ hcallee).2,
    (hroot.boundaries _ hcall).2⟩

end CallSite

/-! ## The text after redirecting -/

namespace Session

theorem placedOn_eq (d : Document) (t : Target) (i : Nat) :
    placedOn d t i =
      ((ambientCalls d t).filter fun c => d.statementAt? c.call.top.start == some i).map (CallSite.replacement t) := by
  rw [placedOn, placed]
  generalize ambientCalls d t = cs
  induction cs with
  | nil => rfl
  | cons c cs ih =>
    cases h : d.statementAt? c.call.top.start with
    | none => simpa [h] using ih
    | some j =>
      by_cases hji : j = i
      · simpa [h, hji] using ih
      · simpa [h, hji] using ih

/-- Where spans are between characters, the change of every call can be written down. -/
theorem writable_of_proper {code : String} {rs : List Replacement} (hproper : ∀ r ∈ rs, r.Proper)
    (hbounded : ∀ r ∈ rs, r.Bounded code) : Writable (Bytes.ofString code) rs := by
  intro r hr
  have hr' := hbounded r hr
  obtain ⟨before, hbefore, -⟩ := (Bytes.isText_slice hr'.start hr'.stop).decode
  obtain ⟨args, hargs⟩ := Replacement.exists_splice (Bytes.ofString code) (fun r hr => (hproper r hr).callee) r.argsStart
    r.argsStop
  have htext := Replacement.isText_spliceTo hbounded hr'.argsStart hr'.argsStop hargs
  obtain ⟨after, hafter, -⟩ := ((Bytes.isText_ofString r.callee).append htext).decode
  refine ⟨.mutation "Call" before after (some ((Bytes.ofString code).line r.start)), ?_⟩
  rw [mutation, hbefore, Replacement.render, hargs]
  show (Bytes.decode _).bind _ = _
  rw [hafter]
  rfl

section Redirect
variable {code : String} {root : Node} {t : Target} {src : Bytes}

theorem sublist_ambientCalls (src : Bytes) (root : Node) (t : Target) :
    (ambientCalls (.ofItems src root) t).Sublist (CallSite.all src t root) := by
  rw [ambientCalls, Document.source_ofItems, Document.root_ofItems]
  exact List.filter_sublist

theorem mem_ambientCalls_iff {c : CallSite} :
    c ∈ ambientCalls (.ofItems src root) t ↔ c.call ∈ root.preorder [] ∧ c.IsCallOf src t ∧
      (ScopeTable.ofTree src root).resolve c.objectSite t.object = none := by
  rw [ambientCalls, Document.source_ofItems, Document.root_ofItems, List.mem_filter, CallSite.mem_all_iff, and_assoc,
    CallSite.binding?, Option.isNone_iff_eq_none]

/-- The replacements of calls on a statement change its text as the patches of all these calls do. -/
theorem splice_calls (hroot : root.WellFormed code) {ps : List (Target × CallSite)}
    (hps : ∀ p ∈ ps, p.2 ∈ CallSite.all src p.1 root ∧ p.2.Proper) {j : Nat} {g : Document.Group}
    (hg : (Document.outline src root).groups[j]? = some g) :
    Replacement.splice src
        ((ps.filter fun p => (Document.ofItems src root).statementAt? p.2.call.top.start == some j).map fun p =>
          p.2.replacement p.1) g.item.node.start g.item.node.stop =
      some (src.patched (ps.map fun p => p.2.patch p.1) g.item.node.start g.item.node.stop) := by
  rw [Replacement.splice_eq_patched, List.map_map]
  · congr 1
    apply Bytes.patched_filter
    intro p hp helsewhere
    have hpatch := CallSite.patch_in_statement hroot (hps p hp).1 (hps p hp).2 p.1
    have hapart := CallSite.inside_or_apart hroot (hps p hp).1 hg
    rw [if_neg (by simpa using helsewhere)] at hapart
    have hspan := CallSite.callee_span hroot.nested (hps p hp).1
    refine ⟨hpatch.1, ?_⟩
    show p.2.callee.stop ≤ _ ∨ _ ≤ p.2.call.node.start
    omega
  · apply CallSite.laminar_of_proper hroot.nested
    intro r hr
    obtain ⟨p, hp, rfl⟩ := List.mem_map.1 hr
    have hp := (List.mem_filter.1 hp).1
    exact ⟨p.1, p.1, p.2, (hps p hp).1, (hps p hp).2, rfl⟩
  · intro r hr
    obtain ⟨p, hp, rfl⟩ := List.mem_map.1 hr
    obtain ⟨hp, hat⟩ := List.mem_filter.1 hp
    have hinside := CallSite.inside_or_apart hroot (hps p hp).1 hg
    rw [if_pos (beq_iff_eq.1 hat)] at hinside
    exact .inl (Replacement.inside_iff.2 hinside)
  · exact (hroot.nested.child_span (Document.item_mem_children (List.mem_of_getElem? hg))).2.1

/-- The replacements on a statement change its text as all patches of the file do. -/
theorem splice_placedOn (hroot : root.WellFormed code) (hproper : ∀ c ∈ CallSite.all src t root, c.Proper) {j : Nat}
    {g : Document.Group} (hg : (Document.outline src root).groups[j]? = some g) :
    Replacement.splice src (placedOn (.ofItems src root) t j) g.item.node.start g.item.node.stop =
      some (src.patched ((ambientCalls (.ofItems src root) t).map (CallSite.patch t)) g.item.node.start
        g.item.node.stop) := by
  have hcalls : ∀ p ∈ (ambientCalls (.ofItems src root) t).map (t, ·),
      p.2 ∈ CallSite.all src p.1 root ∧ p.2.Proper := by
    intro p hp
    obtain ⟨c, hc, rfl⟩ := List.mem_map.1 hp
    have hc := (sublist_ambientCalls src root t).subset hc
    exact ⟨hc, hproper c hc⟩
  have hsplice := splice_calls hroot hcalls hg
  rw [List.filter_map, List.map_map, List.map_map] at hsplice
  rw [placedOn_eq]
  exact hsplice

theorem patch_inside (hroot : root.WellFormed code) (hproper : ∀ c ∈ CallSite.all src t root, c.Proper) {p : Patch}
    (hp : p ∈ (ambientCalls (.ofItems src root) t).map (CallSite.patch t)) :
    p.start < p.stop ∧
      ∃ i ∈ Document.items root, i.isComment = false ∧ i.node.start ≤ p.start ∧ p.stop ≤ i.node.stop := by
  obtain ⟨c, hc, rfl⟩ := List.mem_map.1 hp
  have hc := (sublist_ambientCalls src root t).subset hc
  exact CallSite.patch_in_statement hroot hc (hproper c hc) t

/-- Patches in statements leave the comments alone. -/
theorem patched_comment_of_inside (hroot : root.WellFormed code) {ps : List Patch}
    (hps : ∀ p ∈ ps, p.start < p.stop ∧
      ∃ i ∈ Document.items root, i.isComment = false ∧ i.node.start ≤ p.start ∧ p.stop ≤ i.node.stop)
    {i : Document.Item} (hi : i ∈ Document.items root) (hcomment : i.isComment = true) :
    src.patched ps i.node.start i.node.stop = i.bytes src := by
  apply Bytes.patched_of_apart
  intro p hp
  obtain ⟨hspan, j, hj, hstatement, hstart, hstop⟩ := hps p hp
  refine ⟨hspan, ?_⟩
  have hij := (hroot.nested root root.self_mem_nodes).eq_or_apart (Document.mem_children_of_mem_items hi)
    (Document.mem_children_of_mem_items hj)
  rcases hij with heq | hbefore | hbehind
  · have hkind : i.isComment = j.isComment := by rw [Document.Item.isComment, heq, ← Document.Item.isComment]
    rw [hcomment, hstatement] at hkind
    cases hkind
  · right
    omega
  · left
    omega

theorem patched_comment (hroot : root.WellFormed code) (hproper : ∀ c ∈ CallSite.all src t root, c.Proper)
    {i : Document.Item} (hi : i ∈ Document.items root) (hcomment : i.isComment = true) :
    src.patched ((ambientCalls (.ofItems src root) t).map (CallSite.patch t)) i.node.start i.node.stop =
      i.bytes src :=
  patched_comment_of_inside hroot (fun _ hp => patch_inside hroot hproper hp) hi hcomment

theorem printsItems_recorded (hroot : root.WellFormed code) (hproper : ∀ c ∈ CallSite.all src t root, c.Proper) :
    (Document.recorded (.ofItems src root) (placedOn (.ofItems src root) t)).PrintsItems fun i =>
      src.patched ((ambientCalls (.ofItems src root) t).map (CallSite.patch t)) i.node.start i.node.stop :=
  Document.PrintsItems.recorded (fun _ _ hg => splice_placedOn hroot hproper hg)
    (fun _ hi hcomment => patched_comment hroot hproper hi hcomment)

theorem renderBytes_recorded (hroot : root.WellFormed code)
    (hproper : ∀ c ∈ CallSite.all (Bytes.ofString code) t root, c.Proper) :
    (Document.recorded (.ofItems (Bytes.ofString code) root)
        (placedOn (.ofItems (Bytes.ofString code) root) t)).renderBytes =
      .ok ((Bytes.ofString code).patched
        ((ambientCalls (.ofItems (Bytes.ofString code) root) t).map (CallSite.patch t)) 0
        (Bytes.ofString code).length) := by
  have hprints := printsItems_recorded hroot hproper
  refine hprints.renderBytes_patched (Document.source_ofItems _ _) (Document.root_ofItems _ _) hroot.inOrder_children ?_
  intro p hp
  obtain ⟨hspan, i, hi, -, hinside⟩ := patch_inside hroot hproper hp
  exact ⟨hspan, i, hi, hinside⟩

theorem isText_redirected (hroot : root.WellFormed code)
    (hproper : ∀ c ∈ CallSite.all (Bytes.ofString code) t root, c.Proper) :
    ((Bytes.ofString code).patched ((ambientCalls (.ofItems (Bytes.ofString code) root) t).map (CallSite.patch t)) 0
      (Bytes.ofString code).length).IsText := by
  have hsub := sublist_ambientCalls (Bytes.ofString code) root t
  have hall := CallSite.laminar_replacements hroot.nested hproper hsub t
  have hbounded : ∀ r ∈ (ambientCalls (.ofItems (Bytes.ofString code) root) t).map (CallSite.replacement t),
      r.Bounded code := by
    intro r hr
    obtain ⟨c, hc, rfl⟩ := List.mem_map.1 hr
    exact CallSite.bounded_replacement hroot (hsub.subset hc) t
  have hclean : Replacement.Clean
      ((ambientCalls (.ofItems (Bytes.ofString code) root) t).map (CallSite.replacement t)) 0
      (Bytes.ofString code).length :=
    fun r hr => .inl (Replacement.inside_iff.2 ⟨Nat.zero_le _, (hbounded r hr).stop.le_length⟩)
  have htext := Replacement.isText_patched hall hbounded hclean (Nat.zero_le _) (Bytes.boundary_zero code)
    (Bytes.boundary_length code)
  rwa [List.map_map] at htext

/-- Every call has its place. -/
theorem map_snd_placed (hroot : root.WellFormed code) :
    (placed (.ofItems src root) t).map Prod.snd =
      (ambientCalls (.ofItems src root) t).map (CallSite.replacement t) := by
  have hat : ∀ c ∈ ambientCalls (.ofItems src root) t,
      ∃ j, (Document.ofItems src root).statementAt? c.call.top.start = some j := by
    intro c hc
    obtain ⟨j, g, -, hj, -⟩ := CallSite.exists_statement hroot ((sublist_ambientCalls src root t).subset hc)
    exact ⟨j, hj⟩
  rw [placed]
  generalize ambientCalls (.ofItems src root) t = cs at hat
  induction cs with
  | nil => rfl
  | cons c cs ih =>
    obtain ⟨j, hj⟩ := hat c List.mem_cons_self
    have hrest := ih fun c' hc' => hat c' (List.mem_cons_of_mem c hc')
    simp [hj, hrest]

theorem length_placed (hroot : root.WellFormed code) :
    (placed (.ofItems src root) t).length = (ambientCalls (.ofItems src root) t).length := by
  have hlength := congrArg List.length (@map_snd_placed code root t src hroot)
  rwa [List.length_map, List.length_map] at hlength

theorem writable_placedOn_of_tree (hroot : root.WellFormed code)
    (hwidth : ∀ c ∈ CallSite.all (Bytes.ofString code) t root, c.callee.start < c.callee.stop) {d : Document}
    (hsource : d.source = Bytes.ofString code) (htree : d.root = root) (i : Nat) :
    Writable (Bytes.ofString code) (placedOn d t i) := by
  have hcalls : ∀ r ∈ placedOn d t i, ∃ c ∈ CallSite.all (Bytes.ofString code) t root, c.replacement t = r := by
    intro r hr
    rw [placedOn_eq, ambientCalls, hsource, htree] at hr
    obtain ⟨c, hc, rfl⟩ := List.mem_map.1 hr
    exact ⟨c, (List.filter_sublist.trans List.filter_sublist).subset hc, rfl⟩
  apply writable_of_proper
  · intro r hr
    obtain ⟨c, hc, rfl⟩ := hcalls r hr
    exact CallSite.proper_replacement hroot.nested hc (hwidth c hc) t
  · intro r hr
    obtain ⟨c, hc, rfl⟩ := hcalls r hr
    exact CallSite.bounded_replacement hroot hc t

theorem writable_placedOn (hroot : root.WellFormed code)
    (hproper : ∀ c ∈ CallSite.all (Bytes.ofString code) t root, c.Proper) (i : Nat) :
    Writable (Bytes.ofString code) (placedOn (.ofItems (Bytes.ofString code) root) t i) :=
  writable_placedOn_of_tree hroot (fun c hc => (hproper c hc).nonempty) (Document.source_ofItems _ _)
    (Document.root_ofItems _ _) i

theorem pairwise_callee_ambientCalls (hroot : root.WellFormed code)
    (hproper : ∀ c ∈ CallSite.all src t root, c.Proper) :
    (ambientCalls (.ofItems src root) t).Pairwise fun a b =>
      a.call.node.start < a.callee.stop ∧ a.callee.stop ≤ b.call.node.start :=
  CallSite.pairwise_callee hroot.nested hproper (sublist_ambientCalls src root t)

end Redirect

/-- Redirecting in a file as it was read puts the function in the place of the callee of every call of the target whose
object nothing binds, and changes no other byte. It counts exactly those calls. -/
theorem redirect_patches (dialect : Dialect) (code : String) (root : Node) (t : Target)
    (hfault : root.firstFaulty? = none)
    (hroot : root.WellFormed code) (hproper : ∀ c ∈ CallSite.all (Bytes.ofString code) t root, c.Proper) :
    ∃ (d : Document) (calls : List CallSite),
      Document.ofTree dialect (Bytes.ofString code) root = .ok d ∧
      (∀ c, c ∈ calls ↔ c.call ∈ root.preorder [] ∧ c.IsCallOf (Bytes.ofString code) t ∧
        (ScopeTable.ofTree (Bytes.ofString code) root).resolve c.objectSite t.object = none) ∧
      (calls.Pairwise fun a b => a.call.node.start < a.callee.stop ∧ a.callee.stop ≤ b.call.node.start) ∧
      ∀ s : Session, s.document = d → ∃ (s' : Session) (text : String),
        s.redirect t = .ok (calls.length, s') ∧ s'.document.render = .ok text ∧
        Bytes.ofString text =
          (Bytes.ofString code).patched (calls.map (CallSite.patch t)) 0 (Bytes.ofString code).length := by
  refine ⟨_, ambientCalls (.ofItems (Bytes.ofString code) root) t, Document.ofTree_eq_ok hfault,
    fun c => mem_ambientCalls_iff, pairwise_callee_ambientCalls hroot hproper, ?_⟩
  intro s hs
  have hfresh : ∀ st ∈ s.document.statements, st.replacements = [] := by
    rw [hs, Document.ofItems_eq]
    intro st hst
    obtain ⟨g, -, rfl⟩ := List.mem_map.1 hst
    rfl
  obtain ⟨s', hs', hdocument⟩ := redirect_eq (t := t) hfresh (by
    rw [hs, Document.source_ofItems]
    exact writable_placedOn hroot hproper)
  rw [hs, length_placed hroot] at hs'
  rw [hs] at hdocument
  obtain ⟨text, hdecode, htext⟩ := (isText_redirected hroot hproper).decode
  refine ⟨s', text, hs', ?_, htext⟩
  rw [hdocument, Document.render, renderBytes_recorded hroot hproper]
  exact hdecode

/-- A call `console.error(…)`. -/
def consoleCall (start stop : Nat) (args : List Node) : Node :=
  ⟨"call_expression", true, false, start, stop, none,
    [⟨"member_expression", true, false, start, start + 13, some "function",
      [⟨"identifier", true, false, start, start + 7, some "object", []⟩,
        ⟨"property_identifier", true, false, start + 8, start + 13, some "property", []⟩]⟩,
      ⟨"arguments", true, false, start + 13, stop, some "arguments", args⟩]⟩

/-- The tree of `console.error(console.error(1)); //`. -/
def nestedCalls : Node :=
  ⟨"program", true, false, 0, 35, none,
    [⟨"expression_statement", true, false, 0, 32, none,
      [consoleCall 0 31 [consoleCall 14 30 [⟨"number", true, false, 28, 29, none, []⟩]]]⟩,
      ⟨"comment", true, false, 33, 35, none, []⟩]⟩

theorem redirect_patches_nested :
    ∃ s s' : Session,
      Document.ofTree .js (Bytes.ofString "console.error(console.error(1)); //") nestedCalls = .ok s.document ∧
      s.redirect ⟨"console", "error", "logError"⟩ = .ok (2, s') ∧
      s'.document.render = .ok "logError(logError(1)); //" := by
  obtain ⟨d, calls, hd, -, -, h⟩ := redirect_patches .js "console.error(console.error(1)); //" nestedCalls
    ⟨"console", "error", "logError"⟩ (by decide +kernel) (by decide +kernel) (by decide +kernel)
  obtain ⟨s', text, hs', htext, -⟩ := h ⟨d, {}, []⟩ rfl
  have hrun : ((Document.ofTree .js (Bytes.ofString "console.error(console.error(1)); //") nestedCalls).toOption.bind
      fun d => (redirect ⟨"console", "error", "logError"⟩ ⟨d, {}, []⟩).toOption.map fun r =>
        (r.1, r.2.document.render.toOption)) = some (2, some "logError(logError(1)); //") := by
    decide +kernel
  rw [hd] at hrun
  simp only [Except.toOption, Option.bind_some, hs', htext, Option.map_some, Option.some.injEq, Prod.mk.injEq] at hrun
  obtain ⟨hcount, rfl⟩ := hrun
  exact ⟨⟨d, {}, []⟩, s', hd, hcount ▸ hs', htext⟩

end Session
end CallRedirect
