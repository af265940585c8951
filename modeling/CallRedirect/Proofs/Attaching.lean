import CallRedirect.Proofs.Places
import CallRedirect.Session.Edit

/-! # Which comments go where

Reading a file hands every comment to the file, to the statement after it or to the one before it, and decides between them
by the gaps between the items. The loop over the items remembers the group it fills, the comments that wait for the next
statement, and where the last item stopped. What it comes to is said here of the gaps alone.

* `Document.GapWithin`: a gap of some sort between two items.
* `Document.isChain_groups`: what separates a group from the next one.
* `Document.lt_downToBlankLine_iff`: how far down the header reaches.
* `Document.attachment`: where every comment of a file is. -/

namespace CallRedirect
set_option autoImplicit false

/-- The placement that a comment of the bucket is read with. -/
def Bucket.placement : Bucket → Placement
  | file => .file
  | leading _ => .leading
  | trailing _ => .trailing

namespace Document

/-- From the item numbered `lo` to the one numbered `hi`, some gap between neighbours is of a sort. -/
def GapWithin (src : Bytes) (root : Node) (lo hi : Nat) (sort : Bytes → Prop) : Prop :=
  ∃ a ∈ items root, ∃ b ∈ items root, a.Next b ∧ lo ≤ a.ordinal ∧ b.ordinal ≤ hi ∧ sort (a.gap src b)

instance (a b : Item) : Decidable (a.Next b) := inferInstanceAs (Decidable (_ = _))

instance (src : Bytes) (root : Node) (lo hi : Nat) (sort : Bytes → Prop) [DecidablePred sort] :
    Decidable (GapWithin src root lo hi sort) :=
  inferInstanceAs (Decidable (∃ a ∈ items root, ∃ b ∈ items root, _))

/-- The gap ends a line. -/
def EndsLine (gap : Bytes) : Prop := gap.hasLineFeed = true

/-- The gap holds a blank line. -/
def HoldsBlankLine (gap : Bytes) : Prop := 2 ≤ gap.lineFeeds

instance : DecidablePred EndsLine := fun gap => inferInstanceAs (Decidable (gap.hasLineFeed = true))

instance : DecidablePred HoldsBlankLine := fun gap => inferInstanceAs (Decidable (2 ≤ gap.lineFeeds))

/-- The items that are no comments. -/
def statementItems (root : Node) : List Item := (items root).filter fun i => !i.isComment

/-- The item is in the bucket. -/
def Attached (d : Document) (i : Item) (b : Bucket) : Prop := ∃ c ∈ d.bucket b, c.slot = some i.slot

/-! ## Items by their numbers -/

section Items
variable {root : Node} {src : Bytes}

theorem eq_of_ordinal {i j : Item} (hi : i ∈ items root) (hj : j ∈ items root) (h : i.ordinal = j.ordinal) : i = j := by
  rw [mem_items_iff] at hi hj
  rw [h] at hi
  obtain ⟨n, k⟩ := i
  obtain ⟨m, l⟩ := j
  simp_all

theorem eq_of_slot {i j : Item} (hi : i ∈ items root) (hj : j ∈ items root) (h : i.slot = j.slot) : i = j :=
  eq_of_ordinal hi hj (congrArg Slot.ordinal h)

theorem getElem?_items {i : Item} {k : Nat} : (items root)[k]? = some i ↔ i ∈ items root ∧ i.ordinal = k := by
  constructor
  · intro h
    refine ⟨List.mem_of_getElem? h, ?_⟩
    simp only [items, List.getElem?_map, List.getElem?_zipIdx, Option.map_map, Option.map_eq_some_iff] at h
    obtain ⟨n, -, rfl⟩ := h
    simp
  · rintro ⟨hi, rfl⟩
    simp [items, mem_items_iff.1 hi]

/-- In items that stand in order, neighbours stand next to each other. -/
theorem rel_of_isChain {R : Item → Item → Prop} {is : List Item} (hchain : is.IsChain R)
    (hsorted : is.Pairwise fun a b => a.ordinal < b.ordinal) {a b : Item} (ha : a ∈ is) (hb : b ∈ is)
    (hab : a.Next b) : R a b := by
  unfold Item.Next at hab
  induction is with
  | nil => cases ha
  | cons i is ih =>
    obtain ⟨hi, hsorted'⟩ := List.pairwise_cons.1 hsorted
    by_cases hbi : b = i
    · subst hbi
      rcases List.mem_cons.1 ha with rfl | ha
      · omega
      · have := hi a ha
        omega
    · have hb' : b ∈ is := (List.mem_cons.1 hb).resolve_left hbi
      rcases List.mem_cons.1 ha with rfl | ha
      · -- nothing has its number between the two, so `b` is the first of the rest
        cases is with
        | nil => cases hb'
        | cons j js =>
          have hj := hi j List.mem_cons_self
          rcases List.mem_cons.1 hb' with rfl | hbj
          · exact (List.isChain_cons_cons.1 hchain).1
          · have := (List.pairwise_cons.1 hsorted').1 b hbj
            omega
      · exact ih hchain.tail hsorted' ha hb'

section Order
variable {above below : List Item} {s i : Item}
  (hsorted : (above ++ s :: below).Pairwise fun a b => a.ordinal < b.ordinal) (hi : i ∈ above ++ s :: below)
include hsorted hi

theorem mem_above (hlt : i.ordinal < s.ordinal) : i ∈ above := by
  obtain ⟨-, hbelow, -⟩ := List.pairwise_append.1 hsorted
  rcases List.mem_append.1 hi with hi | hi
  · exact hi
  · rcases List.mem_cons.1 hi with rfl | hi
    · omega
    · have := (List.pairwise_cons.1 hbelow).1 i hi
      omega

theorem mem_below (hlt : s.ordinal < i.ordinal) : i ∈ below := by
  obtain ⟨-, -, hcross⟩ := List.pairwise_append.1 hsorted
  rcases List.mem_append.1 hi with hi | hi
  · have := hcross i hi s List.mem_cons_self
    omega
  · rcases List.mem_cons.1 hi with rfl | hi
    · omega
    · exact hi

end Order

/-- A block of items holds all items between two of it. -/
theorem mem_block {above block below : List Item}
    (hsorted : (above ++ (block ++ below)).Pairwise fun a b => a.ordinal < b.ordinal) {x y i : Item} (hx : x ∈ block)
    (hy : y ∈ block) (hi : i ∈ above ++ (block ++ below)) (hxi : x.ordinal ≤ i.ordinal) (hiy : i.ordinal ≤ y.ordinal) :
    i ∈ block := by
  obtain ⟨-, htail, habove⟩ := List.pairwise_append.1 hsorted
  obtain ⟨-, -, hbelow⟩ := List.pairwise_append.1 htail
  rcases List.mem_append.1 hi with hi | hi
  · have := habove i hi x (List.mem_append_left below hx)
    omega
  · rcases List.mem_append.1 hi with hi | hi
    · exact hi
    · have := hbelow y hy i hi
      omega

end Items

/-! ## The header -/

theorem lt_downToBlankLine_iff {src : Bytes} {is : List Item} {k : Nat} :
    k < downToBlankLine src is ↔
      ∃ m a b, k ≤ m ∧ is[m]? = some a ∧ is[m + 1]? = some b ∧ HoldsBlankLine (a.gap src b) := by
  induction is generalizing k with
  | nil => simp [downToBlankLine]
  | cons a is ih =>
    cases is with
    | nil => simp [downToBlankLine]
    | cons b rest =>
      have hsplit : (∃ m a' b', k ≤ m ∧ (a :: b :: rest)[m]? = some a' ∧ (a :: b :: rest)[m + 1]? = some b' ∧
            HoldsBlankLine (a'.gap src b')) ↔
          (k = 0 ∧ HoldsBlankLine (a.gap src b)) ∨ k - 1 < downToBlankLine src (b :: rest) := by
        rw [ih]
        constructor
        · rintro ⟨m, a', b', hk, ha, hb, hgap⟩
          cases m with
          | zero =>
            obtain rfl : a = a' := by simpa using ha
            obtain rfl : b = b' := by simpa using hb
            exact .inl ⟨by omega, hgap⟩
          | succ m => exact .inr ⟨m, a', b', by omega, ha, hb, hgap⟩
        · rintro (⟨rfl, hgap⟩ | ⟨m, a', b', hk, ha, hb, hgap⟩)
          · exact ⟨0, a, b, Nat.le_refl 0, rfl, rfl, hgap⟩
          · exact ⟨m + 1, a', b', by omega, ha, hb, hgap⟩
      rw [hsplit, downToBlankLine]
      cases hbelow : downToBlankLine src (b :: rest) with
      | zero =>
        dsimp only
        unfold HoldsBlankLine
        by_cases hgap : 2 ≤ (a.gap src b).lineFeeds <;> simp [hgap]
      | succ n =>
        dsimp only
        omega

/-! ## The groups -/

/-- The comments behind a statement follow it on its line, and the first one that leads the next statement does not. -/
structure Group.Parted (src : Bytes) (g g' : Group) : Prop where
  trailing : (g.item :: g.trailing).IsChain fun a b => ¬ EndsLine (a.gap src b)
  leading : ∀ a ∈ (g.item :: g.trailing).getLast?, ∀ b ∈ g'.leading.head?, EndsLine (a.gap src b)

theorem head?_groups {src : Bytes} {current : Group} {waiting : List Item} {position : Nat} {rest : List Item} :
    ∃ trailing gs, groups src current waiting position rest = { current with trailing := trailing } :: gs := by
  induction rest generalizing current waiting position with
  | nil => exact ⟨_, [], rfl⟩
  | cons i rest ih =>
    rw [groups]
    split
    · exact ⟨current.trailing, _, rfl⟩
    · split
      · obtain ⟨trailing, gs, h⟩ := @ih { current with trailing := current.trailing ++ [i] } [] i.node.stop
        exact ⟨trailing, gs, h⟩
      · exact ih

/-- The loop keeps the group it fills on one line, and starts to wait where a line ends. -/
theorem isChain_groups {src : Bytes} {current : Group} {waiting : List Item} {position : Nat} {rest : List Item}
    (htrailing : (current.item :: current.trailing).IsChain fun a b => ¬ EndsLine (a.gap src b))
    (hwaiting : ∀ a ∈ (current.item :: current.trailing).getLast?, ∀ b ∈ waiting.head?, EndsLine (a.gap src b))
    (hposition : waiting = [] → ∀ a ∈ (current.item :: current.trailing).getLast?, a.node.stop = position) :
    (groups src current waiting position rest).IsChain (Group.Parted src) := by
  induction rest generalizing current waiting position with
  | nil => exact .singleton _
  | cons i rest ih =>
    rw [groups]
    split
    · obtain ⟨trailing, gs, hgroups⟩ :=
        @head?_groups src { leading := waiting, item := i } [] i.node.stop rest
      have hrest : (groups src { leading := waiting, item := i } [] i.node.stop rest).IsChain (Group.Parted src) :=
        ih (.singleton i) (by simp) (by simp)
      rw [hgroups] at hrest ⊢
      exact .cons_cons ⟨htrailing, hwaiting⟩ hrest
    · split
      · next hsame =>
        obtain ⟨hnil, hline⟩ : waiting = [] ∧ (src.slice position i.node.start).hasLineFeed = false := by
          simpa using hsame
        have hlast : ∀ a ∈ (current.item :: current.trailing).getLast?, ∀ b ∈ [i].head?, ¬ EndsLine (a.gap src b) := by
          intro a ha b hb
          obtain rfl : i = b := by simpa using hb
          rw [Item.gap, hposition hnil a ha, EndsLine, hline]
          simp
        refine ih ?_ (by simp) (by simp [List.getLast?_cons])
        show ((current.item :: current.trailing) ++ [i]).IsChain _
        exact htrailing.append (.singleton i) hlast
      · next hother =>
        refine ih htrailing ?_ (by simp)
        intro a ha b hb
        by_cases hnil : waiting = []
        · obtain rfl : i = b := by simpa [hnil] using hb
          rw [Item.gap, hposition hnil a ha, EndsLine]
          simpa [hnil] using hother
        · refine hwaiting a ha b ?_
          rwa [List.head?_append_of_ne_nil _ hnil] at hb

theorem isChain_outline (src : Bytes) (root : Node) : (outline src root).groups.IsChain (Group.Parted src) := by
  simp only [outline]
  split
  · exact .nil
  · exact isChain_groups (.singleton _) (by simp) (by simp)

theorem map_item_outline (src : Bytes) (root : Node) :
    (outline src root).groups.map Group.item = statementItems root := by
  have hgroup (g : Group) (hg : g ∈ (outline src root).groups) : (g.items.filter fun i => !i.isComment) = [g.item] := by
    have hsorted := sorted_outline src root g hg
    have hleading : (g.leading.filter fun i => !i.isComment) = [] := by simpa using hsorted.leading
    have htrailing : (g.trailing.filter fun i => !i.isComment) = [] := by simpa using hsorted.trailing
    simp [Group.items, hleading, htrailing, hsorted.item]
  have hheader : ((outline src root).header.filter fun i => !i.isComment) = [] := by
    simpa using fun i hi => isComment_of_mem_header hi
  rw [statementItems, ← items_outline src root, Outline.items, List.filter_append, hheader, List.nil_append,
    List.filter_flatMap, List.map_eq_flatMap]
  exact (List.flatMap_congr hgroup).symm

/-- What follows a statement: the comments that trail it, those that lead the next one, and that one. -/
theorem items_below {src : Bytes} {root : Node} {k : Nat} {g : Group} (hg : (outline src root).groups[k]? = some g) :
    ∃ above below, items root = above ++ g.item :: (g.trailing ++ below) ∧
      ((outline src root).groups[k + 1]? = none → below = []) ∧
      ∀ g', (outline src root).groups[k + 1]? = some g' → ∃ rest, below = g'.leading ++ g'.item :: rest := by
  obtain ⟨hk, rfl⟩ := List.getElem?_eq_some_iff.1 hg
  refine ⟨(outline src root).header ++ (((outline src root).groups.take k).flatMap Group.items ++
    (outline src root).groups[k].leading), ((outline src root).groups.drop (k + 1)).flatMap Group.items, ?_, ?_, ?_⟩
  · have hsplit : (outline src root).groups.flatMap Group.items = _ :=
      congrArg (List.flatMap Group.items) (List.take_append_drop k (outline src root).groups).symm
    rw [← items_outline src root, Outline.items, hsplit, ← List.getElem_cons_drop hk, List.flatMap_append,
      List.flatMap_cons]
    simp [Group.items]
  · intro hnone
    rw [List.drop_eq_nil_of_le (List.getElem?_eq_none_iff.1 hnone), List.flatMap_nil]
  · intro g' hg'
    obtain ⟨hk', rfl⟩ := List.getElem?_eq_some_iff.1 hg'
    rw [← List.getElem_cons_drop hk', List.flatMap_cons, Group.items]
    exact ⟨_, List.append_assoc _ _ _⟩

/-! ## Buckets -/

/-- The items of a bucket. -/
def Outline.bucket (o : Outline) : Bucket → List Item
  | .file => o.header
  | .leading k => (o.groups[k]?.map Group.leading).getD []
  | .trailing k => (o.groups[k]?.map Group.trailing).getD []

theorem bucket_ofItems (src : Bytes) (root : Node) (b : Bucket) :
    (ofItems src root).bucket b = ((outline src root).bucket b).map (Item.comment src b.placement) := by
  rw [ofItems_eq]
  cases b with
  | file => rfl
  | leading k =>
    rw [bucket, Outline.bucket, List.getElem?_map]
    cases (outline src root).groups[k]? <;> rfl
  | trailing k =>
    rw [bucket, Outline.bucket, List.getElem?_map]
    cases (outline src root).groups[k]? <;> rfl

section Buckets
variable {src : Bytes} {root : Node} {i : Item}

theorem mem_bucket_leading {k : Nat} :
    i ∈ (outline src root).bucket (.leading k) ↔ ∃ g, (outline src root).groups[k]? = some g ∧ i ∈ g.leading := by
  cases h : (outline src root).groups[k]? <;> simp [Outline.bucket, h]

theorem mem_bucket_trailing {k : Nat} :
    i ∈ (outline src root).bucket (.trailing k) ↔ ∃ g, (outline src root).groups[k]? = some g ∧ i ∈ g.trailing := by
  cases h : (outline src root).groups[k]? <;> simp [Outline.bucket, h]

theorem mem_of_mem_bucket {b : Bucket} (hi : i ∈ (outline src root).bucket b) :
    i ∈ items root ∧ i.isComment = true := by
  cases b with
  | file => exact ⟨mem_items_of_header hi, isComment_of_mem_header hi⟩
  | leading k =>
    obtain ⟨g, hg, hi⟩ := mem_bucket_leading.1 hi
    have hg := List.mem_of_getElem? hg
    exact ⟨mem_items_of_group hg (List.mem_append_left _ hi), (sorted_outline src root g hg).leading i hi⟩
  | trailing k =>
    obtain ⟨g, hg, hi⟩ := mem_bucket_trailing.1 hi
    have hg := List.mem_of_getElem? hg
    exact ⟨mem_items_of_group hg (List.mem_append_right _ (List.mem_cons_of_mem _ hi)),
      (sorted_outline src root g hg).trailing i hi⟩

theorem attached_iff {b : Bucket} (hi : i ∈ items root) :
    (ofItems src root).Attached i b ↔ i ∈ (outline src root).bucket b := by
  rw [Attached, bucket_ofItems]
  constructor
  · rintro ⟨c, hc, hslot⟩
    obtain ⟨j, hj, rfl⟩ := List.mem_map.1 hc
    obtain rfl := eq_of_slot (mem_of_mem_bucket hj).1 hi (Option.some.inj hslot)
    exact hj
  · intro hi
    exact ⟨_, List.mem_map_of_mem hi, rfl⟩

theorem exists_bucket (hi : i ∈ items root) (hcomment : i.isComment = true) :
    ∃ b, i ∈ (outline src root).bucket b := by
  rw [← items_outline src root, Outline.items, List.mem_append, List.mem_flatMap] at hi
  rcases hi with hi | ⟨g, hg, hi⟩
  · exact ⟨.file, hi⟩
  · obtain ⟨k, hk⟩ := List.mem_iff_getElem?.1 hg
    rcases List.mem_append.1 hi with hi | hi
    · exact ⟨.leading k, mem_bucket_leading.2 ⟨g, hk, hi⟩⟩
    · rcases List.mem_cons.1 hi with rfl | hi
      · rw [(sorted_outline src root g hg).item] at hcomment
        cases hcomment
      · exact ⟨.trailing k, mem_bucket_trailing.2 ⟨g, hk, hi⟩⟩

theorem nodup_items (root : Node) : (items root).Nodup :=
  (pairwise_ordinal_items root).imp fun hlt heq => by
    rw [heq] at hlt
    omega

/-- The group an item is in. -/
theorem group_unique {k l : Nat} {g h : Group} (hg : (outline src root).groups[k]? = some g)
    (hh : (outline src root).groups[l]? = some h) (hig : i ∈ g.items) (hih : i ∈ h.items) : k = l := by
  have hnodup := nodup_items root
  rw [← items_outline src root, Outline.items] at hnodup
  have hapart := (List.nodup_flatMap.1 hnodup.of_append_right).2
  obtain ⟨hk, rfl⟩ := List.getElem?_eq_some_iff.1 hg
  obtain ⟨hl, rfl⟩ := List.getElem?_eq_some_iff.1 hh
  rcases Nat.lt_trichotomy k l with hkl | rfl | hlk
  · exact absurd hih (List.pairwise_iff_getElem.1 hapart k l hk hl hkl hig)
  · rfl
  · exact absurd hig (List.pairwise_iff_getElem.1 hapart l k hl hk hlk hih)

theorem bucket_unique {b b' : Bucket} (hb : i ∈ (outline src root).bucket b) (hb' : i ∈ (outline src root).bucket b') :
    b = b' := by
  have hnodup := nodup_items root
  rw [← items_outline src root, Outline.items] at hnodup
  -- an item of the header is in no group, and one that leads a statement does not trail it
  have hheader {k : Nat} {g : Group} (hi : i ∈ (outline src root).header) (hk : (outline src root).groups[k]? = some g) :
      i ∉ g.items := fun hg =>
    (List.nodup_append.1 hnodup).2.2 i hi i (List.mem_flatMap_of_mem (List.mem_of_getElem? hk) hg) rfl
  have hside {k : Nat} {g : Group} (hk : (outline src root).groups[k]? = some g) (hl : i ∈ g.leading) : i ∉ g.trailing :=
    fun ht => (List.nodup_append.1 ((List.nodup_flatMap.1 hnodup.of_append_right).1 g (List.mem_of_getElem? hk))).2.2
      i hl i (List.mem_cons_of_mem _ ht) rfl
  have hleading {g : Group} (hl : i ∈ g.leading) : i ∈ g.items := List.mem_append_left _ hl
  have htrailing {g : Group} (ht : i ∈ g.trailing) : i ∈ g.items := List.mem_append_right _ (List.mem_cons_of_mem _ ht)
  cases b with
  | file =>
    cases b' with
    | file => rfl
    | leading k =>
      obtain ⟨g, hk, hi⟩ := mem_bucket_leading.1 hb'
      exact absurd (hleading hi) (hheader hb hk)
    | trailing k =>
      obtain ⟨g, hk, hi⟩ := mem_bucket_trailing.1 hb'
      exact absurd (htrailing hi) (hheader hb hk)
  | leading k =>
    obtain ⟨g, hk, hi⟩ := mem_bucket_leading.1 hb
    cases b' with
    | file => exact absurd (hleading hi) (hheader hb' hk)
    | leading l =>
      obtain ⟨g', hl, hi'⟩ := mem_bucket_leading.1 hb'
      rw [group_unique hk hl (hleading hi) (hleading hi')]
    | trailing l =>
      obtain ⟨g', hl, hi'⟩ := mem_bucket_trailing.1 hb'
      obtain rfl := group_unique hk hl (hleading hi) (htrailing hi')
      obtain rfl := Option.some.inj (hk.symm.trans hl)
      exact absurd hi' (hside hk hi)
  | trailing k =>
    obtain ⟨g, hk, hi⟩ := mem_bucket_trailing.1 hb
    cases b' with
    | file => exact absurd (htrailing hi) (hheader hb' hk)
    | leading l =>
      obtain ⟨g', hl, hi'⟩ := mem_bucket_leading.1 hb'
      obtain rfl := group_unique hk hl (htrailing hi) (hleading hi')
      obtain rfl := Option.some.inj (hk.symm.trans hl)
      exact absurd hi (hside hk hi')
    | trailing l =>
      obtain ⟨g', hl, hi'⟩ := mem_bucket_trailing.1 hb'
      rw [group_unique hk hl (htrailing hi) (htrailing hi')]

/-! ## The rules -/

/-- Without statements every item is in the header. -/
theorem mem_header_of_alone (hnone : statementItems root = []) (hi : i ∈ items root) :
    i ∈ (outline src root).bucket .file := by
  have hgroups : (outline src root).groups = [] := by
    rw [← map_item_outline src root] at hnone
    exact List.map_eq_nil_iff.1 hnone
  rw [← items_outline src root, Outline.items, hgroups, List.flatMap_nil, List.append_nil] at hi
  exact hi

/-- The first items of a file, by their numbers. -/
theorem getElem?_of_append {above below : List Item} (hitems : items root = above ++ below) {k : Nat} :
    above[k]? = some i ↔ i ∈ items root ∧ i.ordinal = k ∧ k < above.length := by
  rw [← and_assoc, ← getElem?_items, hitems, List.getElem?_append]
  constructor
  · intro h
    have hk := (List.getElem?_eq_some_iff.1 h).1
    rw [if_pos hk]
    exact ⟨h, hk⟩
  · rintro ⟨h, hk⟩
    rwa [if_pos hk] at h

/-- The comments above the first statement, that statement, and what follows. -/
theorem items_of_first {s : Item} (hs : (statementItems root)[0]? = some s) :
    ∃ above rest, items root = above ++ s :: rest ∧ s.ordinal = above.length ∧
      (outline src root).bucket .file = above.take (headerLength src above s) := by
  have hsplit := List.takeWhile_append_dropWhile (p := Item.isComment) (l := items root)
  have habove : ((items root).takeWhile Item.isComment).filter (fun i => !i.isComment) = [] := by
    simpa using fun i hi => List.mem_takeWhile_imp hi
  cases hbelow : (items root).dropWhile Item.isComment with
  | nil =>
    rw [hbelow, List.append_nil] at hsplit
    rw [statementItems, ← hsplit, habove] at hs
    cases hs
  | cons first rest =>
    have hfirst : first.isComment = false := by
      have hhead := List.head?_dropWhile_not Item.isComment (items root)
      simpa [hbelow] using hhead
    rw [hbelow] at hsplit
    obtain rfl : first = s := by
      rw [statementItems, ← hsplit, List.filter_append, habove, List.nil_append,
        List.filter_cons_of_pos (by simpa using hfirst)] at hs
      exact Option.some.inj hs
    refine ⟨_, rest, hsplit.symm, ?_, by simp [Outline.bucket, outline, hbelow]⟩
    have hget : (items root)[((items root).takeWhile Item.isComment).length]? = some first := by
      nth_rewrite 1 [← hsplit]
      simp
    exact (getElem?_items.1 hget).2

theorem lt_headerLength_iff {above rest : List Item} {s : Item} (hitems : items root = above ++ s :: rest)
    (hs : s.ordinal = above.length) :
    i.ordinal < headerLength src above s ↔
      (i.ordinal = 0 ∧ above.head?.any Item.isHashBang = true) ∨
        GapWithin src root i.ordinal s.ordinal HoldsBlankLine := by
  have hprefix : items root = (above ++ [s]) ++ rest := by simp [hitems]
  have hgap : i.ordinal < downToBlankLine src (above ++ [s]) ↔
      GapWithin src root i.ordinal s.ordinal HoldsBlankLine := by
    simp only [lt_downToBlankLine_iff, getElem?_of_append hprefix, List.length_append, List.length_singleton]
    constructor
    · rintro ⟨m, a, b, hm, ⟨ha, rfl, -⟩, ⟨hb, hnext, hlt⟩, hblank⟩
      exact ⟨a, ha, b, hb, hnext, hm, by omega, hblank⟩
    · rintro ⟨a, ha, b, hb, hnext, hle, hlt, hblank⟩
      unfold Item.Next at hnext
      exact ⟨a.ordinal, a, b, hle, ⟨ha, rfl, by omega⟩, ⟨hb, hnext, by omega⟩, hblank⟩
  rw [headerLength, ← hgap]
  by_cases hbang : above.head?.any Item.isHashBang = true
  · rw [if_pos hbang]
    simp only [hbang, and_true]
    omega
  · rw [if_neg hbang, Nat.zero_max]
    exact (or_iff_right fun h => hbang h.2).symm

/-- Above the first statement, the header goes down to the last blank line, or to a hash-bang line. -/
theorem mem_header_iff {s : Item} (hs : (statementItems root)[0]? = some s) (hi : i ∈ items root)
    (hlt : i.ordinal < s.ordinal) :
    i ∈ (outline src root).bucket .file ↔
      (i.ordinal = 0 ∧ i.isHashBang = true) ∨ GapWithin src root i.ordinal s.ordinal HoldsBlankLine := by
  obtain ⟨above, rest, hitems, hlength, hheader⟩ := @items_of_first src root s hs
  have habove : above[i.ordinal]? = some i := (getElem?_of_append hitems).2 ⟨hi, rfl, by omega⟩
  have hhead : i.ordinal = 0 → above.head? = some i := by
    intro hzero
    rw [List.head?_eq_getElem?, ← hzero, habove]
  have hmem : i ∈ above.take (headerLength src above s) ↔ i.ordinal < headerLength src above s := by
    rw [List.mem_iff_getElem?]
    constructor
    · rintro ⟨k, hk⟩
      rw [List.getElem?_take] at hk
      split at hk
      · next hlt =>
        rwa [((getElem?_of_append hitems).1 hk).2.1]
      · cases hk
    · intro hlt
      exact ⟨i.ordinal, by rw [List.getElem?_take, if_pos hlt, habove]⟩
  rw [hheader, hmem, lt_headerLength_iff hitems hlength]
  constructor
  · rintro (⟨hzero, hbang⟩ | hgap)
    · rw [hhead hzero] at hbang
      exact .inl ⟨hzero, hbang⟩
    · exact .inr hgap
  · rintro (⟨hzero, hbang⟩ | hgap)
    · rw [hhead hzero]
      exact .inl ⟨hzero, hbang⟩
    · exact .inr hgap

/-- The group of a statement. -/
theorem group_of_statement {k : Nat} {s : Item} (hs : (statementItems root)[k]? = some s) :
    ∃ g, (outline src root).groups[k]? = some g ∧ g.item = s := by
  rw [← map_item_outline src root, List.getElem?_map, Option.map_eq_some_iff] at hs
  exact hs

/-- What stands above the first statement and not in the header leads it. -/
theorem mem_leading_zero {s : Item} (hs : (statementItems root)[0]? = some s) (hi : i ∈ items root)
    (hlt : i.ordinal < s.ordinal) (hheader : i ∉ (outline src root).bucket .file) :
    i ∈ (outline src root).bucket (.leading 0) := by
  obtain ⟨g, hg, rfl⟩ := @group_of_statement src root 0 s hs
  obtain ⟨gs, hgs⟩ : ∃ gs, (outline src root).groups = g :: gs := by
    cases hgroups : (outline src root).groups with
    | nil => simp [hgroups] at hg
    | cons g' gs =>
      obtain rfl : g' = g := by simpa [hgroups] using hg
      exact ⟨gs, rfl⟩
  have hitems : items root = ((outline src root).header ++ g.leading) ++ g.item ::
      (g.trailing ++ gs.flatMap Group.items) := by
    rw [← items_outline src root, Outline.items, hgs, List.flatMap_cons, Group.items]
    simp
  have hsorted := pairwise_ordinal_items root
  rw [hitems] at hsorted hi
  refine mem_bucket_leading.2 ⟨g, hg, ?_⟩
  exact (List.mem_append.1 (mem_above hsorted hi hlt)).resolve_left hheader

section Between
variable {g g' : Group} {above rest : List Item}
  (hitems : items root = above ++ ((g.item :: g.trailing) ++ (g'.leading ++ g'.item :: rest)))
  (hparted : g.Parted src g')
include hitems hparted

theorem not_gapWithin_of_trailing (hi : i ∈ g.trailing) : ¬ GapWithin src root g.item.ordinal i.ordinal EndsLine := by
  rintro ⟨a, ha, b, hb, hab, hsa, hbi, hgap⟩
  have hsorted := pairwise_ordinal_items root
  rw [hitems] at hsorted ha hb
  have hi' : i ∈ g.item :: g.trailing := List.mem_cons_of_mem _ hi
  have hnext : b.ordinal = a.ordinal + 1 := hab
  -- both sides of the gap stand on the line of the statement
  have ha' := mem_block hsorted List.mem_cons_self hi' ha hsa (by omega)
  have hb' := mem_block hsorted List.mem_cons_self hi' hb (by omega) hbi
  exact rel_of_isChain hparted.trailing (List.pairwise_append.1 (List.pairwise_append.1 hsorted).2.1).1 ha' hb' hab hgap

theorem gapWithin_of_leading (hi : i ∈ g'.leading) : GapWithin src root g.item.ordinal i.ordinal EndsLine := by
  obtain ⟨b, bs, hleading⟩ := List.exists_cons_of_ne_nil (List.ne_nil_of_mem hi)
  have hlast := List.getLast?_eq_some_getLast (List.cons_ne_nil g.item g.trailing)
  generalize (g.item :: g.trailing).getLast _ = a at hlast
  have ha := List.mem_of_getLast? hlast
  have hsorted := pairwise_ordinal_items root
  have hchain := isChain_next_items root
  rw [hitems] at hsorted hchain
  obtain ⟨-, htail, -⟩ := List.pairwise_append.1 hsorted
  obtain ⟨hline, hbelow, -⟩ := List.pairwise_append.1 htail
  have hnext : a.Next b := by
    refine (List.isChain_append.1 (List.isChain_append.1 hchain).2.1).2.2 a hlast b ?_
    simp [hleading]
  refine ⟨a, ?_, b, ?_, hnext, ?_, ?_, hparted.leading a hlast b (by simp [hleading])⟩
  · rw [hitems]
    exact List.mem_append_right _ (List.mem_append_left _ ha)
  · rw [hitems]
    simp [hleading]
  · rcases List.mem_cons.1 ha with rfl | ha
    · exact Nat.le_refl _
    · exact Nat.le_of_lt ((List.pairwise_cons.1 hline).1 a ha)
  · rw [hleading] at hi hbelow
    rcases List.mem_cons.1 hi with rfl | hi
    · exact Nat.le_refl _
    · exact Nat.le_of_lt ((List.pairwise_cons.1 (List.pairwise_append.1 hbelow).1).1 i hi)

end Between

/-- A comment between two statements is on the line of the first, or leads the second. -/
theorem mem_trailing_iff {k : Nat} {s t : Item} (hs : (statementItems root)[k]? = some s)
    (ht : (statementItems root)[k + 1]? = some t) (hi : i ∈ items root) (hsi : s.ordinal < i.ordinal)
    (hit : i.ordinal < t.ordinal) :
    (i ∈ (outline src root).bucket (.trailing k) ↔ ¬ GapWithin src root s.ordinal i.ordinal EndsLine) ∧
      (i ∈ (outline src root).bucket (.leading (k + 1)) ↔ GapWithin src root s.ordinal i.ordinal EndsLine) := by
  obtain ⟨g, hg, rfl⟩ := @group_of_statement src root k s hs
  obtain ⟨g', hg', rfl⟩ := @group_of_statement src root (k + 1) t ht
  obtain ⟨above, below, hitems, -, hbelow⟩ := items_below hg
  obtain ⟨rest, rfl⟩ := hbelow g' hg'
  have hparted : g.Parted src g' := by
    obtain ⟨hk, hkg⟩ := List.getElem?_eq_some_iff.1 hg
    obtain ⟨hk', hkg'⟩ := List.getElem?_eq_some_iff.1 hg'
    have hrel := List.isChain_iff_getElem.1 (isChain_outline src root) k hk'
    rwa [hkg, hkg'] at hrel
  have hmem : i ∈ g.trailing ∨ i ∈ g'.leading := by
    have hsorted := pairwise_ordinal_items root
    rw [hitems] at hsorted hi
    have hi' := mem_below hsorted hi hsi
    rw [← List.append_assoc] at hi'
    refine List.mem_append.1 (mem_above ?_ hi' hit)
    rw [List.append_assoc]
    exact (List.pairwise_cons.1 (List.pairwise_append.1 hsorted).2.1).2
  have hleading : i ∈ (outline src root).bucket (.leading (k + 1)) ↔ i ∈ g'.leading := by
    simp [mem_bucket_leading, hg']
  have htrailing : i ∈ (outline src root).bucket (.trailing k) ↔ i ∈ g.trailing := by
    simp [mem_bucket_trailing, hg]
  rw [hleading, htrailing]
  rcases hmem with hmem | hmem
  · have hno := not_gapWithin_of_trailing hitems hparted hmem
    refine ⟨iff_of_true hmem hno, iff_of_false (fun hmem' => ?_) hno⟩
    exact hno (gapWithin_of_leading hitems hparted hmem')
  · have hyes := gapWithin_of_leading hitems hparted hmem
    refine ⟨iff_of_false (fun hmem' => ?_) (not_not_intro hyes), iff_of_true hmem hyes⟩
    exact not_gapWithin_of_trailing hitems hparted hmem' hyes

/-- A comment behind the last statement trails it. -/
theorem mem_trailing_last {k : Nat} {s : Item} (hs : (statementItems root)[k]? = some s)
    (hlast : (statementItems root)[k + 1]? = none) (hi : i ∈ items root) (hsi : s.ordinal < i.ordinal) :
    i ∈ (outline src root).bucket (.trailing k) := by
  obtain ⟨g, hg, rfl⟩ := @group_of_statement src root k s hs
  have hnone : (outline src root).groups[k + 1]? = none := by
    rw [← map_item_outline src root, List.getElem?_map, Option.map_eq_none_iff] at hlast
    exact hlast
  obtain ⟨above, below, hitems, hbelow, -⟩ := items_below hg
  have hsorted := pairwise_ordinal_items root
  rw [hitems, hbelow hnone, List.append_nil] at hsorted hi
  exact mem_bucket_trailing.2 ⟨g, hg, mem_below hsorted hi hsi⟩

end Buckets

/-! ## The document of a tree -/

/-- Every item of the tree stands in the document once and in order, and every comment where the gaps around it say. -/
structure Attaches (src : Bytes) (root : Node) (d : Document) : Prop where
  order : d.places.map Place.slot = root.children.mapIdx fun k n => some ⟨k, n.start, n.stop⟩
  statements : d.statements.map Statement.slot = (statementItems root).map fun s => some s.slot
  comments : ∀ b, ∀ c ∈ d.bucket b, ∃ i ∈ items root, i.isComment = true ∧ c = i.comment src b.placement
  once : ∀ i ∈ items root, i.isComment = true → ∃! b, d.Attached i b
  /-- Without statements all comments belong to the file. -/
  alone : statementItems root = [] → ∀ i ∈ items root, d.Attached i .file
  /-- Above the first statement, a hash-bang line does, and what has a blank line below it. -/
  above : ∀ s, (statementItems root)[0]? = some s → ∀ i ∈ items root, i.ordinal < s.ordinal →
    (d.Attached i .file ↔
      (i.ordinal = 0 ∧ i.isHashBang = true) ∨ GapWithin src root i.ordinal s.ordinal HoldsBlankLine) ∧
    (d.Attached i (.leading 0) ↔
      ¬ ((i.ordinal = 0 ∧ i.isHashBang = true) ∨ GapWithin src root i.ordinal s.ordinal HoldsBlankLine))
  /-- Between two statements, what is on the line of the first trails it. -/
  between : ∀ k s t, (statementItems root)[k]? = some s → (statementItems root)[k + 1]? = some t →
    ∀ i ∈ items root, s.ordinal < i.ordinal → i.ordinal < t.ordinal →
      (d.Attached i (.trailing k) ↔ ¬ GapWithin src root s.ordinal i.ordinal EndsLine) ∧
      (d.Attached i (.leading (k + 1)) ↔ GapWithin src root s.ordinal i.ordinal EndsLine)
  /-- What stands below the last statement trails it. -/
  below : ∀ k s, (statementItems root)[k]? = some s → (statementItems root)[k + 1]? = none →
    ∀ i ∈ items root, s.ordinal < i.ordinal → d.Attached i (.trailing k)

theorem existsUnique_bucket {src : Bytes} {root : Node} {i : Item} (hi : i ∈ items root) (hcomment : i.isComment = true) :
    ∃! b, (ofItems src root).Attached i b := by
  obtain ⟨b, hb⟩ := @exists_bucket src root i hi hcomment
  exact ⟨b, (attached_iff hi).2 hb, fun b' hb' => bucket_unique ((attached_iff hi).1 hb') hb⟩

theorem attached_leading_zero_iff {src : Bytes} {root : Node} {s i : Item} (hs : (statementItems root)[0]? = some s)
    (hi : i ∈ items root) (hlt : i.ordinal < s.ordinal) :
    (ofItems src root).Attached i (.leading 0) ↔ ¬ (ofItems src root).Attached i .file := by
  rw [attached_iff hi, attached_iff hi]
  constructor
  · intro hleading hfile
    cases bucket_unique hleading hfile
  · exact mem_leading_zero hs hi hlt

/-- Reading a file that fits the grammar puts every comment of it in its place. -/
theorem attachment (dialect : Dialect) (src : Bytes) (root : Node) (hfault : root.firstFaulty? = none) :
    ∃ d, ofTree dialect src root = .ok d ∧ d.Attaches src root := by
  refine ⟨_, ofTree_eq_ok hfault, ?_⟩
  constructor
  case order =>
    rw [places_ofItems, items, List.mapIdx_eq_zipIdx_map, List.map_map, List.map_map]
    rfl
  case statements =>
    rw [statements_ofItems, ← map_item_outline src root, List.map_map, List.map_map]
    rfl
  case comments =>
    intro b c hc
    rw [bucket_ofItems] at hc
    obtain ⟨i, hi, rfl⟩ := List.mem_map.1 hc
    obtain ⟨hi', hcomment⟩ := mem_of_mem_bucket hi
    exact ⟨i, hi', hcomment, rfl⟩
  case once => exact fun i hi hcomment => existsUnique_bucket hi hcomment
  case alone => exact fun hnone i hi => (attached_iff hi).2 (mem_header_of_alone hnone hi)
  case above =>
    intro s hs i hi hlt
    rw [attached_leading_zero_iff hs hi hlt, attached_iff hi, mem_header_iff hs hi hlt]
    exact ⟨Iff.rfl, Iff.rfl⟩
  case between =>
    intro k s t hs ht i hi hsi hit
    rw [attached_iff hi, attached_iff hi]
    exact mem_trailing_iff hs ht hi hsi hit
  case below => exact fun k s hs hlast i hi hsi => (attached_iff hi).2 (mem_trailing_last hs hlast hi hsi)

/-- The tree of a script with a hash-bang line, an attached and a detached comment, and comments around two calls. -/
def annotated : Node :=
  ⟨"program", true, false, 0, 49, none,
    [⟨"hash_bang_line", true, false, 0, 4, none, []⟩, ⟨"comment", true, false, 5, 9, none, []⟩,
      ⟨"comment", true, false, 11, 15, none, []⟩, ⟨"expression_statement", true, false, 16, 20, none, []⟩,
      ⟨"comment", true, false, 21, 28, none, []⟩, ⟨"comment", true, false, 29, 33, none, []⟩,
      ⟨"comment", true, false, 34, 38, none, []⟩, ⟨"expression_statement", true, false, 39, 43, none, []⟩,
      ⟨"comment", true, false, 44, 48, none, []⟩]⟩

theorem attachment_annotated :
    annotated.firstFaulty? = none ∧
    ∃ d, ofTree .js (Bytes.ofString "#!/x\n// a\n\n// b\nf(); /* c */ // d\n// e\ng();\n// z\n") annotated = .ok d ∧
      d.Attaches (Bytes.ofString "#!/x\n// a\n\n// b\nf(); /* c */ // d\n// e\ng();\n// z\n") annotated :=
  ⟨by decide +kernel, attachment .js _ annotated (by decide +kernel)⟩

example :
    [Bucket.file, .leading 0, .trailing 0, .leading 1, .trailing 1].map (fun b => ((ofItems (Bytes.ofString
      "#!/x\n// a\n\n// b\nf(); /* c */ // d\n// e\ng();\n// z\n") annotated).bucket b).map Comment.text) =
    [["#!/x", "// a"], ["// b"], ["/* c */", "// d"], ["// e"], ["// z"]] := by decide +kernel

end Document
end CallRedirect
