import CallRedirect.Proofs.Tracing
import Mathlib.Data.List.Infix
import Mathlib.Logic.Relation

/-! # The forest of phases

A trace takes calls in any order: phases may be left open, and there may be more ends than phases. Whatever the calls
are, the entries that they record are well bracketed, and every entry stands under the innermost phase that is open when
it is recorded. Which phases are open is a matter of the events alone, and not of the parents: a phase goes on while the
ends after its start have starts of their own to match.

* `Trace.StillOpen`, `Trace.Innermost`: the phases that some entries leave open.
* `Trace.Stacked`: a stack of numbers that keeps account of them; `stacked_of_replay` finds one for every trace.
* `Trace.IsForest`: the entries of a trace hang together by their parents.
* `Trace.Adds`: what one more call records.
* `Trace.ofActs_isForest`: both hold of every list of calls. -/

namespace CallRedirect
set_option autoImplicit false

/-- The event opens a phase. -/
def Event.isStart : Event → Bool
  | phaseStart .. => true
  | _ => false

/-- The event closes a phase. -/
def Event.isEnd : Event → Bool
  | phaseEnd => true
  | _ => false

theorem Event.isEnd_eq_false {e : Event} (h : e ≠ phaseEnd) : e.isEnd = false := by
  cases e with
  | phaseEnd => exact absurd rfl h
  | _ => rfl

namespace Trace

/-! ## Calls -/

/-- A call to a trace. -/
inductive Act where
  | start (name detail : String)
  | finish
  | mutation (target before after : String) (line : Option Int)
  | inspection (text outcome detail : String)
  | importAction (action origin name : String)
  deriving DecidableEq, Repr

/-- The event that a call is about. -/
def Act.event : Act → Event
  | start name detail => .phaseStart name detail
  | finish => .phaseEnd
  | mutation target before after line => .mutation target before after line
  | inspection text outcome detail => .inspection text outcome detail
  | importAction action origin name => .importAction action origin name

def perform (t : Trace) (a : Act) : Trace :=
  match a with
  | .start name detail => t.start name detail
  | .finish => t.finish
  | .mutation .. => t.note a.event
  | .inspection .. => t.note a.event
  | .importAction .. => t.note a.event

/-- The trace of some calls, from the first one on. -/
def ofActs (acts : List Act) : Trace := acts.foldl perform {}

theorem ofActs_concat (acts : List Act) (a : Act) : ofActs (acts ++ [a]) = (ofActs acts).perform a := by
  rw [ofActs, List.foldl_append]
  rfl

/-! ## Open phases -/

def starts (es : List Entry) : Nat := es.countP fun e => e.event.isStart

def ends (es : List Entry) : Nat := es.countP fun e => e.event.isEnd

/-- The entry with the number opens a phase that the entries after it do not close: as far as one reads on, the ends among
them are no more than the starts. -/
def StillOpen (es : List Entry) (p : Nat) : Prop :=
  (es[p]?.any fun e => e.event.isStart) = true ∧ ∀ part ∈ (es.drop (p + 1)).inits, ends part ≤ starts part

instance (es : List Entry) (p : Nat) : Decidable (StillOpen es p) := inferInstanceAs (Decidable (_ ∧ _))

/-- The phase is the last one to be started of those that the entries leave open; it is `none` where none is open. -/
def Innermost (es : List Entry) : Option Nat → Prop
  | none => ∀ p, ¬ StillOpen es p
  | some p => StillOpen es p ∧ ∀ p', StillOpen es p' → p' ≤ p

theorem starts_concat (es : List Entry) (e : Entry) :
    starts (es ++ [e]) = starts es + (if e.event.isStart then 1 else 0) := by
  rw [starts, List.countP_append, List.countP_singleton, starts]

theorem ends_concat (es : List Entry) (e : Entry) : ends (es ++ [e]) = ends es + (if e.event.isEnd then 1 else 0) := by
  rw [ends, List.countP_append, List.countP_singleton, ends]

theorem StillOpen.lt {es : List Entry} {p : Nat} (h : StillOpen es p) : p < es.length := by
  by_contra hp
  rw [StillOpen, List.getElem?_eq_none (Nat.not_lt.1 hp)] at h
  cases h.1

theorem StillOpen.lt_of_take {es : List Entry} {p n : Nat} (h : StillOpen (es.take n) p) : p < n :=
  Nat.lt_of_lt_of_le h.lt (List.length_take_le n es)

theorem StillOpen.ends_le {es : List Entry} {p : Nat} (h : StillOpen es p) :
    ends (es.drop (p + 1)) ≤ starts (es.drop (p + 1)) :=
  h.2 _ ((List.mem_inits _ _).2 List.prefix_rfl)

/-- A phase that is open was open ever since its start. -/
theorem StillOpen.take {es : List Entry} {p n : Nat} (h : StillOpen es p) (hp : p < n) : StillOpen (es.take n) p := by
  refine ⟨?_, fun part hpart => h.2 part ?_⟩
  · rw [List.getElem?_take_of_lt hp]
    exact h.1
  · rw [List.mem_inits] at hpart ⊢
    rw [List.drop_take] at hpart
    exact hpart.trans (List.take_prefix _ _)

/-- An entry opens its own phase, or keeps those open that have more starts than ends after them. -/
theorem stillOpen_concat {es : List Entry} {e : Entry} {p : Nat} :
    StillOpen (es ++ [e]) p ↔ p = es.length ∧ e.event.isStart = true ∨
      StillOpen es p ∧ ends (es.drop (p + 1) ++ [e]) ≤ starts (es.drop (p + 1) ++ [e]) := by
  rcases Nat.lt_trichotomy p es.length with hp | rfl | hp
  · have hdrop : (es ++ [e]).drop (p + 1) = es.drop (p + 1) ++ [e] := List.drop_append_of_le_length hp
    have hne : p ≠ es.length := Nat.ne_of_lt hp
    simp only [StillOpen, List.getElem?_append_left hp, hdrop, List.mem_inits, List.prefix_concat_iff, hne, false_and,
      false_or, and_assoc]
    constructor
    · rintro ⟨hstart, hparts⟩
      exact ⟨hstart, fun part hpart => hparts part (.inr hpart), hparts _ (.inl rfl)⟩
    · rintro ⟨hstart, hparts, hall⟩
      refine ⟨hstart, ?_⟩
      rintro part (rfl | hpart)
      · exact hall
      · exact hparts part hpart
  · simp [StillOpen, starts, ends]
  · have hnot : ¬ StillOpen es p := fun h => absurd h.lt (Nat.lt_asymm hp)
    have hnone : ¬ StillOpen (es ++ [e]) p := by
      intro h
      have := h.lt
      rw [List.length_append, List.length_singleton] at this
      omega
    exact iff_of_false hnone (by rintro (⟨rfl, -⟩ | ⟨h, -⟩); exacts [Nat.lt_irrefl _ hp, hnot h])

theorem StillOpen.concat {es : List Entry} {e : Entry} {p : Nat} (h : StillOpen es p) (he : e.event ≠ .phaseEnd) :
    StillOpen (es ++ [e]) p := by
  have hend : e.event.isEnd = false := Event.isEnd_eq_false he
  refine stillOpen_concat.2 (.inr ⟨h, ?_⟩)
  rw [ends_concat, starts_concat, hend]
  exact Nat.le_add_right_of_le h.ends_le

/-! ## The stack of open phases -/

/-- The numbers are those of the open phases, the last one to be started first, and the phases above each of them are
what the starts after it have ahead of the ends. -/
structure Stacked (es : List Entry) (opened : List Nat) : Prop where
  mem_iff : ∀ p, p ∈ opened ↔ StillOpen es p
  sorted : opened.Pairwise fun p q => q < p
  ahead : ∀ i p, opened[i]? = some p → starts (es.drop (p + 1)) = ends (es.drop (p + 1)) + i

namespace Stacked
variable {es : List Entry} {opened : List Nat} {e : Entry}

theorem innermost (h : Stacked es opened) : Innermost es opened.head? := by
  cases opened with
  | nil => exact fun p hp => absurd ((h.mem_iff p).2 hp) List.not_mem_nil
  | cons p outer =>
    refine ⟨(h.mem_iff p).1 List.mem_cons_self, fun p' hp' => ?_⟩
    rcases List.mem_cons.1 ((h.mem_iff p').2 hp') with rfl | hp'
    · exact Nat.le_refl _
    · exact Nat.le_of_lt ((List.pairwise_cons.1 h.sorted).1 p' hp')

theorem drop_concat (h : Stacked es opened) {p : Nat} (hp : p ∈ opened) :
    (es ++ [e]).drop (p + 1) = es.drop (p + 1) ++ [e] :=
  List.drop_append_of_le_length ((h.mem_iff p).1 hp).lt

theorem start (h : Stacked es opened) (he : e.event.isStart = true) : Stacked (es ++ [e]) (es.length :: opened) := by
  have hend : e.event.isEnd = false := Event.isEnd_eq_false fun hevent => by rw [hevent] at he; cases he
  refine ⟨fun p => ?_, List.pairwise_cons.2 ⟨fun p hp => ((h.mem_iff p).1 hp).lt, h.sorted⟩, ?_⟩
  · rw [List.mem_cons, stillOpen_concat, h.mem_iff, starts_concat, ends_concat, he, hend]
    constructor
    · rintro (rfl | hp)
      · exact .inl ⟨rfl, rfl⟩
      · exact .inr ⟨hp, Nat.le_succ_of_le hp.ends_le⟩
    · rintro (⟨rfl, -⟩ | ⟨hp, -⟩)
      · exact .inl rfl
      · exact .inr hp
  · rintro (_ | i) p hp
    · obtain rfl : es.length = p := Option.some.inj hp
      simp [starts, ends]
    · rw [List.getElem?_cons_succ] at hp
      rw [h.drop_concat (List.mem_of_getElem? hp), starts_concat, ends_concat, he, hend, h.ahead i p hp]
      simp [Nat.add_assoc]

/-- The end closes the innermost phase: no start after that one is left to match it. -/
theorem finish {p : Nat} {outer : List Nat} (h : Stacked es (p :: outer)) (he : e.event = .phaseEnd) :
    Stacked (es ++ [e]) outer := by
  have hstart : e.event.isStart = false := by rw [he]; rfl
  have hend : e.event.isEnd = true := by rw [he]; rfl
  refine ⟨fun q => ?_, (List.pairwise_cons.1 h.sorted).2, fun i q hq => ?_⟩
  · rw [stillOpen_concat, starts_concat, ends_concat, hstart, hend]
    constructor
    · intro hq
      obtain ⟨i, hi⟩ := List.mem_iff_getElem?.1 hq
      have hahead := h.ahead (i + 1) q hi
      refine .inr ⟨(h.mem_iff q).1 (List.mem_cons_of_mem p hq), ?_⟩
      simp only [if_true, Bool.false_eq_true, if_false]
      omega
    · rintro (⟨-, hq⟩ | ⟨hq, hle⟩)
      · cases hq
      · rcases List.mem_cons.1 ((h.mem_iff q).2 hq) with rfl | hq
        · have hahead := h.ahead 0 q rfl
          simp only [if_true, Bool.false_eq_true, if_false] at hle
          omega
        · exact hq
  · rw [h.drop_concat (List.mem_cons_of_mem p (List.mem_of_getElem? hq)), starts_concat, ends_concat, hstart, hend,
      h.ahead (i + 1) q hq]
    simp only [if_true, Bool.false_eq_true, if_false]
    omega

theorem other (h : Stacked es opened) (hstart : e.event.isStart = false) (hend : e.event.isEnd = false) :
    Stacked (es ++ [e]) opened := by
  refine ⟨fun p => ?_, h.sorted, fun i p hp => ?_⟩
  · rw [stillOpen_concat, h.mem_iff, starts_concat, ends_concat, hstart, hend]
    constructor
    · exact fun hp => .inr ⟨hp, hp.ends_le⟩
    · rintro (⟨-, hp⟩ | ⟨hp, -⟩)
      · cases hp
      · exact hp
  · rw [h.drop_concat (List.mem_of_getElem? hp), starts_concat, ends_concat, hstart, hend]
    exact h.ahead i p hp

end Stacked

theorem stacked_nil : Stacked [] [] where
  mem_iff p := iff_of_false List.not_mem_nil fun h => absurd h.lt (Nat.not_lt_zero p)
  sorted := List.Pairwise.nil
  ahead _ _ h := by cases h

/-- An entry in its place moves the stack as its event says. -/
theorem Stacked.openedAfter {es : List Entry} {opened opened' : List Nat} {e : Entry} (h : Stacked es opened)
    (he : openedAfter? es.length opened e = some opened') :
    e.parent = opened.head? ∧ (e.event = .phaseEnd → opened ≠ []) ∧ Stacked (es ++ [e]) opened' := by
  unfold openedAfter? at he
  split at he
  · next hparent =>
    refine ⟨hparent, ?_⟩
    split at he
    · next hevent =>
      obtain rfl := Option.some.inj he
      exact ⟨fun h => absurd (hevent.symm.trans h) nofun, h.start (by rw [hevent]; rfl)⟩
    · next hevent =>
      cases opened with
      | nil => cases he
      | cons p outer =>
        obtain rfl := Option.some.inj he
        exact ⟨fun _ => List.cons_ne_nil p outer, h.finish hevent⟩
    · next hstart hend =>
      obtain rfl := Option.some.inj he
      refine ⟨fun h => absurd h hend, h.other ?_ (Event.isEnd_eq_false hend)⟩
      cases hevent : e.event with
      | phaseStart name detail => exact absurd hevent (hstart name detail)
      | _ => rfl
  · cases he

theorem replay_concat {es : List Entry} {e : Entry} {opened' : List Nat} (h : replay 0 [] (es ++ [e]) = some opened') :
    ∃ opened, replay 0 [] es = some opened ∧ openedAfter? es.length opened e = some opened' := by
  rw [replay_append, Nat.zero_add] at h
  obtain ⟨opened, hopened, h⟩ := Option.bind_eq_some_iff.1 h
  obtain ⟨opened'', he, h⟩ := Option.bind_eq_some_iff.1 h
  obtain rfl := Option.some.inj h
  exact ⟨opened, hopened, he⟩

theorem stacked_of_replay {es : List Entry} {opened : List Nat} (h : replay 0 [] es = some opened) :
    Stacked es opened := by
  induction es using List.reverseRecOn generalizing opened with
  | nil =>
    obtain rfl := Option.some.inj h
    exact stacked_nil
  | append_singleton es e ih =>
    obtain ⟨opened', hopened, he⟩ := replay_concat h
    exact ((ih hopened).openedAfter he).2.2

/-! ## Forests -/

/-- One entry stands under another. -/
def Under (es : List Entry) (p n : Nat) : Prop := ∃ e, es[n]? = some e ∧ e.parent = some p

/-- Every entry stands under the innermost phase that is open before it, and the ends close these phases one by one. -/
structure IsForest (es : List Entry) : Prop where
  innermost : ∀ n e, es[n]? = some e → Innermost (es.take n) e.parent
  /-- An end has a phase; it closes that one and no other. -/
  closes : ∀ n e, es[n]? = some e → e.event = .phaseEnd →
    ∃ p, e.parent = some p ∧ ∀ p', StillOpen (es.take (n + 1)) p' ↔ StillOpen (es.take n) p' ∧ p' ≠ p
  /-- A phase is open as long as no end names it. -/
  openUntil : ∀ p, (es[p]?.any fun e => e.event.isStart) = true →
    (StillOpen es p ↔ ∀ n : Nat, es[n]? ≠ some ⟨.phaseEnd, some p⟩)
  /-- No two ends close one phase. -/
  endsOnce : ∀ m n p : Nat, es[m]? = some ⟨.phaseEnd, some p⟩ → es[n]? = some ⟨.phaseEnd, some p⟩ → m = n
  /-- What an entry stands under is an earlier entry, and one that opens a phase. -/
  earlier : ∀ p n, Under es p n → p < n ∧ (es[p]?.any fun e => e.event.isStart) = true
  acyclic : ∀ n, ¬ Relation.TransGen (Under es) n n

/-- The entries before and after a call. -/
inductive Adds (es : List Entry) : Act → List Entry → Prop
  /-- An end without a phase to close records nothing. -/
  | unmatched : (∀ p, ¬ StillOpen es p) → Adds es .finish es
  /-- Any other end closes the innermost phase. -/
  | closing (p : Nat) : Innermost es (some p) → Adds es .finish (es ++ [⟨.phaseEnd, some p⟩])
  | noting (a : Act) (parent : Option Nat) : a ≠ .finish → Innermost es parent →
      Adds es a (es ++ [⟨a.event, parent⟩])

section Forest
variable {es : List Entry} {opened : List Nat} (h : replay 0 [] es = some opened)
include h

/-- The stacks before and after an entry. -/
theorem exists_stacked {n : Nat} {e : Entry} (he : es[n]? = some e) :
    ∃ before after, Stacked (es.take n) before ∧ e.parent = before.head? ∧
      (e.event = .phaseEnd → before ≠ []) ∧ openedAfter? n before e = some after ∧ Stacked (es.take (n + 1)) after := by
  obtain ⟨hn, -⟩ := List.getElem?_eq_some_iff.1 he
  have htake : es.take (n + 1) = es.take n ++ [e] := by rw [List.take_add_one, he]; rfl
  have hlength : (es.take n).length = n := List.length_take_of_le (Nat.le_of_lt hn)
  rw [← List.take_append_drop (n + 1) es, replay_append] at h
  obtain ⟨after, hafter, -⟩ := Option.bind_eq_some_iff.1 h
  rw [htake] at hafter
  obtain ⟨before, hbefore, hstep⟩ := replay_concat hafter
  obtain ⟨hparent, hend, hstacked⟩ := (stacked_of_replay hbefore).openedAfter hstep
  rw [hlength] at hstep
  exact ⟨before, after, stacked_of_replay hbefore, hparent, hend, hstep, htake ▸ hstacked⟩

theorem innermost_of_replay {n : Nat} {e : Entry} (he : es[n]? = some e) : Innermost (es.take n) e.parent := by
  obtain ⟨before, after, hbefore, hparent, -⟩ := exists_stacked h he
  rw [hparent]
  exact hbefore.innermost

theorem closes_of_replay {n : Nat} {e : Entry} (he : es[n]? = some e) (hend : e.event = .phaseEnd) :
    ∃ p, e.parent = some p ∧ ∀ p', StillOpen (es.take (n + 1)) p' ↔ StillOpen (es.take n) p' ∧ p' ≠ p := by
  obtain ⟨before, after, hbefore, hparent, hopen, hstep, hafter⟩ := exists_stacked h he
  obtain ⟨p, outer, rfl⟩ := List.exists_cons_of_ne_nil (hopen hend)
  have houter : outer = after := by
    rw [openedAfter?, if_pos hparent, hend] at hstep
    exact Option.some.inj hstep
  have hlower : ∀ q ∈ outer, q < p := (List.pairwise_cons.1 hbefore.sorted).1
  refine ⟨p, hparent, fun p' => ?_⟩
  rw [← hafter.mem_iff, ← hbefore.mem_iff, ← houter, List.mem_cons]
  constructor
  · exact fun hp' => ⟨.inr hp', Nat.ne_of_lt (hlower p' hp')⟩
  · rintro ⟨rfl | hp', hne⟩
    · exact absurd rfl hne
    · exact hp'

/-- An end that names a phase leaves it closed for good. -/
theorem not_stillOpen_of_end {m n p : Nat} (hm : es[m]? = some ⟨.phaseEnd, some p⟩) (hmn : m < n) :
    ¬ StillOpen (es.take n) p := by
  intro hopen
  have hbefore : StillOpen (es.take m) p := (innermost_of_replay h hm).1
  have hp : p < m + 1 := Nat.lt_succ_of_lt hbefore.lt_of_take
  obtain ⟨p', hp', hcloses⟩ := closes_of_replay h hm rfl
  obtain rfl : p = p' := Option.some.inj hp'
  have hstill : StillOpen (es.take (m + 1)) p := by
    have := hopen.take hp
    rwa [List.take_take, Nat.min_eq_left hmn] at this
  exact ((hcloses p).1 hstill).2 rfl

/-- A phase that no end names is open from its start on. -/
theorem stillOpen_take {p : Nat} (hstart : (es[p]?.any fun e => e.event.isStart) = true)
    (hends : ∀ n : Nat, es[n]? ≠ some ⟨.phaseEnd, some p⟩) (k : Nat) : StillOpen (es.take (p + 1 + k)) p := by
  induction k with
  | zero =>
    refine ⟨?_, ?_⟩
    · rw [List.getElem?_take_of_lt (Nat.lt_succ_self p)]
      exact hstart
    · simp [starts, ends]
  | succ k ih =>
    cases he : es[p + 1 + k]? with
    | none =>
      have hlength : es.length ≤ p + 1 + k := List.getElem?_eq_none_iff.1 he
      rw [List.take_of_length_le hlength] at ih
      rwa [List.take_of_length_le (by omega)]
    | some e =>
      by_cases hend : e.event = .phaseEnd
      · obtain ⟨p', hparent, hcloses⟩ := closes_of_replay h he hend
        refine (hcloses p).2 ⟨ih, ?_⟩
        rintro rfl
        obtain ⟨event, parent⟩ := e
        subst hend hparent
        exact hends _ he
      · have := ih.concat hend
        rwa [← Option.toList_some, ← he, ← List.take_add_one] at this

theorem stillOpen_iff_of_replay {p : Nat} (hstart : (es[p]?.any fun e => e.event.isStart) = true) :
    StillOpen es p ↔ ∀ n : Nat, es[n]? ≠ some ⟨.phaseEnd, some p⟩ := by
  constructor
  · intro hopen n hn
    have hlt : n < es.length := (List.getElem?_eq_some_iff.1 hn).1
    rw [← List.take_length (l := es)] at hopen
    exact not_stillOpen_of_end h hn hlt hopen
  · intro hends
    have := stillOpen_take h hstart hends es.length
    rwa [List.take_of_length_le (by omega)] at this

theorem under_of_replay {p n : Nat} (hunder : Under es p n) :
    p < n ∧ (es[p]?.any fun e => e.event.isStart) = true := by
  obtain ⟨e, he, hparent⟩ := hunder
  have hopen : StillOpen (es.take n) p := by
    have := innermost_of_replay h he
    rw [hparent] at this
    exact this.1
  refine ⟨hopen.lt_of_take, ?_⟩
  rw [← List.getElem?_take_of_lt hopen.lt_of_take]
  exact hopen.1

theorem isForest_of_replay : IsForest es where
  innermost _ _ he := innermost_of_replay h he
  closes _ _ he hend := closes_of_replay h he hend
  openUntil _ hstart := stillOpen_iff_of_replay h hstart
  endsOnce m n p hm hn := by
    -- each of the two phases is open when it ends, so neither end comes before the other
    have hopen {k : Nat} (hk : es[k]? = some ⟨.phaseEnd, some p⟩) : StillOpen (es.take k) p :=
      (innermost_of_replay h hk).1
    exact Nat.le_antisymm (Nat.not_lt.1 fun hlt => not_stillOpen_of_end h hn hlt (hopen hm))
      (Nat.not_lt.1 fun hlt => not_stillOpen_of_end h hm hlt (hopen hn))
  earlier _ _ hunder := under_of_replay h hunder
  acyclic n hcycle := by
    -- along the links the numbers go up
    have hlt : ∀ m, Relation.TransGen (Under es) n m → n < m := by
      intro m hm
      induction hm with
      | single hunder => exact (under_of_replay h hunder).1
      | tail _ hunder ih => exact Nat.lt_trans ih (under_of_replay h hunder).1
    exact Nat.lt_irrefl n (hlt n hcycle)

end Forest

/-! ## Any list of calls -/

theorem WellNested.perform {t : Trace} (h : t.WellNested) (a : Act) : (t.perform a).WellNested := by
  cases a with
  | start name detail => exact h.start name detail
  | finish => exact h.finish
  | mutation target before after line => exact h.note rfl
  | inspection text outcome detail => exact h.note rfl
  | importAction action origin name => exact h.note rfl

theorem wellNested_ofActs (acts : List Act) : (ofActs acts).WellNested := by
  induction acts using List.reverseRecOn with
  | nil => rfl
  | append_singleton acts a ih =>
    rw [ofActs_concat]
    exact ih.perform a

theorem WellNested.adds {t : Trace} (h : t.WellNested) (a : Act) : Adds t.entries a (t.perform a).entries := by
  have hinnermost := (stacked_of_replay h).innermost
  cases a with
  | start name detail => exact .noting (.start name detail) t.opened.head? nofun hinnermost
  | mutation target before after line =>
    exact .noting (.mutation target before after line) t.opened.head? nofun hinnermost
  | inspection text outcome detail =>
    exact .noting (.inspection text outcome detail) t.opened.head? nofun hinnermost
  | importAction action origin name =>
    exact .noting (.importAction action origin name) t.opened.head? nofun hinnermost
  | finish =>
    rw [Trace.perform, Trace.finish]
    split
    · next hopened =>
      rw [hopened] at hinnermost
      exact .unmatched hinnermost
    · next p outer hopened =>
      rw [hopened] at hinnermost
      exact .closing p hinnermost

/-- Whatever the calls are, their entries form a forest, and a further call adds an entry under the innermost open phase,
unless it is an end and no phase is open. -/
theorem ofActs_isForest (acts : List Act) :
    IsForest (ofActs acts).entries ∧ ∀ a, Adds (ofActs acts).entries a (ofActs (acts ++ [a])).entries := by
  refine ⟨isForest_of_replay (wellNested_ofActs acts), fun a => ?_⟩
  rw [ofActs_concat]
  exact (wellNested_ofActs acts).adds a

example : (ofActs [.start "Parse" "", .finish, .finish, .importAction "merged" "m" "f"]).entries.map Entry.parent =
    [none, some 0, none] := by decide

end Trace
end CallRedirect
