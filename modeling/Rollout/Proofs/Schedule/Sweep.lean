import Rollout.Proofs.Schedule.Counters
import Rollout.Proofs.Schedule.Queue

/-
The invariant of the sweep. The counters agree with what is placed, the queue holds
exactly the nodes that may come next, and every id placed so far was the smallest of
those that could come when its turn came. A sweep at its end has an empty queue, so a
node it left out waits for another one it left out.
-/
namespace Rollout
namespace Schedule

open Text

/-- A node that may come next: it is not placed, and all it waits for is. -/
structure Free (t : Topology) (placed : List String) (id : String) : Prop where
  mem : id ∈ t.ids
  not_placed : id ∉ placed
  supported : ∀ dep, t.Waits id dep → dep ∈ placed

/-- An order in which, after what is placed, every id is the smallest of the free
ones. -/
def Greedy (t : Topology) : List String → List String → Prop
  | _, [] => True
  | placed, id :: rest =>
    (Free t placed id ∧ ∀ other, Free t placed other → other = id ∨ precedes id other = true) ∧
      Greedy t (placed ++ [id]) rest

theorem greedy_append {t : Topology} {placed xs ys : List String} :
    Greedy t placed (xs ++ ys) ↔ Greedy t placed xs ∧ Greedy t (placed ++ xs) ys := by
  induction xs generalizing placed with
  | nil => simp [Greedy]
  | cons id rest ih =>
    rw [List.cons_append, Greedy, Greedy, ih, List.append_assoc, List.singleton_append]
    exact and_assoc.symm

theorem Greedy.nodup {t : Topology} {placed xs : List String} (h : Greedy t placed xs)
    (hp : placed.Nodup) : (placed ++ xs).Nodup := by
  induction xs generalizing placed with
  | nil => rwa [List.append_nil]
  | cons id rest ih =>
    obtain ⟨⟨hfree, -⟩, hrest⟩ := h
    have hsnoc : (placed ++ [id]).Nodup :=
      List.nodup_append'.2 ⟨hp, List.nodup_singleton id,
        List.disjoint_singleton.2 hfree.not_placed⟩
    have hall := ih hrest hsnoc
    rwa [List.append_assoc, List.singleton_append] at hall

theorem Greedy.mem_ids {t : Topology} {placed xs : List String} (h : Greedy t placed xs) :
    ∀ id ∈ xs, id ∈ t.ids := by
  induction xs generalizing placed with
  | nil => exact fun id hid => absurd hid List.not_mem_nil
  | cons first rest ih =>
    obtain ⟨⟨hfree, -⟩, hrest⟩ := h
    intro id hid
    rcases List.mem_cons.1 hid with rfl | hid
    · exact hfree.mem
    · exact ih hrest id hid

/-- The dependencies of a node stand before it. -/
theorem Greedy.free_of_eq_append {t : Topology} {order before after : List String} {id : String}
    (h : Greedy t [] order) (heq : order = before ++ id :: after) : Free t before id := by
  rw [heq, greedy_append] at h
  exact h.2.1.1

/-! ## Counting and queueing -/

/-- The state of a sweep while the edges `todo`, which reach the node placed last, have
still to be released. -/
structure Consistent (t : Topology) (todo : List Link) (s : Sweep) : Prop where
  keys : s.pending.map (·.1) = t.ids
  counts : ∀ id, s.pending.get id =
    (waiting t s.order id + todo.countP fun l => l.source = id : Nat)
  ready_ascending : Ascending s.ready
  ready_nodup : s.ready.Nodup
  mem_ready : ∀ id, id ∈ s.ready ↔ id ∈ t.ids ∧ id ∉ s.order ∧ s.pending.get id = 0

theorem Consistent.mem_ready_iff_free {t : Topology} {s : Sweep} (h : Consistent t [] s)
    {id : String} : id ∈ s.ready ↔ Free t s.order id := by
  have hcount := h.counts id
  rw [List.countP_nil, Nat.add_zero] at hcount
  rw [h.mem_ready, hcount, Int.natCast_eq_zero, waiting_eq_zero_iff]
  exact ⟨fun ⟨hm, hn, hs⟩ => ⟨hm, hn, hs⟩, fun hf => ⟨hf.mem, hf.not_placed, hf.supported⟩⟩

theorem consistent_start (t : Topology) : Consistent t [] (Sweep.start t) := by
  have hkeys := keys_initialCounters t
  have hnodup : ((initialCounters t).map (·.1)).Nodup := hkeys ▸ t.nodup_ids
  refine ⟨hkeys, fun id => get_initialCounters t id, ascending_sorted _, ?_, ?_⟩
  · refine ((sorted_perm _).nodup_iff).2 (List.Nodup.sublist ?_ hnodup)
    exact List.Sublist.map _ List.filter_sublist
  · intro id
    have hmem : id ∈ (Sweep.start t).ready ↔ (id, (0 : Int)) ∈ initialCounters t := by
      simp [Sweep.start, mem_sorted]
    rw [hmem, Counters.mem_iff hnodup, hkeys]
    simp [Sweep.start]

theorem order_release (s : Sweep) (l : Link) : (s.release l).order = s.order := by
  simp only [Sweep.release]
  split <;> rfl

/-- A release takes the edge out of what is counted. -/
theorem Consistent.get_pending_add {t : Topology} {l : Link} {todo : List Link} {s : Sweep}
    (h : Consistent t (l :: todo) s) (hl : l.source ∈ t.ids) (id : String) :
    (s.pending.add l.source (-1)).get id =
      (waiting t s.order id + todo.countP fun l => l.source = id : Nat) := by
  have hcount := h.counts id
  rw [List.countP_cons] at hcount
  by_cases hid : id = l.source
  · subst hid
    rw [Counters.get_add_self (h.keys ▸ hl), hcount]
    simp only [decide_true, if_true]
    omega
  · have hne : ¬l.source = id := fun he => hid he.symm
    rw [Counters.get_add_of_ne hid, hcount]
    simp only [hne, decide_false, Bool.false_eq_true, if_false, Nat.add_zero]

/-- Releasing an edge whose source is a node that is not placed. -/
theorem Consistent.release {t : Topology} {l : Link} {todo : List Link} {s : Sweep}
    (h : Consistent t (l :: todo) s) (hl : l.source ∈ t.ids) (hp : l.source ∉ s.order) :
    Consistent t todo (s.release l) := by
  have hkeys : (s.pending.add l.source (-1)).map (·.1) = t.ids :=
    (Counters.keys_add _ _ _).trans h.keys
  have hcounts := h.get_pending_add hl
  have hother : ∀ id, id ≠ l.source →
      (s.pending.add l.source (-1)).get id = s.pending.get id :=
    fun id hne => Counters.get_add_of_ne hne _ _
  -- The edge was still counted, so its source was not in the queue.
  have hwaiting : s.pending.get l.source ≠ 0 := by
    have hcount := h.counts l.source
    rw [List.countP_cons_of_pos (by simp)] at hcount
    omega
  have hnot : l.source ∉ s.ready := fun hm => hwaiting ((h.mem_ready l.source).1 hm).2.2
  unfold Sweep.release
  by_cases hzero : (s.pending.add l.source (-1)).get l.source = 0
  · simp only [if_pos hzero]
    refine ⟨hkeys, hcounts, ascending_enqueue h.ready_ascending _, ?_, ?_⟩
    · exact (enqueue_perm _ _).nodup_iff.2 (List.nodup_cons.2 ⟨hnot, h.ready_nodup⟩)
    · intro id
      rw [mem_enqueue, h.mem_ready]
      by_cases hid : id = l.source
      · subst hid
        exact ⟨fun _ => ⟨hl, hp, hzero⟩, fun _ => Or.inl rfl⟩
      · rw [hother id hid]
        exact ⟨fun hor => hor.resolve_left hid, Or.inr⟩
  · simp only [if_neg hzero]
    refine ⟨hkeys, hcounts, h.ready_ascending, h.ready_nodup, ?_⟩
    intro id
    by_cases hid : id = l.source
    · subst hid
      exact ⟨fun hm => absurd hm hnot, fun hm => absurd hm.2.2 hzero⟩
    · rw [hother id hid, h.mem_ready]

/-- Some of the edges are released and the others have still to be. -/
theorem Consistent.foldl_release {t : Topology} {done todo : List Link} {s : Sweep}
    (h : Consistent t (done ++ todo) s)
    (hl : ∀ l ∈ done, l.source ∈ t.ids ∧ l.source ∉ s.order) :
    Consistent t todo (done.foldl Sweep.release s) ∧
      (done.foldl Sweep.release s).order = s.order := by
  induction done generalizing s with
  | nil => exact ⟨h, rfl⟩
  | cons l rest ih =>
    obtain ⟨hmem, hplaced⟩ := hl l List.mem_cons_self
    have hrest : ∀ l' ∈ rest, l'.source ∈ t.ids ∧ l'.source ∉ (s.release l).order := by
      intro l' hl'
      rw [order_release]
      exact hl l' (List.mem_cons_of_mem l hl')
    obtain ⟨hc, ho⟩ := ih (h.release hmem hplaced) hrest
    exact ⟨hc, ho.trans (order_release s l)⟩

/-! ## Steps and runs -/

structure Sound (t : Topology) (s : Sweep) : Prop where
  consistent : Consistent t [] s
  greedy : Greedy t [] s.order

theorem sound_start (t : Topology) : Sound t (Sweep.start t) := ⟨consistent_start t, trivial⟩

theorem Sound.order_nodup {t : Topology} {s : Sweep} (h : Sound t s) : s.order.Nodup :=
  h.greedy.nodup List.nodup_nil

theorem run_of_ready_eq_nil {t : Topology} {s : Sweep} (h : s.ready = []) (n : Nat) :
    s.run t n = s := by
  induction n with
  | zero => rfl
  | succ n ih => simp only [Sweep.run, Sweep.step, h, ih]

/-- Taking the first ready node out of the queue leaves the edges that reach it to be
released. -/
theorem Sound.consistent_place {t : Topology} {s : Sweep} (h : Sound t s) {id : String}
    {rest : List String} (hready : s.ready = id :: rest) :
    Consistent t ((t.edgesTo id).filter (isOrdering t))
      { s with ready := rest, order := s.order ++ [id] } := by
  have hfree : Free t s.order id := h.consistent.mem_ready_iff_free.1 (hready ▸ List.mem_cons_self)
  have hasc : Ascending (id :: rest) := hready ▸ h.consistent.ready_ascending
  have hnodup : (id :: rest).Nodup := hready ▸ h.consistent.ready_nodup
  obtain ⟨hnot, hrest⟩ := List.nodup_cons.1 hnodup
  refine ⟨h.consistent.keys, ?_, (List.pairwise_cons.1 hasc).2, hrest, ?_⟩
  · intro x
    have hcount := h.consistent.counts x
    rw [List.countP_nil, Nat.add_zero, waiting_eq_add hfree.not_placed x] at hcount
    exact hcount
  · intro x
    have hmem := h.consistent.mem_ready x
    rw [hready, List.mem_cons] at hmem
    rw [List.mem_append, List.mem_singleton, not_or]
    constructor
    · intro hx
      obtain ⟨hids, horder, hzero⟩ := hmem.1 (Or.inr hx)
      exact ⟨hids, ⟨horder, fun he => hnot (he ▸ hx)⟩, hzero⟩
    · rintro ⟨hids, ⟨horder, hne⟩, hzero⟩
      exact (hmem.2 ⟨hids, horder, hzero⟩).resolve_left hne

/-- The edges that reach the node placed come from nodes that are not placed. -/
theorem Sound.released_sources {t : Topology} {s : Sweep} (h : Sound t s) {id : String}
    {rest : List String} (hready : s.ready = id :: rest) :
    ∀ l ∈ (t.edgesTo id).filter (isOrdering t), l.source ∈ t.ids ∧ l.source ∉ s.order ++ [id] := by
  have hfree : Free t s.order id := h.consistent.mem_ready_iff_free.1 (hready ▸ List.mem_cons_self)
  intro l hl
  obtain ⟨hto, ho⟩ := List.mem_filter.1 hl
  obtain ⟨hlinks, htarget⟩ := Topology.mem_edgesTo.1 hto
  have hwaits : t.Waits l.source id := waits_iff_exists_ordering.2 ⟨l, hlinks, ho, rfl, htarget⟩
  refine ⟨hwaits.source_mem, ?_⟩
  rw [List.mem_append, List.mem_singleton, not_or]
  constructor
  · -- A source that is placed already would have its target, this node, before it.
    intro hplaced
    obtain ⟨before, after, heq⟩ := List.append_of_mem hplaced
    have hdep := (h.greedy.free_of_eq_append heq).supported id hwaits
    exact hfree.not_placed (heq ▸ List.mem_append_left _ hdep)
  · intro hself
    exact hfree.not_placed (hfree.supported id (hself ▸ hwaits))

theorem Sound.step {t : Topology} {s : Sweep} (h : Sound t s) {id : String} {rest : List String}
    (hready : s.ready = id :: rest) :
    Sound t (s.step t) ∧ (s.step t).order = s.order ++ [id] := by
  have hfree : Free t s.order id := h.consistent.mem_ready_iff_free.1 (hready ▸ List.mem_cons_self)
  have hstep : s.step t = ((t.edgesTo id).filter (isOrdering t)).foldl Sweep.release
      { s with ready := rest, order := s.order ++ [id] } := by
    simp only [Sweep.step, hready]
  have hplace := h.consistent_place hready
  rw [← List.append_nil ((t.edgesTo id).filter (isOrdering t))] at hplace
  obtain ⟨hc, ho⟩ := hplace.foldl_release (h.released_sources hready)
  rw [← hstep] at hc ho
  refine ⟨⟨hc, ?_⟩, ho⟩
  rw [ho, greedy_append, List.nil_append]
  refine ⟨h.greedy, ⟨hfree, ?_⟩, trivial⟩
  intro other hother
  have hmem : other ∈ id :: rest := hready ▸ h.consistent.mem_ready_iff_free.2 hother
  exact Ascending.eq_or_precedes (hready ▸ h.consistent.ready_ascending) hmem

theorem Sound.run {t : Topology} (n : Nat) {s : Sweep} (h : Sound t s) :
    Sound t (s.run t n) ∧
      ((s.run t n).ready = [] ∨ (s.run t n).order.length = s.order.length + n) := by
  induction n generalizing s with
  | zero => exact ⟨h, Or.inr rfl⟩
  | succ n ih =>
    cases hready : s.ready with
    | nil =>
      rw [run_of_ready_eq_nil hready]
      exact ⟨h, Or.inl hready⟩
    | cons id rest =>
      obtain ⟨hsound, horder⟩ := h.step hready
      obtain ⟨hrun, hend⟩ := ih hsound
      refine ⟨hrun, hend.imp_right fun hlen => ?_⟩
      rw [Sweep.run, hlen, horder, List.length_append, List.length_singleton]
      omega

theorem sound_completed (t : Topology) : Sound t (completed t) := ((sound_start t).run t.size).1

/-- A sweep at its end has nothing left to place. -/
theorem ready_completed (t : Topology) : (completed t).ready = [] := by
  obtain ⟨hsound, hend⟩ := (sound_start t).run t.size
  rcases hend with hend | hlen
  · exact hend
  · -- As many ids are placed as there are nodes, so no node is left for the queue.
    have hlength : (completed t).order.length = t.ids.length := by
      rw [completed, hlen, Topology.ids, List.length_map]
      exact Nat.zero_add _
    have hall : ∀ id ∈ t.ids, id ∈ (completed t).order := by
      have hsub : (completed t).order.Subperm t.ids :=
        List.subperm_of_subset hsound.order_nodup hsound.greedy.mem_ids
      exact fun id hid => (hsub.perm_of_length_le (Nat.le_of_eq hlength.symm)).mem_iff.2 hid
    apply List.eq_nil_iff_forall_not_mem.2
    intro id hid
    obtain ⟨hids, hnot, -⟩ := (hsound.consistent.mem_ready id).1 hid
    exact hnot (hall id hids)

theorem not_free_completed (t : Topology) (id : String) : ¬Free t (completed t).order id := by
  intro hfree
  have hmem := (sound_completed t).consistent.mem_ready_iff_free.2 hfree
  rw [ready_completed] at hmem
  exact List.not_mem_nil hmem

/-- A node that is left out waits for another one that is. -/
theorem exists_waits_of_not_mem_completed {t : Topology} {id : String} (hid : id ∈ t.ids)
    (hnot : id ∉ (completed t).order) :
    ∃ dep, t.Waits id dep ∧ dep ∉ (completed t).order := by
  by_contra hno
  exact not_free_completed t id
    ⟨hid, hnot, fun dep hdep => by_contra fun hn => hno ⟨dep, hdep, hn⟩⟩

end Schedule
end Rollout
