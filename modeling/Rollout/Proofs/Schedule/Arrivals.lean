import Rollout.Proofs.Schedule.StartOrder

/-
The books of a sweep. Whenever the sweep looks at its queue, the counters say what is still
waited for, and the queue holds, in ascending order, just the nodes that wait for nothing.
The ids that have entered the queue are the placed ones and those that stand in it. So every
node enters it at most once, and the sweep has placed all it can after at most as many steps
as there are nodes.
-/
namespace Rollout
namespace Schedule

open Text

/-- What holds of a sweep whenever it looks at its queue. -/
structure Balanced (t : Topology) (s : Sweep) : Prop where
  order_nodup : s.order.Nodup
  order_mem : ∀ id ∈ s.order, id ∈ t.ids
  order_closed : ∀ l ∈ t.links, isOrdering t l = true → l.source ∈ s.order → l.target ∈ s.order
  keys : s.pending.map (·.1) = t.ids
  counts : ∀ id ∈ t.ids, s.pending.get id = (waiting t s.order id : Nat)
  nonneg : ∀ id ∈ t.ids, 0 ≤ s.pending.get id
  ready_ascending : s.ready.Pairwise fun a b => precedes a b = true
  mem_ready : ∀ id, id ∈ s.ready ↔ id ∈ t.ids ∧ id ∉ s.order ∧ s.pending.get id = 0

theorem Sound.balanced {t : Topology} {s : Sweep} (h : Sound t s) : Balanced t s := by
  have hcounts : ∀ id, s.pending.get id = (waiting t s.order id : Nat) := by
    intro id
    have hcount := h.consistent.counts id
    rwa [List.countP_nil, Nat.add_zero] at hcount
  refine ⟨h.order_nodup, h.greedy.mem_ids, ?_, h.consistent.keys, fun id _ => hcounts id, ?_,
    h.consistent.ready_ascending.pairwise_precedes h.consistent.ready_nodup,
    h.consistent.mem_ready⟩
  · intro l hl ho hsource
    have hwaits : t.Waits l.source l.target := waits_iff_exists_ordering.2 ⟨l, hl, ho, rfl, rfl⟩
    obtain ⟨before, after, heq⟩ := List.append_of_mem hsource
    have hdep := (h.greedy.free_of_eq_append heq).supported l.target hwaits
    exact heq ▸ List.mem_append_left _ hdep
  · intro id _
    rw [hcounts]
    exact Int.natCast_nonneg _

/-! ## Between two looks at the queue -/

/-- The sweep with its first ready node placed, before any edge is released. -/
def Sweep.placed (s : Sweep) (id : String) (rest : List String) : Sweep :=
  { s with ready := rest, order := s.order ++ [id] }

/-- While the edges of a placed node are released, a counter is still the number of edges that
lead to nodes that are not placed, but for the edges that are still to be released. -/
theorem Sound.counts_while_releasing {t : Topology} {s : Sweep} (h : Sound t s) {id : String}
    {rest : List String} (hready : s.ready = id :: rest) {done todo : List Link}
    (hsplit : (t.edgesTo id).filter (isOrdering t) = done ++ todo) (x : String) :
    (done.foldl Sweep.release (s.placed id rest)).pending.get x =
      (waiting t (s.order ++ [id]) x + todo.countP fun l => l.source = x : Nat) := by
  have hplace := h.consistent_place hready
  have hsources := h.released_sources hready
  rw [hsplit] at hplace hsources
  obtain ⟨hc, ho⟩ := hplace.foldl_release fun l hl => hsources l (List.mem_append_left todo hl)
  rw [Sweep.placed, hc.counts, ho]

/-! ## Arrivals -/

/-- The ids that enter the queue while edges are released one after the other. -/
def arrivals : Sweep → List Link → List String
  | _, [] => []
  | s, l :: rest =>
    if (s.pending.add l.source (-1)).get l.source = 0 then
      l.source :: arrivals (s.release l) rest
    else arrivals (s.release l) rest

/-- The ids that enter the queue in so many steps. -/
def arrivalsIn (t : Topology) : Nat → Sweep → List String
  | 0, _ => []
  | n + 1, s =>
    match s.ready with
    | [] => []
    | id :: rest =>
      arrivals (s.placed id rest) ((t.edgesTo id).filter (isOrdering t)) ++
        arrivalsIn t n (s.step t)

/-- The ids that have entered the queue when the sweep has taken so many steps: first those of
the nodes that wait for nothing. -/
def entered (t : Topology) (n : Nat) : List String :=
  ((initialCounters t).filter fun c => c.2 = 0).map (·.1) ++ arrivalsIn t n (Sweep.start t)

theorem ready_foldl_release_perm (todo : List Link) (s : Sweep) :
    (todo.foldl Sweep.release s).ready.Perm (arrivals s todo ++ s.ready) := by
  induction todo generalizing s with
  | nil => exact List.Perm.refl _
  | cons l rest ih =>
    have hrest := ih (s.release l)
    rw [List.foldl_cons, arrivals]
    by_cases hzero : (s.pending.add l.source (-1)).get l.source = 0
    · have hready : (s.release l).ready = enqueue s.ready l.source := by
        simp only [Sweep.release, if_pos hzero]
      rw [hready] at hrest
      rw [if_pos hzero]
      exact hrest.trans (((enqueue_perm _ _).append_left _).trans List.perm_middle)
    · have hready : (s.release l).ready = s.ready := by
        simp only [Sweep.release, if_neg hzero]
      rw [hready] at hrest
      rwa [if_neg hzero]

/-- A step moves one id from the queue to the order and lets the arrivals in. -/
theorem Sound.passed_step {t : Topology} {s : Sweep} (h : Sound t s) {id : String}
    {rest : List String} (hready : s.ready = id :: rest) :
    ((s.step t).order ++ (s.step t).ready).Perm
      (arrivals (s.placed id rest) ((t.edgesTo id).filter (isOrdering t)) ++
        (s.order ++ s.ready)) := by
  have hstep : s.step t =
      ((t.edgesTo id).filter (isOrdering t)).foldl Sweep.release (s.placed id rest) := by
    simp only [Sweep.step, hready]
    rfl
  have hperm := ready_foldl_release_perm ((t.edgesTo id).filter (isOrdering t)) (s.placed id rest)
  rw [← hstep] at hperm
  rw [(h.step hready).2, hready, List.append_assoc]
  refine ((hperm.append_left [id]).append_left s.order).trans ?_
  show (s.order ++ (id :: (arrivals _ _ ++ rest))).Perm _
  refine (List.perm_middle.symm.append_left s.order).trans ?_
  rw [← List.append_assoc, ← List.append_assoc]
  exact List.perm_append_comm.append_right _

theorem Sound.passed_run {t : Topology} (n : Nat) {s : Sweep} (h : Sound t s) :
    ((s.run t n).order ++ (s.run t n).ready).Perm (arrivalsIn t n s ++ (s.order ++ s.ready)) := by
  induction n generalizing s with
  | zero => exact List.Perm.refl _
  | succ n ih =>
    cases hready : s.ready with
    | nil =>
      rw [run_of_ready_eq_nil hready]
      simp only [arrivalsIn, hready]
      exact List.Perm.refl _
    | cons id rest =>
      have hlater := ih (h.step hready).1
      have hnow := h.passed_step hready
      simp only [Sweep.run, arrivalsIn, hready] at hlater hnow ⊢
      refine hlater.trans ((hnow.append_left _).trans ?_)
      rw [← List.append_assoc]
      exact List.perm_append_comm.append_right _

/-- What has entered the queue is placed or stands in the queue. -/
theorem passed_perm (t : Topology) (n : Nat) :
    (((Sweep.start t).run t n).order ++ ((Sweep.start t).run t n).ready).Perm (entered t n) := by
  refine ((sound_start t).passed_run n).trans (List.perm_append_comm.trans ?_)
  exact (sorted_perm _).append_right _

theorem nodup_entered (t : Topology) (n : Nat) : (entered t n).Nodup := by
  have hsound := ((sound_start t).run n).1
  rw [← (passed_perm t n).nodup_iff]
  refine hsound.order_nodup.append hsound.consistent.ready_nodup ?_
  intro id horder hready
  exact ((hsound.consistent.mem_ready id).1 hready).2.1 horder

/-! ## The end of a sweep -/

theorem run_succ (t : Topology) (n : Nat) (s : Sweep) : s.run t (n + 1) = (s.run t n).step t := by
  induction n generalizing s with
  | zero => rfl
  | succ n ih => exact ih (s.step t)

theorem run_add (t : Topology) (m n : Nat) (s : Sweep) :
    s.run t (m + n) = (s.run t m).run t n := by
  induction n with
  | zero => rfl
  | succ n ih => rw [← Nat.add_assoc, run_succ, ih, run_succ]

/-- The first look at an empty queue comes after at most as many steps as there are nodes. -/
theorem exists_first_empty (t : Topology) :
    ∃ n ≤ t.size, (∀ k < n, ((Sweep.start t).run t k).ready ≠ []) ∧
      ((Sweep.start t).run t n).ready = [] ∧ completed t = (Sweep.start t).run t n := by
  have hend : ∃ n, ((Sweep.start t).run t n).ready = [] := ⟨t.size, ready_completed t⟩
  have hle : Nat.find hend ≤ t.size := Nat.find_min' hend (ready_completed t)
  refine ⟨Nat.find hend, hle, fun k hk => Nat.find_min hend hk, Nat.find_spec hend, ?_⟩
  obtain ⟨m, hm⟩ := Nat.exists_eq_add_of_le hle
  rw [completed, hm, run_add, run_of_ready_eq_nil (Nat.find_spec hend)]

/-- At every look at the queue the books are balanced, and no id has entered the queue twice.
A step places the first id of the queue, no counter falls below zero on the way, and at most
as many steps are taken as there are nodes. -/
theorem balanced_throughout (t : Topology) :
    (∀ n, Balanced t ((Sweep.start t).run t n) ∧ (entered t n).Nodup ∧
      (((Sweep.start t).run t n).order ++ ((Sweep.start t).run t n).ready).Perm (entered t n)) ∧
    (∀ n id rest, ((Sweep.start t).run t n).ready = id :: rest →
      ((Sweep.start t).run t (n + 1)).order = ((Sweep.start t).run t n).order ++ [id] ∧
      ∀ done todo, (t.edgesTo id).filter (isOrdering t) = done ++ todo → ∀ x ∈ t.ids,
        0 ≤ (done.foldl Sweep.release (((Sweep.start t).run t n).placed id rest)).pending.get x) ∧
    ∃ n ≤ t.size, (∀ k < n, ((Sweep.start t).run t k).ready ≠ []) ∧
      ((Sweep.start t).run t n).ready = [] ∧ completed t = (Sweep.start t).run t n := by
  have hsound : ∀ n, Sound t ((Sweep.start t).run t n) := fun n => ((sound_start t).run n).1
  refine ⟨fun n => ⟨(hsound n).balanced, nodup_entered t n, passed_perm t n⟩, ?_,
    exists_first_empty t⟩
  intro n id rest hready
  refine ⟨?_, fun done todo hsplit x _ => ?_⟩
  · rw [run_succ]
    exact ((hsound n).step hready).2
  · rw [(hsound n).counts_while_releasing hready hsplit]
    exact Int.natCast_nonneg _

/-- One of two parallel edges to the third node that is placed has been released. -/
theorem balanced_throughout_layered :
    (entered layered 2).Nodup ∧ entered layered 2 = ["db", "bus", "api"] ∧
      ((Sweep.start layered).run layered 2).ready = ["api"] ∧
      ((Sweep.start layered).run layered 3).order =
        ((Sweep.start layered).run layered 2).order ++ ["api"] ∧
      0 ≤ ([⟨"web", "api", .dependsOn true none⟩].foldl Sweep.release
        (((Sweep.start layered).run layered 2).placed "api" [])).pending.get "web" := by
  obtain ⟨hlooks, hsteps, -⟩ := balanced_throughout layered
  have hready : ((Sweep.start layered).run layered 2).ready = ["api"] := by decide +kernel
  have hedges : (layered.edgesTo "api").filter (isOrdering layered) =
      [⟨"web", "api", .dependsOn true none⟩] ++ [⟨"web", "api", .dependsOn true none⟩] := by
    decide +kernel
  obtain ⟨horder, hcounters⟩ := hsteps 2 "api" [] hready
  exact ⟨(hlooks 2).2.1, by decide +kernel, hready, horder,
    hcounters _ _ hedges "web" (by decide +kernel)⟩

end Schedule
end Rollout
