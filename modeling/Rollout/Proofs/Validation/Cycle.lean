import Mathlib.Algebra.GroupWithZero.Nat
import Rollout.Proofs.Validation.Search
import Rollout.Validation.Checks

/-
The search for cycles is exact: it ends without a cycle just when the startup graph has
none, and a cycle that it reports is a simple one of that graph. Every step uses up a
root, a frame or an edge, of which there are no more than the search allows steps for.
-/
namespace Rollout
namespace Cycle

open Relation

/-- A cycle in which no node occurs twice, its first node repeated at the end. -/
def IsSimpleCycle (t : Topology) (cycle : List String) : Prop :=
  ∃ first rest, cycle = first :: (rest ++ [first]) ∧ (first :: rest).Nodup ∧
    (∀ id ∈ first :: rest, id ∈ t.ids) ∧ cycle.IsChain t.Waits

theorem transGen_of_isChain {r : String → String → Prop} {a b : String} {xs : List String}
    (h : (a :: (xs ++ [b])).IsChain r) : TransGen r a b := by
  induction xs generalizing a with
  | nil => exact .single (List.isChain_cons_cons.1 h).1
  | cons x xs ih =>
    obtain ⟨hax, hrest⟩ := List.isChain_cons_cons.1 h
    exact .head hax (ih hrest)

theorem IsSimpleCycle.not_acyclic {t : Topology} {cycle : List String}
    (h : IsSimpleCycle t cycle) : ¬t.Acyclic := by
  obtain ⟨first, rest, rfl, -, -, hchain⟩ := h
  exact fun hacyclic => hacyclic first (transGen_of_isChain hchain)

theorem exists_eq_append_dropWhile {xs : List String} {x : String} (h : x ∈ xs) :
    ∃ front back, xs = front ++ x :: back ∧ xs.dropWhile (· != x) = x :: back := by
  induction xs with
  | nil => cases h
  | cons y ys ih =>
    by_cases hy : y = x
    · subst hy
      exact ⟨[], ys, rfl, List.dropWhile_cons_of_neg (by simp)⟩
    · obtain ⟨front, back, heq, hdrop⟩ := ih ((List.mem_cons.1 h).resolve_left fun he => hy he.symm)
      refine ⟨y :: front, back, by rw [heq, List.cons_append], ?_⟩
      rw [List.dropWhile_cons_of_pos (by simp [hy]), hdrop]

/-- An edge from the innermost node back to the path closes a simple cycle. -/
theorem Walk.isSimpleCycle {t : Topology} {roots entered outer : List String} {id target : String}
    (h : Walk t roots entered (id :: outer)) (hwaits : t.Waits id target)
    (hmem : target ∈ id :: outer) :
    IsSimpleCycle t ((id :: outer).reverse.dropWhile (· != target) ++ [target]) := by
  obtain ⟨front, back, heq, hdrop⟩ :=
    exists_eq_append_dropWhile (List.mem_reverse.2 hmem)
  have hchain : ((id :: outer).reverse ++ [target]).IsChain t.Waits := by
    refine List.isChain_append.2 ⟨List.isChain_reverse.2 h.joined, List.isChain_singleton _, ?_⟩
    intro x hx y hy
    rw [List.reverse_cons, List.getLast?_concat] at hx
    obtain rfl := Option.mem_some_iff.1 hx
    obtain rfl := Option.mem_some_iff.1 hy
    exact hwaits
  have hnodup : (front ++ target :: back).Nodup := heq ▸ List.nodup_reverse.2 h.path_nodup
  refine ⟨target, back, by rw [hdrop, List.cons_append], hnodup.of_append_right, ?_, ?_⟩
  · intro x hx
    have hpath : x ∈ (id :: outer).reverse := heq ▸ List.mem_append_right front hx
    exact h.entered_mem x (h.path_entered x (List.mem_reverse.1 hpath))
  · rw [hdrop]
    rw [heq, List.append_assoc] at hchain
    exact hchain.right_of_append

/-! ## Steps -/

theorem onPath_iff {s : Search} {id : String} :
    s.onPath id = true ↔ id ∈ s.frames.map Frame.id := by
  simp [Search.onPath]

theorem hasEntered_iff {s : Search} {id : String} : s.hasEntered id = true ↔ id ∈ s.entered := by
  simp [Search.hasEntered]

section Step

variable {t : Topology} {roots entered : List String} {root id : String} {l : Link}
  {rest : List Link} {outer : List Frame}

theorem step_dropRoot (h : root ∈ entered) :
    step t ⟨root :: roots, entered, []⟩ = .next ⟨roots, entered, []⟩ := by
  simp only [step]
  rw [if_pos (hasEntered_iff.2 h)]

theorem step_root (h : root ∉ entered) :
    step t ⟨root :: roots, entered, []⟩ =
      .next ⟨roots, root :: entered, [⟨root, t.edgesFrom root⟩]⟩ := by
  simp only [step]
  rw [if_neg fun hn => h (hasEntered_iff.1 hn)]
  rfl

theorem step_skip (h : ¬follows t l = true) :
    step t ⟨roots, entered, ⟨id, l :: rest⟩ :: outer⟩ =
      .next ⟨roots, entered, ⟨id, rest⟩ :: outer⟩ := by
  simp only [step]
  rw [if_pos (by simp [h])]

theorem step_close (h : follows t l = true) (hpath : l.target ∈ id :: outer.map Frame.id) :
    step t ⟨roots, entered, ⟨id, l :: rest⟩ :: outer⟩ =
      .found ((id :: outer.map Frame.id).reverse.dropWhile (· != l.target) ++ [l.target]) := by
  simp only [step]
  rw [if_neg (by simp [h]), if_pos (onPath_iff.2 hpath)]
  rfl

theorem step_pass (h : follows t l = true) (hpath : l.target ∉ id :: outer.map Frame.id)
    (hentered : l.target ∈ entered) :
    step t ⟨roots, entered, ⟨id, l :: rest⟩ :: outer⟩ =
      .next ⟨roots, entered, ⟨id, rest⟩ :: outer⟩ := by
  simp only [step]
  rw [if_neg (by simp [h]), if_neg fun hn => hpath (onPath_iff.1 hn),
    if_pos (hasEntered_iff.2 hentered)]

theorem step_enter (h : follows t l = true) (hpath : l.target ∉ id :: outer.map Frame.id)
    (hnew : l.target ∉ entered) :
    step t ⟨roots, entered, ⟨id, l :: rest⟩ :: outer⟩ =
      .next ⟨roots, l.target :: entered,
        ⟨l.target, t.edgesFrom l.target⟩ :: ⟨id, rest⟩ :: outer⟩ := by
  simp only [step]
  rw [if_neg (by simp [h]), if_neg fun hn => hpath (onPath_iff.1 hn),
    if_neg fun hn => hnew (hasEntered_iff.1 hn)]
  rfl

end Step

structure Sound (t : Topology) (s : Search) : Prop where
  walk : Walk t s.roots s.entered (s.frames.map Frame.id)
  settled : Settled t s.entered s.frames

theorem sound_start (t : Topology) : Sound t (.start t) := ⟨Walk.start t, trivial⟩

/-- The steps that the nodes still to be entered can take: one for each of their edges and
one to leave them. -/
def untouched (t : Topology) (entered : List String) : Nat :=
  ((t.ids.filter fun id => id ∉ entered).map fun id => (t.edgesFrom id).length + 1).sum

/-- A bound of the steps a search can still take. -/
def remaining (t : Topology) (s : Search) : Nat :=
  s.roots.length + (s.frames.map fun f => f.rest.length + 1).sum + untouched t s.entered

theorem untouched_eq_add {t : Topology} {entered : List String} {id : String} (hid : id ∈ t.ids)
    (hnew : id ∉ entered) :
    untouched t entered = (t.edgesFrom id).length + 1 + untouched t (id :: entered) := by
  have hids : t.ids.Nodup := t.nodup_ids
  have hperm : (t.ids.filter fun x => x ∉ entered).Perm
      (id :: t.ids.filter fun x => x ∉ id :: entered) := by
    refine (List.perm_ext_iff_of_nodup (hids.filter _)
      (List.nodup_cons.2 ⟨by simp, hids.filter _⟩)).2 fun x => ?_
    by_cases hx : x = id
    · subst hx
      simp [hid, hnew]
    · simp [hx]
  rw [untouched, untouched, (hperm.map _).sum_nat, List.map_cons, List.sum_cons]

/-- What a step of a sound search leads to. -/
inductive Advances (t : Topology) (s : Search) : Progress → Prop where
  | next {s' : Search} : Sound t s' → remaining t s' < remaining t s → Advances t s (.next s')
  | found {cycle : List String} : IsSimpleCycle t cycle → Advances t s (.found cycle)
  | finished : t.Acyclic → Advances t s .finished

theorem advances_root {t : Topology} {roots entered : List String}
    (h : Sound t ⟨roots, entered, []⟩) :
    Advances t ⟨roots, entered, []⟩ (step t ⟨roots, entered, []⟩) := by
  obtain ⟨hwalk, -⟩ := h
  match roots with
  | [] => exact .finished hwalk.acyclic_of_finished
  | root :: roots =>
    by_cases hentered : root ∈ entered
    · rw [step_dropRoot hentered]
      refine .next ⟨hwalk.dropRoot hentered, trivial⟩ ?_
      simp only [remaining, List.length_cons]
      omega
    · rw [step_root hentered]
      have hroot : root ∈ t.ids := hwalk.roots_mem root List.mem_cons_self
      have hnext := hwalk.enter hroot hentered fun _ ho => absurd ho (Option.not_mem_none _)
      have hempty : Settled t (root :: entered) [] := trivial
      refine .next ⟨hnext.dropRoot List.mem_cons_self, hempty.enter root⟩ ?_
      have hcount := untouched_eq_add hroot hentered
      simp only [remaining, List.length_cons, List.map_cons, List.map_nil, List.sum_cons,
        List.sum_nil]
      omega

theorem advances_leave {t : Topology} {roots entered : List String} {id : String}
    {outer : List Frame} (h : Sound t ⟨roots, entered, ⟨id, []⟩ :: outer⟩) :
    Advances t ⟨roots, entered, ⟨id, []⟩ :: outer⟩
      (step t ⟨roots, entered, ⟨id, []⟩ :: outer⟩) := by
  obtain ⟨hwalk, hsettled⟩ := h
  refine .next ⟨hwalk.leave fun dep hdep => hsettled.deps hdep, hsettled.2⟩ ?_
  simp only [remaining, List.map_cons, List.sum_cons]
  omega

/-- An edge is passed over, closes a cycle, or leads to a node that was or is now entered. -/
theorem advances_look {t : Topology} {roots entered : List String} {id : String} {l : Link}
    {rest : List Link} {outer : List Frame}
    (h : Sound t ⟨roots, entered, ⟨id, l :: rest⟩ :: outer⟩) :
    Advances t ⟨roots, entered, ⟨id, l :: rest⟩ :: outer⟩
      (step t ⟨roots, entered, ⟨id, l :: rest⟩ :: outer⟩) := by
  obtain ⟨hwalk, hsettled⟩ := h
  have hid : id ∈ t.ids :=
    hwalk.entered_mem id (hwalk.path_entered id List.mem_cons_self)
  have hedge : l ∈ t.edgesFrom id := by
    obtain ⟨⟨looked, heq, -⟩, -⟩ := hsettled
    exact heq ▸ List.mem_append_right looked List.mem_cons_self
  by_cases hfollows : follows t l = true
  · have hwaits : t.Waits id l.target := waits_of_follows hid hedge hfollows
    by_cases hpath : l.target ∈ id :: outer.map Frame.id
    · rw [step_close hfollows hpath]
      exact .found (hwalk.isSimpleCycle hwaits hpath)
    · by_cases hentered : l.target ∈ entered
      · rw [step_pass hfollows hpath hentered]
        refine .next ⟨hwalk, hsettled.look fun _ => ⟨hentered, hpath⟩⟩ ?_
        simp only [remaining, List.map_cons, List.sum_cons, List.length_cons]
        omega
      · rw [step_enter hfollows hpath hentered]
        have htarget : l.target ∈ t.ids := hwaits.target_mem
        have hjoin : ∀ x ∈ (id :: outer.map Frame.id).head?, t.Waits x l.target :=
          fun x hx => Option.mem_some_iff.1 hx ▸ hwaits
        have hmono : ∀ x ∈ entered, x ∈ l.target :: entered :=
          fun x hx => List.mem_cons_of_mem _ hx
        have hlooked := (hsettled.mono hmono).look fun _ => ⟨List.mem_cons_self, hpath⟩
        refine .next ⟨hwalk.enter htarget hentered hjoin, hlooked.enter l.target⟩ ?_
        have hcount := untouched_eq_add htarget hentered
        simp only [remaining, List.map_cons, List.sum_cons, List.length_cons]
        omega
  · rw [step_skip hfollows]
    refine .next ⟨hwalk, hsettled.look fun hf => absurd hf hfollows⟩ ?_
    simp only [remaining, List.map_cons, List.sum_cons, List.length_cons]
    omega

theorem advances_step {t : Topology} {s : Search} (h : Sound t s) : Advances t s (step t s) := by
  obtain ⟨roots, entered, frames⟩ := s
  match frames with
  | [] => exact advances_root h
  | ⟨_, []⟩ :: _ => exact advances_leave h
  | ⟨_, _ :: _⟩ :: _ => exact advances_look h

/-! ## Runs -/

theorem run_cases {t : Topology} (n : Nat) {s : Search} (h : Sound t s) (hn : remaining t s < n) :
    (run t n s = none ∧ t.Acyclic) ∨
      ∃ cycle, run t n s = some cycle ∧ IsSimpleCycle t cycle := by
  induction n generalizing s with
  | zero => omega
  | succ n ih =>
    rw [run]
    cases hstep : step t s with
    | next s' =>
      cases hstep ▸ advances_step h with
      | next hsound hlt => exact ih hsound (by omega)
    | found cycle =>
      cases hstep ▸ advances_step h with
      | found hcycle => exact Or.inr ⟨cycle, rfl, hcycle⟩
    | finished =>
      cases hstep ▸ advances_step h with
      | finished hacyclic => exact Or.inl ⟨rfl, hacyclic⟩

/-- Every edge leaves one node at most. -/
theorem sum_edgesFrom_le {ids : List String} (hids : ids.Nodup) (ls : List Link) :
    (ids.map fun id => (ls.filter fun l => l.source = id).length + 1).sum ≤
      ids.length + ls.length := by
  induction ids generalizing ls with
  | nil => exact Nat.zero_le _
  | cons id rest ih =>
    obtain ⟨hnot, hrest⟩ := List.nodup_cons.1 hids
    have hothers : (rest.map fun x => (ls.filter fun l => l.source = x).length + 1) =
        rest.map fun x =>
          ((ls.filter fun l => !decide (l.source = id)).filter
            fun l => l.source = x).length + 1 := by
      refine List.map_congr_left fun x hx => ?_
      rw [List.filter_filter]
      refine congrArg (fun xs => List.length xs + 1) (List.filter_congr fun l _ => ?_)
      by_cases hs : l.source = x
      · have hne : ¬x = id := fun he => hnot (he ▸ hx)
        simp [hs, hne]
      · simp [hs]
    have hsplit := List.length_eq_length_filter_add (l := ls) fun l => decide (l.source = id)
    rw [List.map_cons, List.sum_cons, hothers, List.length_cons]
    have hle := ih hrest (ls.filter fun l => !decide (l.source = id))
    omega

theorem remaining_start_lt (t : Topology) : remaining t (.start t) < stepBound t := by
  have huntouched : untouched t [] =
      (t.ids.map fun id => (t.links.filter fun l => l.source = id).length + 1).sum := by
    simp only [untouched, Topology.edgesFrom_eq]
    rw [List.filter_eq_self.2 fun _ _ => decide_eq_true List.not_mem_nil]
  have hle := sum_edgesFrom_le (show t.ids.Nodup from t.nodup_ids) t.links
  have hsize : t.ids.length = t.size := List.length_map _
  simp only [remaining, Search.start, stepBound, List.map_nil, List.sum_nil]
  omega

/-- The search finds nothing in a graph without cycles, and a simple cycle in any
other. -/
theorem find?_cases (t : Topology) :
    (find? t = none ∧ t.Acyclic) ∨ ∃ cycle, find? t = some cycle ∧ IsSimpleCycle t cycle :=
  run_cases _ (sound_start t) (remaining_start_lt t)

theorem find?_eq_none_iff {t : Topology} : find? t = none ↔ t.Acyclic := by
  rcases find?_cases t with ⟨hnone, hacyclic⟩ | ⟨cycle, hsome, hcycle⟩
  · exact ⟨fun _ => hacyclic, fun _ => hnone⟩
  · rw [hsome]
    refine ⟨fun h => ?_, fun h => absurd h hcycle.not_acyclic⟩
    cases h

end Cycle

namespace Validation

theorem cycleFault_eq_none_iff {t : Topology} : cycleFault t = none ↔ t.Acyclic := by
  rw [cycleFault, Option.map_eq_none_iff, Cycle.find?_eq_none_iff]

/-- The check for cycles passes just the topologies without one, and its fault shows a
simple cycle. -/
theorem cycleFault_exact (t : Topology) :
    (cycleFault t = none ↔ t.Acyclic) ∧
      ∀ fault, cycleFault t = some fault →
        ∃ cycle, Cycle.IsSimpleCycle t cycle ∧
          fault = .cyclicDependency (String.intercalate " -> " cycle) cycle ∧
          fault.details = [("cycle", .texts cycle)] ∧
          fault.message = "Cyclic dependency detected: " ++ String.intercalate " -> " cycle := by
  refine ⟨cycleFault_eq_none_iff, ?_⟩
  intro fault hfault
  obtain ⟨cycle, hfind, rfl⟩ := Option.map_eq_some_iff.1 hfault
  rcases Cycle.find?_cases t with ⟨hnone, -⟩ | ⟨cycle', hsome, hsimple⟩
  · rw [hnone] at hfind
    cases hfind
  · obtain rfl := Option.some.inj (hfind.symm.trans hsome)
    exact ⟨cycle, hsimple, rfl, rfl, rfl⟩

end Validation
end Rollout
