import Mathlib.Algebra.Order.BigOperators.Group.List
import Mathlib.Algebra.Order.Group.Nat
import Rollout.Proofs.Validation.Cycle

/-
The search for cycles as a plain recursion. A descent goes through the edges of a node in
their order and into every target that was not visited before; a target on the path closes
a cycle. The frames of a search are the descents under way: the search goes on as the
descent through what its innermost frame has left, so that both meet the same cycle, or
none.
-/
namespace Rollout
namespace Cycle

/-! ## Descents -/

/-- What going through edges leads to: a cycle, or the nodes visited on the way, the last
one first. -/
inductive Descent where
  | found (cycle : List String)
  | visited (ids : List String)

theorem untouched_append_le (t : Topology) (ids visited : List String) :
    untouched t (ids ++ visited) ≤ untouched t visited := by
  have hsub : (t.ids.filter fun id => id ∉ ids ++ visited).Sublist
      (t.ids.filter fun id => id ∉ visited) :=
    List.monotone_filter_right _ fun id hid => by simp_all
  exact (hsub.map _).sum_le_sum fun _ _ => Nat.zero_le _

/-- Goes through edges of the last node of a path, with some nodes visited before: into
every target of a required dependency that is a node and was not visited. -/
def descend (t : Topology) (path visited : List String) : List Link → Descent
  | [] => .visited []
  | l :: rest =>
    if _ : l.edge.isStartup = true ∧ l.target ∈ t.ids then
      if l.target ∈ path then .found (path.dropWhile (· != l.target) ++ [l.target])
      else if _ : l.target ∈ visited then descend t path visited rest
      else
        match descend t (path ++ [l.target]) (l.target :: visited) (t.edgesFrom l.target) with
        | .found cycle => .found cycle
        | .visited inner =>
          match descend t path (inner ++ l.target :: visited) rest with
          | .found cycle => .found cycle
          | .visited later => .visited (later ++ inner ++ [l.target])
    else descend t path visited rest
-- Every call looks at an edge or visits a node; nodes stay visited.
termination_by ls => untouched t visited + ls.length
decreasing_by
  all_goals simp only [List.length_cons]
  · omega
  · rename_i hnode _ hnew
    have hcount := untouched_eq_add hnode.2 hnew
    omega
  · rename_i inner _ _
    have hle := untouched_append_le t (inner ++ [l.target]) visited
    rw [List.append_assoc, List.singleton_append] at hle
    omega
  · omega

/-- Descends from one root after the other, up to the first cycle. Roots that were visited
before are passed over. -/
def descendAll (t : Topology) (visited : List String) : List String → Option (List String)
  | [] => none
  | root :: roots =>
    if root ∈ visited then descendAll t visited roots
    else
      match descend t [root] (root :: visited) (t.edgesFrom root) with
      | .found cycle => some cycle
      | .visited inner => descendAll t (inner ++ root :: visited) roots

/-! ## Where a search ends -/

theorem run_of_le {t : Topology} {n m : Nat} {s : Search} (h : Sound t s) (hn : remaining t s < n)
    (hle : n ≤ m) : run t m s = run t n s := by
  induction n generalizing m s with
  | zero => omega
  | succ n ih =>
    obtain ⟨m, rfl⟩ : ∃ k, m = k + 1 := ⟨m - 1, by omega⟩
    rw [run, run]
    cases hstep : step t s with
    | next s' =>
      cases hstep ▸ advances_step h with
      | next hsound hlt => exact ih hsound (by omega) (by omega)
    | found cycle => rfl
    | finished => rfl

/-- The cycle that a search ends with, after all the steps that it can take. -/
def outcome (t : Topology) (s : Search) : Option (List String) := run t (remaining t s + 1) s

theorem find?_eq_outcome (t : Topology) : find? t = outcome t (.start t) :=
  run_of_le (sound_start t) (Nat.lt_succ_self _) (remaining_start_lt t)

theorem next_of_step {t : Topology} {s s' : Search} (h : Sound t s) (hstep : step t s = .next s') :
    Sound t s' ∧ outcome t s = outcome t s' := by
  cases hstep ▸ advances_step h with
  | next hsound hlt =>
    refine ⟨hsound, ?_⟩
    rw [outcome, run, hstep]
    exact run_of_le hsound (Nat.lt_succ_self _) hlt

theorem outcome_of_found {t : Topology} {s : Search} {cycle : List String}
    (hstep : step t s = .found cycle) : outcome t s = some cycle := by
  rw [outcome, run, hstep]

theorem outcome_of_finished {t : Topology} {s : Search} (hstep : step t s = .finished) :
    outcome t s = none := by
  rw [outcome, run, hstep]

/-! ## Frames as descents -/

/-- Where a search goes whose innermost frame does what a descent does: to the cycle of the
descent, or behind the frame with all that the descent visited. -/
def GoesOn (t : Topology) (roots entered : List String) (outer : List Frame) (s : Search) :
    Descent → Prop
  | .found cycle => outcome t s = some cycle
  | .visited ids =>
    Sound t ⟨roots, ids ++ entered, outer⟩ ∧ outcome t s = outcome t ⟨roots, ids ++ entered, outer⟩

section GoesOn

variable {t : Topology} {roots entered : List String} {outer : List Frame} {s s' : Search}
  {d : Descent}

theorem GoesOn.of_outcome_eq (h : GoesOn t roots entered outer s' d)
    (heq : outcome t s = outcome t s') : GoesOn t roots entered outer s d := by
  cases d with
  | found cycle => exact heq.trans h
  | visited ids => exact ⟨h.1, heq.trans h.2⟩

theorem GoesOn.of_next (h : Sound t s) (hstep : step t s = .next s')
    (hnext : Sound t s' → GoesOn t roots entered outer s' d) :
    GoesOn t roots entered outer s d := by
  obtain ⟨hsound, heq⟩ := next_of_step h hstep
  exact (hnext hsound).of_outcome_eq heq

/-- Behind a frame that is done the search goes on with the frame outside it. -/
theorem GoesOn.through {frame : Frame} {ids visited : List String}
    (h : GoesOn t roots visited (frame :: outer) s (.visited ids))
    (hnext : Sound t ⟨roots, ids ++ visited, frame :: outer⟩ →
      GoesOn t roots entered outer ⟨roots, ids ++ visited, frame :: outer⟩ d) :
    GoesOn t roots entered outer s d := by
  obtain ⟨hsound, heq⟩ := h
  exact (hnext hsound).of_outcome_eq heq

end GoesOn

/-- A frame is a descent through the edges it has left. -/
theorem goesOn_descend {t : Topology} {roots path entered : List String} {id : String}
    {ls : List Link} {outer : List Frame} (hpath : path = (id :: outer.map Frame.id).reverse)
    (h : Sound t ⟨roots, entered, ⟨id, ls⟩ :: outer⟩) :
    GoesOn t roots entered outer ⟨roots, entered, ⟨id, ls⟩ :: outer⟩
      (descend t path entered ls) := by
  fun_induction descend t path entered ls generalizing id outer with
  | case1 path entered => exact next_of_step h rfl
  | case2 path entered l rest hfollows honPath =>
    rw [hpath, List.mem_reverse] at honPath
    rw [hpath]
    exact outcome_of_found (step_close (follows_iff.2 hfollows) honPath)
  | case3 path entered l rest hfollows hoff hentered ih =>
    rw [hpath, List.mem_reverse] at hoff
    exact .of_next h (step_pass (follows_iff.2 hfollows) hoff hentered) (ih hpath)
  | case4 path entered l rest hfollows hoff hnew cycle hinner ih =>
    rw [hpath, List.mem_reverse] at hoff
    have hin := GoesOn.of_next h (step_enter (follows_iff.2 hfollows) hoff hnew)
      (ih (by simp [hpath]))
    rw [hinner] at hin
    exact hin
  | case5 path entered l rest hfollows hoff hnew inner hinner cycle hlater ihinner ihlater =>
    rw [hpath, List.mem_reverse] at hoff
    have hin := GoesOn.of_next h (step_enter (follows_iff.2 hfollows) hoff hnew)
      (ihinner (by simp [hpath]))
    rw [hinner] at hin
    have hon := hin.through (ihlater hpath)
    rw [hlater] at hon
    exact hon
  | case6 path entered l rest hfollows hoff hnew inner hinner later hlater ihinner ihlater =>
    rw [hpath, List.mem_reverse] at hoff
    have hin := GoesOn.of_next h (step_enter (follows_iff.2 hfollows) hoff hnew)
      (ihinner (by simp [hpath]))
    rw [hinner] at hin
    have hon := hin.through (ihlater hpath)
    rw [hlater] at hon
    simpa only [GoesOn, List.append_assoc, List.singleton_append] using hon
  | case7 path entered l rest hskip ih =>
    exact .of_next h (step_skip fun hf => hskip (follows_iff.1 hf)) (ih hpath)

theorem outcome_eq_descendAll {t : Topology} {roots entered : List String}
    (h : Sound t ⟨roots, entered, []⟩) :
    outcome t ⟨roots, entered, []⟩ = descendAll t entered roots := by
  fun_induction descendAll t entered roots with
  | case1 entered => exact outcome_of_finished rfl
  | case2 entered root roots hentered ih =>
    obtain ⟨hsound, heq⟩ := next_of_step h (step_dropRoot hentered)
    exact heq.trans (ih hsound)
  | case3 entered root roots hnew cycle hfound =>
    have hon := GoesOn.of_next h (step_root hnew) (goesOn_descend rfl)
    rw [List.map_nil, List.reverse_singleton, hfound] at hon
    exact hon
  | case4 entered root roots hnew inner hinner ih =>
    have hon := GoesOn.of_next h (step_root hnew) (goesOn_descend rfl)
    rw [List.map_nil, List.reverse_singleton, hinner] at hon
    obtain ⟨hsound, heq⟩ := hon
    exact heq.trans (ih hsound)

theorem find?_eq_descendAll (t : Topology) : find? t = descendAll t [] t.ids :=
  (find?_eq_outcome t).trans (outcome_eq_descendAll (sound_start t))

end Cycle

namespace Validation

/-- The check for cycles reports the cycle that the recursion meets first. -/
theorem cycleFault_eq_descendAll (t : Topology) :
    cycleFault t = (Cycle.descendAll t [] t.ids).map fun cycle =>
      .cyclicDependency (String.intercalate " -> " cycle) cycle := by
  rw [cycleFault, Cycle.find?_eq_descendAll]
  rfl

end Validation
end Rollout
