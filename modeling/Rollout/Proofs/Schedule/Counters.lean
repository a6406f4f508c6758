import Rollout.Proofs.Topology.Startup
import Rollout.Schedule.Sweep

/-
What the counters of a sweep count: for every node, the startup edges to nodes that are
not placed yet. The counters before a sweep do, and placing a node changes them by the
edges that reach it.
-/
namespace Rollout
namespace Schedule

namespace Counters

theorem keys_add (c : Counters) (id : String) (d : Int) :
    (c.add id d).map (·.1) = c.map (·.1) := by
  induction c with
  | nil => rfl
  | cons entry rest ih =>
    obtain ⟨k, n⟩ := entry
    by_cases hk : k = id
    · simp only [add, if_pos hk, List.map_cons]
    · simp only [add, if_neg hk, List.map_cons, ih]

theorem get_add_self {c : Counters} {id : String} (h : id ∈ c.map (·.1)) (d : Int) :
    (c.add id d).get id = c.get id + d := by
  induction c with
  | nil => cases h
  | cons entry rest ih =>
    obtain ⟨k, n⟩ := entry
    by_cases hk : k = id
    · simp only [add, if_pos hk, get]
    · have hrest : id ∈ rest.map (·.1) := (List.mem_cons.1 h).resolve_left fun he => hk he.symm
      simp only [add, if_neg hk, get, ih hrest]

theorem get_add_of_ne {id other : String} (hne : other ≠ id) (c : Counters) (d : Int) :
    (c.add id d).get other = c.get other := by
  induction c with
  | nil => rfl
  | cons entry rest ih =>
    obtain ⟨k, n⟩ := entry
    by_cases hk : k = id
    · have hother : ¬k = other := fun he => hne (he ▸ hk)
      simp only [add, if_pos hk, get, if_neg hother]
    · simp only [add, if_neg hk, get, ih]

/-- Where no key occurs twice, the entries are the keys with their counters. -/
theorem mem_iff {c : Counters} (hn : (c.map (·.1)).Nodup) {id : String} {n : Int} :
    (id, n) ∈ c ↔ id ∈ c.map (·.1) ∧ c.get id = n := by
  induction c with
  | nil => simp
  | cons entry rest ih =>
    obtain ⟨k, m⟩ := entry
    obtain ⟨hk, hrest⟩ := List.nodup_cons.1 hn
    rw [List.mem_cons, List.map_cons, List.mem_cons, ih hrest, get]
    by_cases hkid : k = id
    · subst hkid
      simp only [if_true, Prod.mk.injEq, true_and, true_or]
      exact ⟨fun h => h.elim Eq.symm fun h => absurd h.1 hk, fun h => Or.inl h.symm⟩
    · have hne : ¬(id, n) = (k, m) := fun h => hkid (congrArg Prod.fst h).symm
      have hne' : ¬id = k := fun h => hkid h.symm
      rw [if_neg hkid]
      simp only [hne, hne', false_or]

/-- Counting links by their source raises every counter by the links of its id. -/
theorem get_foldl_add (ls : List Link) {c : Counters}
    (h : ∀ l ∈ ls, l.source ∈ c.map (·.1)) (id : String) :
    (ls.foldl (fun c l => c.add l.source 1) c).get id =
      c.get id + (ls.countP fun l => l.source = id : Nat) := by
  induction ls generalizing c with
  | nil => simp
  | cons l rest ih =>
    have hl : l.source ∈ c.map (·.1) := h l List.mem_cons_self
    have hrest : ∀ l' ∈ rest, l'.source ∈ (c.add l.source 1).map (·.1) := by
      intro l' hl'
      rw [keys_add]
      exact h l' (List.mem_cons_of_mem l hl')
    rw [List.foldl_cons, ih hrest, List.countP_cons]
    by_cases hid : l.source = id
    · subst hid
      rw [get_add_self hl]
      simp only [decide_true, if_true]
      omega
    · rw [get_add_of_ne (fun he => hid he.symm)]
      simp only [hid, decide_false, Bool.false_eq_true, if_false, Nat.add_zero]

theorem keys_foldl_add (ls : List Link) (c : Counters) :
    (ls.foldl (fun c l => c.add l.source 1) c).map (·.1) = c.map (·.1) := by
  induction ls generalizing c with
  | nil => rfl
  | cons l rest ih => rw [List.foldl_cons, ih, keys_add]

theorem get_zeros (ids : List String) (id : String) :
    get (ids.map fun id => (id, 0)) id = 0 := by
  induction ids with
  | nil => rfl
  | cons k rest ih => rw [List.map_cons, get, ih, ite_self]

end Counters

/-! ## Ordering edges -/

theorem isOrdering_iff {t : Topology} {l : Link} :
    isOrdering t l = true ↔ l.edge.isStartup = true ∧ l.source ∈ t.ids ∧ l.target ∈ t.ids := by
  rw [isOrdering, Bool.and_eq_true, Bool.and_eq_true, Topology.hasNode_iff, Topology.hasNode_iff,
    and_assoc]

theorem waits_iff_exists_ordering {t : Topology} {a b : String} :
    t.Waits a b ↔ ∃ l ∈ t.links, isOrdering t l = true ∧ l.source = a ∧ l.target = b := by
  rw [Topology.waits_iff_exists_link]
  constructor
  · rintro ⟨ha, hb, l, hl, he, rfl, rfl⟩
    exact ⟨l, hl, isOrdering_iff.2 ⟨he, ha, hb⟩, rfl, rfl⟩
  · rintro ⟨l, hl, ho, rfl, rfl⟩
    obtain ⟨he, ha, hb⟩ := isOrdering_iff.1 ho
    exact ⟨ha, hb, l, hl, he, rfl, rfl⟩

/-- How many startup edges lead from a node to nodes that are not placed. -/
def waiting (t : Topology) (placed : List String) (id : String) : Nat :=
  t.links.countP fun l => isOrdering t l && decide (l.source = id) && !placed.contains l.target

theorem waiting_eq_zero_iff {t : Topology} {placed : List String} {id : String} :
    waiting t placed id = 0 ↔ ∀ dep, t.Waits id dep → dep ∈ placed := by
  rw [waiting, List.countP_eq_zero]
  constructor
  · intro h dep hdep
    obtain ⟨l, hl, ho, rfl, rfl⟩ := waits_iff_exists_ordering.1 hdep
    have hnot := h l hl
    simpa [ho] using hnot
  · intro h l hl hcount
    simp only [Bool.and_eq_true, decide_eq_true_eq, Bool.not_eq_true', List.contains_eq_mem,
      decide_eq_false_iff_not] at hcount
    obtain ⟨⟨ho, hs⟩, ht⟩ := hcount
    exact ht (h l.target (waits_iff_exists_ordering.2 ⟨l, hl, ho, hs, rfl⟩))

theorem countP_eq_add {α : Type} {p q r : α → Bool}
    (h : ∀ a, (if p a then 1 else 0) = (if q a then 1 else 0) + (if r a then 1 else 0))
    (xs : List α) : xs.countP p = xs.countP q + xs.countP r := by
  induction xs with
  | nil => rfl
  | cons a rest ih =>
    rw [List.countP_cons, List.countP_cons, List.countP_cons, ih, h a]
    omega

/-- Placing a node takes the edges that reach it out of the count. -/
theorem waiting_eq_add {t : Topology} {placed : List String} {id : String} (h : id ∉ placed)
    (x : String) :
    waiting t placed x = waiting t (placed ++ [id]) x +
      ((t.edgesTo id).filter (isOrdering t)).countP fun l => l.source = x := by
  rw [waiting, waiting, Topology.edgesTo_eq, List.countP_filter, List.countP_filter]
  apply countP_eq_add
  intro l
  by_cases hx : isOrdering t l = true ∧ l.source = x
  · obtain ⟨ho, hs⟩ := hx
    by_cases ht : l.target = id
    · simp [ho, hs, ht, h]
    · by_cases hp : l.target ∈ placed <;> simp [ho, hs, ht, hp]
  · rcases not_and_or.1 hx with ho | hs
    · simp [ho]
    · simp [hs]

theorem keys_initialCounters (t : Topology) : (initialCounters t).map (·.1) = t.ids := by
  rw [initialCounters, Counters.keys_foldl_add, List.map_map]
  exact List.map_id _

theorem get_initialCounters (t : Topology) (id : String) :
    (initialCounters t).get id = (waiting t [] id : Nat) := by
  have hkeys : ∀ l ∈ t.links.filter (isOrdering t),
      l.source ∈ (t.ids.map fun id => (id, (0 : Int))).map (·.1) := by
    intro l hl
    rw [List.map_map]
    exact List.mem_map.2 ⟨l.source, (isOrdering_iff.1 (List.mem_filter.1 hl).2).2.1, rfl⟩
  rw [initialCounters, Counters.get_foldl_add _ hkeys, Counters.get_zeros, Int.zero_add, waiting,
    List.countP_filter]
  congr 2
  funext l
  simp [Bool.and_comm]

end Schedule
end Rollout
