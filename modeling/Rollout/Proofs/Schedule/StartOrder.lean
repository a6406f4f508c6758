import Rollout.Proofs.Schedule.Sweep

/-
The start order. A topology has one exactly when its startup graph has no cycle, and the
order that the sweep finds is then the least of all start orders: wherever another one
parts from it, the sweep had the choice between both nodes and took the smaller.
-/
namespace Rollout
namespace Schedule

open Text

/-- An order in which every node stands once, after everything it waits for. -/
structure IsStartOrder (t : Topology) (order : List String) : Prop where
  nodup : order.Nodup
  mem_iff : ∀ id, id ∈ order ↔ id ∈ t.ids
  before : ∀ a b, t.Waits a b → order.idxOf b < order.idxOf a

/-- The lexicographic order of lists of ids, equal lists included. -/
def LexLe (xs ys : List String) : Prop :=
  xs = ys ∨ List.Lex (fun a b => precedes a b = true) xs ys

theorem IsStartOrder.perm {t : Topology} {order : List String} (h : IsStartOrder t order) :
    order.Perm t.ids := (List.perm_ext_iff_of_nodup h.nodup t.nodup_ids).2 h.mem_iff

theorem IsStartOrder.length_eq {t : Topology} {order : List String} (h : IsStartOrder t order) :
    order.length = t.size := by
  rw [h.perm.length_eq, Topology.ids, List.length_map]
  rfl

theorem IsStartOrder.pairwise_not_waits {t : Topology} {order : List String}
    (h : IsStartOrder t order) : order.Pairwise fun a b => ¬t.Waits a b := by
  refine List.pairwise_iff_getElem.2 fun i j hi hj hij hwaits => ?_
  have hlt := h.before _ _ hwaits
  rw [h.nodup.idxOf_getElem, h.nodup.idxOf_getElem] at hlt
  omega

/-- In a start order every id is free when its turn comes. -/
theorem IsStartOrder.free {t : Topology} {before after : List String} {id : String}
    (h : IsStartOrder t (before ++ id :: after)) : Free t before id := by
  have hnot : id ∉ before := by
    have hdisjoint := List.disjoint_of_nodup_append h.nodup
    exact fun hid => hdisjoint hid List.mem_cons_self
  refine ⟨(h.mem_iff id).1 (List.mem_append_right _ List.mem_cons_self), hnot, ?_⟩
  intro dep hdep
  by_contra hn
  have hlt := h.before id dep hdep
  rw [List.idxOf_append_of_notMem hn, List.idxOf_append_of_notMem hnot, List.idxOf_cons_self] at hlt
  omega

/-- What a placed node waits for is placed before it. -/
theorem Greedy.idxOf_lt {t : Topology} {order : List String} (h : Greedy t [] order) {a b : String}
    (ha : a ∈ order) (hab : t.Waits a b) : b ∈ order ∧ order.idxOf b < order.idxOf a := by
  obtain ⟨before, after, rfl⟩ := List.append_of_mem ha
  have hfree : Free t before a := h.free_of_eq_append rfl
  have hb : b ∈ before := hfree.supported b hab
  refine ⟨List.mem_append_left _ hb, ?_⟩
  rw [List.idxOf_append_of_mem hb, List.idxOf_append_of_notMem hfree.not_placed]
  have hlt := List.idxOf_lt_length_of_mem hb
  omega

theorem Greedy.isStartOrder {t : Topology} {order : List String} (h : Greedy t [] order)
    (hall : ∀ id ∈ t.ids, id ∈ order) : IsStartOrder t order :=
  ⟨h.nodup List.nodup_nil, fun id => ⟨h.mem_ids id, hall id⟩,
    fun a _ hab => (h.idxOf_lt (hall a hab.source_mem) hab).2⟩

/-- A greedy order comes no later than any start order with the same beginning. -/
theorem Greedy.lexLe {t : Topology} {placed xs ys : List String} (h : Greedy t placed xs)
    (hys : IsStartOrder t (placed ++ ys)) (hlen : xs.length = ys.length) : LexLe xs ys := by
  induction xs generalizing placed ys with
  | nil => exact Or.inl (List.length_eq_zero_iff.1 hlen.symm).symm
  | cons x xs ih =>
    cases ys with
    | nil => cases hlen
    | cons y ys =>
      obtain ⟨⟨-, hleast⟩, hrest⟩ := h
      rcases hleast y hys.free with heq | hprec
      · subst heq
        have hys' : IsStartOrder t ((placed ++ [y]) ++ ys) := by
          rwa [List.append_assoc, List.singleton_append]
        rcases ih hrest hys' (Nat.succ.inj hlen) with htail | htail
        · exact Or.inl (by rw [htail])
        · exact Or.inr (List.Lex.cons htail)
      · exact Or.inr (List.Lex.rel hprec)

/-! ## Success -/

theorem leadsToCycle_of_not_mem_completed {t : Topology} {id : String} (hid : id ∈ t.ids)
    (hnot : id ∉ (completed t).order) : t.LeadsToCycle id := by
  have hsucc : ∀ a ∈ t.ids.filter fun a => a ∉ (completed t).order,
      ∃ b ∈ t.ids.filter fun b => b ∉ (completed t).order, t.Waits a b := by
    intro a ha
    obtain ⟨hids, hout⟩ := List.mem_filter.1 ha
    obtain ⟨b, hab, hb⟩ := exists_waits_of_not_mem_completed hids (of_decide_eq_true hout)
    exact ⟨b, List.mem_filter.2 ⟨hab.target_mem, decide_eq_true hb⟩, hab⟩
  exact Topology.exists_cycle_of_forall_exists hsucc
    (List.mem_filter.2 ⟨hid, decide_eq_true hnot⟩)

theorem mem_completed_of_acyclic {t : Topology} (h : t.Acyclic) {id : String} (hid : id ∈ t.ids) :
    id ∈ (completed t).order := by
  by_contra hnot
  exact (leadsToCycle_of_not_mem_completed hid hnot).not_acyclic h

theorem isStartOrder_completed {t : Topology} (h : t.Acyclic) :
    IsStartOrder t (completed t).order :=
  (sound_completed t).greedy.isStartOrder fun _ => mem_completed_of_acyclic h

theorem compute_eq_ok_of_acyclic {t : Topology} (h : t.Acyclic) :
    compute t = .ok (completed t).order := by
  simp only [compute, if_pos (isStartOrder_completed h).length_eq]

theorem compute_eq_ok_iff {t : Topology} {order : List String} :
    compute t = .ok order ↔ (completed t).order.length = t.size ∧ (completed t).order = order := by
  simp only [compute]
  split
  · rename_i hlen
    exact ⟨fun h => ⟨hlen, Except.ok.inj h⟩, fun h => congrArg Except.ok h.2⟩
  · rename_i hlen
    refine ⟨fun h => ?_, fun h => absurd h.1 hlen⟩
    cases h

/-- An order that is found is a start order. -/
theorem isStartOrder_of_compute_eq_ok {t : Topology} {order : List String}
    (h : compute t = .ok order) : IsStartOrder t order := by
  obtain ⟨hlen, rfl⟩ := compute_eq_ok_iff.1 h
  have hsound := sound_completed t
  have hsub : (completed t).order.Subperm t.ids :=
    List.subperm_of_subset hsound.order_nodup hsound.greedy.mem_ids
  have hids : t.ids.length ≤ (completed t).order.length := by
    rw [hlen, Topology.ids, List.length_map]
    exact Nat.le_refl _
  exact hsound.greedy.isStartOrder fun id hid => (hsub.perm_of_length_le hids).mem_iff.2 hid

theorem acyclic_of_compute_eq_ok {t : Topology} {order : List String}
    (h : compute t = .ok order) : t.Acyclic :=
  Topology.acyclic_of_rank order.idxOf (isStartOrder_of_compute_eq_ok h).before

/-- Without a cycle the order exists, it is a start order, and no start order comes
before it. -/
theorem compute_least_of_acyclic (t : Topology) (h : t.Acyclic) :
    ∃ order, compute t = .ok order ∧ IsStartOrder t order ∧
      ∀ other, IsStartOrder t other → LexLe order other := by
  have hstart := isStartOrder_completed h
  refine ⟨(completed t).order, compute_eq_ok_of_acyclic h, hstart, ?_⟩
  intro other hother
  exact (sound_completed t).greedy.lexLe hother (hstart.length_eq.trans hother.length_eq.symm)

/-- A web tier over an API over its stores, with a parallel, a soft and a dangling
dependency among the edges. -/
def layered : Topology where
  vertices := ["web", "api", "db", "bus"].map fun id => ⟨id, .agent ⟨id, [], [], none, .empty⟩⟩
  links :=
    [⟨"web", "api", .dependsOn true none⟩, ⟨"api", "db", .dependsOn true none⟩,
      ⟨"web", "api", .dependsOn true none⟩, ⟨"api", "bus", .dependsOn true none⟩,
      ⟨"db", "web", .dependsOn false none⟩, ⟨"db", "vault", .dependsOn true none⟩]
  nodup_ids := by decide

theorem acyclic_layered : layered.Acyclic := by
  refine Topology.acyclic_of_rank (fun id => ["db", "bus", "api", "web"].idxOf id) ?_
  rintro a b ⟨-, hb, delay, hl⟩
  simp only [layered, List.mem_cons, Link.mk.injEq, Catalog.Edge.dependsOn.injEq, List.not_mem_nil,
    or_false] at hl
  rcases hl with ⟨rfl, rfl, -⟩ | ⟨rfl, rfl, -⟩ | ⟨rfl, rfl, -⟩ | ⟨rfl, rfl, -⟩ | ⟨-, -, h, -⟩ |
    ⟨-, rfl, -⟩
  · decide
  · decide
  · decide
  · decide
  · cases h
  · exact absurd hb (by decide)

theorem compute_least_layered :
    layered.Acyclic ∧ ∃ order, compute layered = .ok order ∧ IsStartOrder layered order ∧
      (∀ other, IsStartOrder layered other → LexLe order other) ∧
      order = ["bus", "db", "api", "web"] := by
  refine ⟨acyclic_layered, ?_⟩
  obtain ⟨order, horder, hstart, hleast⟩ := compute_least_of_acyclic layered acyclic_layered
  refine ⟨order, horder, hstart, hleast, ?_⟩
  have hvalue : compute layered = .ok ["bus", "db", "api", "web"] := by decide +kernel
  exact Except.ok.inj (horder.symm.trans hvalue)

end Schedule
end Rollout
