import Rollout.Proofs.Schedule.StartOrder

/-
What the start order depends on. The sweep reads the edges one by one, but the order it
ends with is settled by the startup graph alone: after every beginning there is one id
that may come next, and the sweep stops only where there is none. Two topologies with one
graph therefore have one order, or the same fault.
-/
namespace Rollout

/-- Two topologies with the same ids, among which the same pairs wait. -/
structure Topology.SameGraph (t t' : Topology) : Prop where
  mem_ids : ∀ id, id ∈ t.ids ↔ id ∈ t'.ids
  waits : ∀ a b, t.Waits a b ↔ t'.Waits a b

namespace Schedule

open Text

/-! ## One way to go on -/

theorem Greedy.head_eq {t : Topology} {placed xs ys : List String} {x y : String}
    (hx : Greedy t placed (x :: xs)) (hy : Greedy t placed (y :: ys)) : x = y := by
  obtain ⟨⟨hfreex, hleastx⟩, -⟩ := hx
  obtain ⟨⟨hfreey, hleasty⟩, -⟩ := hy
  rcases hleastx y hfreey with rfl | hxy
  · rfl
  · exact (hleasty x hfreex).resolve_right (precedes_asymm hxy)

/-- Greedy orders that nothing can be added to are the same. -/
theorem Greedy.eq_of_exhausted {t : Topology} {placed xs ys : List String}
    (hx : Greedy t placed xs) (hy : Greedy t placed ys)
    (hxend : ∀ id, ¬Free t (placed ++ xs) id) (hyend : ∀ id, ¬Free t (placed ++ ys) id) :
    xs = ys := by
  induction xs generalizing placed ys with
  | nil =>
    cases ys with
    | nil => rfl
    | cons y ys =>
      rw [List.append_nil] at hxend
      exact absurd hy.1.1 (hxend y)
  | cons x xs ih =>
    cases ys with
    | nil =>
      rw [List.append_nil] at hyend
      exact absurd hx.1.1 (hyend x)
    | cons y ys =>
      -- With one head the two orders go on from the same placed ids.
      obtain rfl := hx.head_eq hy
      rw [List.append_cons] at hxend hyend
      rw [ih hx.2 hy.2 hxend hyend]

theorem sorted_congr {ids ids' : List String} (h : ids.Perm ids') : sorted ids = sorted ids' := by
  have hperm := (sorted_perm ids).trans (h.trans (sorted_perm ids').symm)
  refine hperm.eq_of_pairwise ?_ (ascending_sorted ids) (ascending_sorted ids')
  intro a b _ _ hba hab
  by_contra hne
  exact (precedes_total hne).elim hab hba

end Schedule

namespace Topology.SameGraph

open Schedule

variable {t t' : Topology}

theorem symm (h : t.SameGraph t') : t'.SameGraph t :=
  ⟨fun id => (h.mem_ids id).symm, fun a b => (h.waits a b).symm⟩

theorem ids_perm (h : t.SameGraph t') : t.ids.Perm t'.ids :=
  (List.perm_ext_iff_of_nodup t.nodup_ids t'.nodup_ids).2 h.mem_ids

theorem size_eq (h : t.SameGraph t') : t.size = t'.size := by
  have hlen := h.ids_perm.length_eq
  rwa [ids, ids, List.length_map, List.length_map] at hlen

theorem acyclic_iff (h : t.SameGraph t') : t.Acyclic ↔ t'.Acyclic := by
  have hwaits : t.Waits = t'.Waits := funext fun a => funext fun b => propext (h.waits a b)
  rw [Acyclic, Acyclic, hwaits]

theorem free_iff (h : t.SameGraph t') {placed : List String} {id : String} :
    Free t placed id ↔ Free t' placed id := by
  constructor
  · exact fun hf => ⟨(h.mem_ids id).1 hf.mem, hf.not_placed,
      fun dep hdep => hf.supported dep ((h.waits id dep).2 hdep)⟩
  · exact fun hf => ⟨(h.mem_ids id).2 hf.mem, hf.not_placed,
      fun dep hdep => hf.supported dep ((h.waits id dep).1 hdep)⟩

theorem greedy (h : t.SameGraph t') {placed xs : List String} (hx : Greedy t placed xs) :
    Greedy t' placed xs := by
  induction xs generalizing placed with
  | nil => trivial
  | cons x xs ih =>
    obtain ⟨⟨hfree, hleast⟩, hrest⟩ := hx
    exact ⟨⟨h.free_iff.1 hfree, fun other hother => hleast other (h.free_iff.2 hother)⟩, ih hrest⟩

theorem order_completed_eq (h : t.SameGraph t') : (completed t).order = (completed t').order := by
  refine (sound_completed t).greedy.eq_of_exhausted (h.symm.greedy (sound_completed t').greedy)
    (not_free_completed t) fun id hfree => ?_
  exact not_free_completed t' id (h.free_iff.1 hfree)

theorem compute_eq (h : t.SameGraph t') : compute t = compute t' := by
  have hleft : (t.ids.filter fun id => !(completed t').order.contains id).Perm
      (t'.ids.filter fun id => !(completed t').order.contains id) := h.ids_perm.filter _
  simp only [compute, h.order_completed_eq, h.size_eq, sorted_congr hleft]

end Topology.SameGraph

namespace Schedule

/-! ## The graph as data -/

/-- The pairs of the startup graph, one for each edge behind them. -/
def arcs (t : Topology) : List (String × String) :=
  (t.links.filter (isOrdering t)).map fun l => (l.source, l.target)

theorem mem_arcs_iff {t : Topology} {a b : String} : (a, b) ∈ arcs t ↔ t.Waits a b := by
  rw [waits_iff_exists_ordering, arcs, List.mem_map]
  constructor
  · rintro ⟨l, hl, hpair⟩
    obtain ⟨hlinks, hordering⟩ := List.mem_filter.1 hl
    obtain ⟨rfl, rfl⟩ := Prod.mk.inj hpair
    exact ⟨l, hlinks, hordering, rfl, rfl⟩
  · rintro ⟨l, hlinks, hordering, rfl, rfl⟩
    exact ⟨l, List.mem_filter.2 ⟨hlinks, hordering⟩, rfl⟩

theorem sameGraph_iff {t t' : Topology} :
    t.SameGraph t' ↔ (t.ids ⊆ t'.ids ∧ t'.ids ⊆ t.ids) ∧ arcs t ⊆ arcs t' ∧ arcs t' ⊆ arcs t := by
  constructor
  · rintro ⟨hids, hwaits⟩
    refine ⟨⟨fun id => (hids id).1, fun id => (hids id).2⟩, ?_, ?_⟩
    · rintro ⟨a, b⟩ hab
      exact mem_arcs_iff.2 ((hwaits a b).1 (mem_arcs_iff.1 hab))
    · rintro ⟨a, b⟩ hab
      exact mem_arcs_iff.2 ((hwaits a b).2 (mem_arcs_iff.1 hab))
  · rintro ⟨⟨hids, hids'⟩, harcs, harcs'⟩
    refine ⟨fun id => ⟨fun h => hids h, fun h => hids' h⟩, fun a b => ⟨fun h => ?_, fun h => ?_⟩⟩
    · exact mem_arcs_iff.1 (harcs (mem_arcs_iff.2 h))
    · exact mem_arcs_iff.1 (harcs' (mem_arcs_iff.2 h))

instance (t t' : Topology) : Decidable (t.SameGraph t') := decidable_of_iff _ sameGraph_iff.symm

/-- The outcome is a matter of the ids and of the pairs that wait. What the nodes are, how
often a pair is linked and what else the edges say does not show in it. -/
theorem compute_eq_of_same_pairs (t t' : Topology) (hids : ∀ id, id ∈ t.ids ↔ id ∈ t'.ids)
    (hpairs : ∀ a b, t.Waits a b ↔ t'.Waits a b) : compute t = compute t' :=
  Topology.SameGraph.compute_eq ⟨hids, hpairs⟩

open Catalog in
/-- The pairs of `layered` among other units: the nodes in another order, the edges too,
another pair linked twice, and other edges beside them. -/
def relayered : Topology where
  vertices :=
    [⟨"bus", .messageBus ⟨"events", .nats, 3, true, []⟩⟩,
      ⟨"web", .service ⟨"front", "serve", ["--all"], [("PORT", "80")], some 80, none, .empty⟩⟩,
      ⟨"db", .database ⟨"records", .postgres, "16", true, none, .empty⟩⟩,
      ⟨"api", .agent ⟨"api", ["read"], [], none, .empty⟩⟩]
  links :=
    [⟨"api", "bus", .dependsOn true (some (.finite 5))⟩, ⟨"bus", "web", .dependsOn false none⟩,
      ⟨"api", "db", .dependsOn true none⟩, ⟨"db", "bus", .manages [.restart]⟩,
      ⟨"vault", "api", .dependsOn true none⟩, ⟨"api", "db", .dependsOn true none⟩,
      ⟨"web", "api", .dependsOn true none⟩, ⟨"db", "web", .connectsTo .http 80 false⟩]
  nodup_ids := by decide

theorem compute_eq_of_same_pairs_layered :
    (∀ id, id ∈ layered.ids ↔ id ∈ relayered.ids) ∧
      (∀ a b, layered.Waits a b ↔ relayered.Waits a b) ∧ layered ≠ relayered ∧
      compute layered = compute relayered ∧
      compute relayered = .ok ["bus", "db", "api", "web"] := by
  have hsame : layered.SameGraph relayered := by decide
  have hne : layered ≠ relayered := fun h => absurd (congrArg Topology.ids h) (by decide)
  have heq := compute_eq_of_same_pairs layered relayered hsame.mem_ids hsame.waits
  have hvalue : compute layered = .ok ["bus", "db", "api", "web"] := by decide +kernel
  exact ⟨hsame.mem_ids, hsame.waits, hne, heq, heq.symm.trans hvalue⟩

end Schedule
end Rollout
