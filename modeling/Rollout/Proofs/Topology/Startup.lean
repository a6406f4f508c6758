import Mathlib.Data.Set.Finite.Basic
import Mathlib.Logic.Relation
import Mathlib.Order.WellFounded
import Rollout.Topology.Basic

/-
The startup graph of a topology: which node waits for which. Its nodes are the ids of
the topology, and an arc stands for one or more required dependencies between two of
them. What the order of a topology and the search for its cycles have in common is said
here.
-/
namespace Rollout
namespace Topology

open Relation

theorem nodup_vertices (t : Topology) : t.vertices.Nodup := List.Nodup.of_map _ t.nodup_ids

/-! ## Look-ups as scans -/

theorem hasNode_iff {t : Topology} {id : String} : t.hasNode id = true ↔ id ∈ t.ids := by
  simp [hasNode, ids]

theorem edgesFrom_eq (t : Topology) (id : String) :
    t.edgesFrom id = t.links.filter fun l => l.source = id := by
  rw [edgesFrom, t.outgoing_eq, Grouping.find_ofList, Grouping.scan]
  induction t.links with
  | nil => rfl
  | cons l rest ih => by_cases h : l.source = id <;> simp_all

theorem edgesTo_eq (t : Topology) (id : String) :
    t.edgesTo id = t.links.filter fun l => l.target = id := by
  rw [edgesTo, t.incoming_eq, Grouping.find_ofList, Grouping.scan]
  induction t.links with
  | nil => rfl
  | cons l rest ih => by_cases h : l.target = id <;> simp_all

theorem mem_edgesFrom {t : Topology} {id : String} {l : Link} :
    l ∈ t.edgesFrom id ↔ l ∈ t.links ∧ l.source = id := by
  rw [edgesFrom_eq, List.mem_filter, decide_eq_true_iff]

theorem mem_edgesTo {t : Topology} {id : String} {l : Link} :
    l ∈ t.edgesTo id ↔ l ∈ t.links ∧ l.target = id := by
  rw [edgesTo_eq, List.mem_filter, decide_eq_true_iff]

theorem vertex?_isSome_iff {t : Topology} {id : String} :
    (t.vertex? id).isSome = true ↔ id ∈ t.ids := by
  simp [vertex?, ids]

/-- The nodes are told apart by their ids. -/
theorem eq_of_id_eq {t : Topology} {v w : Vertex} (hv : v ∈ t.vertices) (hw : w ∈ t.vertices)
    (h : v.id = w.id) : v = w := List.inj_on_of_nodup_map t.nodup_ids hv hw h

theorem vertex?_eq_some_iff {t : Topology} {id : String} {v : Vertex} :
    t.vertex? id = some v ↔ v ∈ t.vertices ∧ v.id = id := by
  have hfound : ∀ {w : Vertex}, t.vertex? id = some w → w ∈ t.vertices ∧ w.id = id := by
    intro w hw
    have hid := List.find?_some hw
    exact ⟨List.mem_of_find?_eq_some hw, of_decide_eq_true hid⟩
  refine ⟨hfound, fun ⟨hv, hid⟩ => ?_⟩
  have hmem : id ∈ t.ids := hid ▸ List.mem_map_of_mem hv
  obtain ⟨w, hw⟩ := Option.isSome_iff_exists.1 (vertex?_isSome_iff.2 hmem)
  obtain ⟨hwt, hwid⟩ := hfound hw
  rw [hw, eq_of_id_eq hwt hv (hwid.trans hid.symm)]

/-! ## Arcs -/

/-- One node waits for another: both are nodes of the topology, and the first requires
the second. -/
def Waits (t : Topology) (a b : String) : Prop :=
  a ∈ t.ids ∧ b ∈ t.ids ∧ ∃ delay, (⟨a, b, .dependsOn true delay⟩ : Link) ∈ t.links

/-- No chain of waiting nodes comes back to its start. A node that waits for itself is
such a chain. -/
def Acyclic (t : Topology) : Prop := ∀ id, ¬TransGen t.Waits id id

theorem isStartup_iff {e : Catalog.Edge} :
    e.isStartup = true ↔ ∃ delay, e = .dependsOn true delay := by
  cases e <;> simp [Catalog.Edge.isStartup]

theorem waits_iff_exists_link {t : Topology} {a b : String} :
    t.Waits a b ↔ a ∈ t.ids ∧ b ∈ t.ids ∧
      ∃ l ∈ t.links, l.edge.isStartup = true ∧ l.source = a ∧ l.target = b := by
  unfold Waits
  refine and_congr_right fun _ => and_congr_right fun _ => ⟨?_, ?_⟩
  · rintro ⟨delay, hl⟩
    exact ⟨_, hl, isStartup_iff.2 ⟨delay, rfl⟩, rfl, rfl⟩
  · rintro ⟨⟨source, target, edge⟩, hl, he, rfl, rfl⟩
    obtain ⟨delay, rfl⟩ := isStartup_iff.1 he
    exact ⟨delay, hl⟩

theorem Waits.source_mem {t : Topology} {a b : String} (h : t.Waits a b) : a ∈ t.ids := h.1

theorem Waits.target_mem {t : Topology} {a b : String} (h : t.Waits a b) : b ∈ t.ids := h.2.1

/-! ## Cycles -/

/-- A cycle can be reached from a node, which may be on the cycle itself. -/
def LeadsToCycle (t : Topology) (id : String) : Prop :=
  ∃ c, ReflTransGen t.Waits id c ∧ TransGen t.Waits c c

theorem LeadsToCycle.not_acyclic {t : Topology} {id : String} (h : t.LeadsToCycle id) :
    ¬t.Acyclic := by
  obtain ⟨c, -, hc⟩ := h
  exact fun hacyclic => hacyclic c hc

/-- Where nobody in a list is the last of its chain, every chain in it runs into a
cycle. -/
theorem exists_cycle_of_forall_exists {α : Type} {r : α → α → Prop} {xs : List α}
    (h : ∀ a ∈ xs, ∃ b ∈ xs, r a b) {x : α} (hx : x ∈ xs) :
    ∃ c, ReflTransGen r x c ∧ TransGen r c c := by
  by_contra hno
  have hacyclic : ∀ c, ReflTransGen r x c → ¬TransGen r c c :=
    fun c hc hcc => hno ⟨c, hc, hcc⟩
  -- Without a cycle the reachable members, being finitely many, have one that reaches no
  -- other, but it has a successor among them.
  let later : {a // a ∈ xs ∧ ReflTransGen r x a} → {a // a ∈ xs ∧ ReflTransGen r x a} → Prop :=
    fun b a => TransGen r a.1 b.1
  have hfinite : Finite {a // a ∈ xs ∧ ReflTransGen r x a} :=
    ((List.finite_toSet xs).subset fun _ ha => ha.1 : {a | a ∈ xs ∧ ReflTransGen r x a}.Finite)
  have htrans : IsTrans _ later := ⟨fun a b c hab hbc => TransGen.trans hbc hab⟩
  have hirrefl : Std.Irrefl later := ⟨fun a => hacyclic a.1 a.2.2⟩
  have hwf : WellFounded later := Finite.wellFounded_of_trans_of_irrefl later
  obtain ⟨m, -, hmin⟩ := hwf.has_min Set.univ ⟨⟨x, hx, .refl⟩, trivial⟩
  obtain ⟨b, hb, hmb⟩ := h m.1 m.2.1
  exact hmin ⟨b, hb, m.2.2.tail hmb⟩ trivial (.single hmb)

/-- Nodes that can be numbered so that every one waits for smaller numbers only have no
cycle. -/
theorem acyclic_of_rank {t : Topology} (rank : String → Nat)
    (h : ∀ a b, t.Waits a b → rank b < rank a) : t.Acyclic := by
  have hlt : ∀ a b, TransGen t.Waits a b → rank b < rank a := by
    intro a b hab
    induction hab with
    | single hab => exact h _ _ hab
    | tail _ hbc ih => exact Nat.lt_trans (h _ _ hbc) ih
  intro id hid
  exact Nat.lt_irrefl _ (hlt id id hid)

end Topology
end Rollout
