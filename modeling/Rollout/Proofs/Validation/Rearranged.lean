import Rollout.Proofs.Schedule.Graph
import Rollout.Proofs.Validation.Criteria

/-
Verdicts on rearranged topologies. What a check looks for does not depend on the order in
which nodes and edges are given, only what it finds first does. So a rearranged topology
fails the same checks, and since these are tried in a fixed order, with the same sort of
fault.
-/
namespace Rollout

/-- The same nodes and edges, in whatever order. -/
structure Topology.Rearranged (t t' : Topology) : Prop where
  vertices : t.vertices.Perm t'.vertices
  links : t.links.Perm t'.links

namespace Topology.Rearranged

variable {t t' : Topology}

theorem mem_vertices (h : t.Rearranged t') {v : Vertex} : v ∈ t.vertices ↔ v ∈ t'.vertices :=
  h.vertices.mem_iff

theorem mem_links (h : t.Rearranged t') {l : Link} : l ∈ t.links ↔ l ∈ t'.links :=
  h.links.mem_iff

theorem mem_ids (h : t.Rearranged t') {id : String} : id ∈ t.ids ↔ id ∈ t'.ids :=
  (h.vertices.map Vertex.id).mem_iff

theorem sameGraph (h : t.Rearranged t') : t.SameGraph t' := by
  refine ⟨fun _ => h.mem_ids, fun a b => ?_⟩
  simp only [Waits, h.mem_ids, h.mem_links]

theorem vertex?_eq (h : t.Rearranged t') : t.vertex? = t'.vertex? := by
  funext id
  refine Option.ext fun v => ?_
  rw [vertex?_eq_some_iff, vertex?_eq_some_iff, h.mem_vertices]

end Topology.Rearranged

namespace Validation

open Rollout.Topology

variable {p : Policy} {t t' : Topology}

/-- A check finds something in both or in neither. -/
theorem fault?_eq_none_congr [RightCommutative p.add] (h : t.Rearranged t') (c : Check) :
    c.fault? p t = none ↔ c.fault? p t' = none := by
  -- Each check is replaced by its condition, which is said of members; the totals alone are
  -- a matter of the whole list.
  cases c with
  | cycles =>
    simp only [Check.fault?, cycleFault_eq_none_iff]
    exact h.sameGraph.acyclic_iff
  | dependencies =>
    simp only [Check.fault?, targetFault_eq_none_iff, TargetsPresent, h.mem_links, h.mem_ids]
  | ports => simp only [Check.fault?, portFault_eq_none_iff, PortsExclusive, h.mem_vertices]
  | resources => rw [Check.fault?, Check.fault?, totalsWith_perm h.vertices]
  | storage => simp only [Check.fault?, mountFault_eq_none_iff, MountsExclusive, h.mem_links]
  | nodeConfig => simp only [Check.fault?, nodeFault_eq_none_iff, NodesWellFormed, h.mem_vertices]
  | orphans =>
    simp only [Check.fault?, orphanFault_eq_none_iff, Attached, h.sameGraph.size_eq,
      h.mem_vertices, h.mem_links]

/-! ## Verdicts by sort -/

theorem firstFault_map_fst :
    (firstFault p t).map Prod.fst = p.checks.find? fun c => (c.fault? p t).isSome := by
  rw [firstFault, List.map_findSome?, List.find?_eq_findSome?_guard]
  congr 1
  funext c
  cases hfault : c.fault? p t <;> simp [Option.guard, hfault]

/-- The sort of a verdict is settled by the first check that finds something. -/
theorem mapError_kind_validate :
    (validate p t).result.mapError Fault.kind =
      match p.checks.find? fun c => (c.fault? p t).isSome with
      | some c => .error c.faultKind
      | none => .ok () := by
  rw [← firstFault_map_fst]
  cases hfirst : firstFault p t with
  | none => simp only [validate, hfirst, Option.map_none, Except.mapError]
  | some found =>
    obtain ⟨c, fault⟩ := found
    obtain ⟨-, -, -, hfault, -⟩ := firstFault_eq_some_iff.1 hfirst
    simp only [validate, hfirst, Option.map_some, Except.mapError, Check.kind_of_fault? hfault]

theorem mapError_kind_validate_congr [RightCommutative p.add] (h : t.Rearranged t') :
    (validate p t).result.mapError Fault.kind = (validate p t').result.mapError Fault.kind := by
  have hfails : (fun c : Check => (c.fault? p t).isSome) = fun c => (c.fault? p t').isSome := by
    funext c
    rw [Bool.eq_iff_iff, Option.isSome_iff_ne_none, Option.isSome_iff_ne_none]
    exact not_congr (fault?_eq_none_congr h c)
  rw [mapError_kind_validate, mapError_kind_validate, hfails]

theorem mapError_eq_ok_iff {ε ε' α : Type} {f : ε → ε'} {r : Except ε α} {a : α} :
    r.mapError f = .ok a ↔ r = .ok a := by
  cases r <;> simp [Except.mapError]

theorem result_validate_eq_ok_congr [RightCommutative p.add] (h : t.Rearranged t') :
    (validate p t).result = .ok () ↔ (validate p t').result = .ok () := by
  rw [← mapError_eq_ok_iff (f := Fault.kind), mapError_kind_validate_congr h, mapError_eq_ok_iff]

end Validation
end Rollout
