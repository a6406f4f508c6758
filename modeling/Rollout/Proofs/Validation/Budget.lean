import Rollout.Proofs.Number.Order
import Rollout.Proofs.Number.Sum
import Rollout.Validation.Budget

/-
Totals and ceilings. A total is a sum of figures, dimension by dimension. The comparison of
the check rejects, so a total that is no number would pass it; the footprints that can be
read never sum up to one.
-/
namespace Rollout

open Catalog

/-- No node has processors below zero, or a figure for them that is no number. -/
def Topology.FootprintsNonNegative (t : Topology) : Prop :=
  ∀ v ∈ t.vertices, ∀ r, v.node.resources? = some r →
    Number.zero.AtMost (r.cpuCores.getD .zero)

/-! ## Figures -/

/-- The figure of a footprint in a dimension, an absent one being zero. -/
def Catalog.Resources.figure (r : Resources) : Dimension → Number
  | .cpu => r.cpuCores.getD .zero
  | .memory => .ofNat (r.memoryMb.getD 0)
  | .disk => .ofNat (r.diskGb.getD 0)

/-- The figure of a node. Buses, balancers and volumes have none. -/
def Catalog.Node.figure? (dim : Dimension) : Node → Option Number
  | .service s => some (s.resources.figure dim)
  | .agent a => some (a.resources.figure dim)
  | .database d => some (d.resources.figure dim)
  | .messageBus _ | .loadBalancer _ | .storage _ => none

/-- The figures of nodes in a dimension. -/
def figuresOf (vs : List Vertex) (dim : Dimension) : List Number :=
  vs.filterMap fun v => v.node.figure? dim

/-- The figures of a topology in a dimension. -/
def Topology.figures (t : Topology) (dim : Dimension) : List Number := figuresOf t.vertices dim

theorem Catalog.Node.figure?_eq (dim : Dimension) (n : Node) :
    n.figure? dim = n.resources?.map fun r => r.figure dim := by
  cases n <;> rfl

namespace Topology

variable {t : Topology} {dim : Dimension}

theorem figures_eq (t : Topology) (dim : Dimension) :
    t.figures dim =
      (t.vertices.filterMap fun v => v.node.resources?).map fun r => r.figure dim := by
  simp only [figures, figuresOf, Node.figure?_eq, List.map_filterMap]

theorem mem_figures_iff {x : Number} :
    x ∈ t.figures dim ↔
      ∃ v ∈ t.vertices, ∃ r, v.node.resources? = some r ∧ r.figure dim = x := by
  simp only [figures, figuresOf, List.mem_filterMap, Node.figure?_eq, Option.map_eq_some_iff]

theorem zero_atMost_figures (h : t.FootprintsNonNegative) :
    ∀ x ∈ t.figures dim, Number.zero.AtMost x := by
  intro x hx
  obtain ⟨v, hv, r, hr, rfl⟩ := mem_figures_iff.1 hx
  cases dim with
  | cpu => exact h v hv r hr
  | memory => exact Number.zero_atMost_ofNat _
  | disk => exact Number.zero_atMost_ofNat _

end Topology

namespace Validation

open Rollout.Topology

/-- Every total is at most its ceiling. -/
def WithinBudget (totals : Totals) (limits : Limits) : Prop :=
  ∀ d, (totals.get d).AtMost (limits.get d)

theorem mem_dimensions (d : Dimension) : d ∈ [Dimension.cpu, .memory, .disk] := by
  cases d <;> decide

theorem budgetFault_eq_none_iff {totals : Totals} {limits : Limits}
    (htotals : ∀ d, totals.get d ≠ .notANumber) (hlimits : ∀ d, limits.get d ≠ .notANumber) :
    budgetFault totals limits = none ↔ WithinBudget totals limits := by
  rw [budgetFault, Option.map_eq_none_iff, List.find?_eq_none]
  refine forall_congr' fun d => ?_
  rw [Bool.not_eq_true, Number.not_lt_iff_atMost (htotals d) (hlimits d)]
  exact ⟨fun h => h (mem_dimensions d), fun h _ => h⟩

/-- An addition that does not lead below zero from above it. -/
def KeepsNonNegative (add : Number → Number → Number) : Prop :=
  ∀ a b, Number.zero.AtMost a → Number.zero.AtMost b → Number.zero.AtMost (add a b)

theorem keepsNonNegative_binary64 : KeepsNonNegative Binary64.add :=
  fun _ _ => Binary64.zero_atMost_add

variable {add : Number → Number → Number}

theorem KeepsNonNegative.foldl (hadd : KeepsNonNegative add) {xs : List Number} {a : Number}
    (ha : Number.zero.AtMost a) (hxs : ∀ x ∈ xs, Number.zero.AtMost x) :
    Number.zero.AtMost (xs.foldl add a) := by
  induction xs generalizing a with
  | nil => exact ha
  | cons x rest ih =>
    obtain ⟨hx, hrest⟩ := List.forall_mem_cons.1 hxs
    exact ih (hadd a x ha hx) hrest

/-! ## Totals as sums of figures -/

theorem Totals.get_plus (totals : Totals) (r : Resources) (dim : Dimension) :
    (totals.plus add r).get dim = add (totals.get dim) (r.figure dim) := by
  cases dim <;> rfl

theorem Totals.get_foldl_plus (totals : Totals) (rs : List Resources) (dim : Dimension) :
    (rs.foldl (Totals.plus add) totals).get dim =
      (rs.map fun r => r.figure dim).foldl add (totals.get dim) := by
  induction rs generalizing totals with
  | nil => rfl
  | cons r rest ih => rw [List.foldl_cons, ih, get_plus, List.map_cons, List.foldl_cons]

theorem get_totalsWith (add : Number → Number → Number) (t : Topology) (dim : Dimension) :
    (totalsWith add t).get dim = (t.figures dim).foldl add .zero := by
  have hzero : Totals.zero.get dim = .zero := by cases dim <;> rfl
  rw [totalsWith, Totals.get_foldl_plus, hzero, ← figures_eq]

theorem zero_atMost_totalsWith (hadd : KeepsNonNegative add) {t : Topology}
    (h : t.FootprintsNonNegative) (d : Dimension) :
    Number.zero.AtMost ((totalsWith add t).get d) := by
  rw [get_totalsWith]
  exact hadd.foldl (Number.zero_atMost_ofNat 0) (zero_atMost_figures h)

/-! ## Finite terms -/

/-- A finite ceiling lets no footprint pass that is not finite. -/
theorem isFinite_of_budgetFault {t : Topology} {limits : Limits}
    (hlimits : ∀ d, (limits.get d).isFinite = true) (hfootprints : t.FootprintsNonNegative)
    (h : budgetFault (totalsWith Binary64.add t) limits = none) :
    ∀ v ∈ t.vertices, ∀ r, v.node.resources? = some r →
      (r.cpuCores.getD .zero).isFinite = true := by
  have hzero := zero_atMost_totalsWith keepsNonNegative_binary64 hfootprints
  have hordered : ∀ d, limits.get d ≠ .notANumber := by
    intro d hd
    have hfinite := hlimits d
    rw [hd] at hfinite
    cases hfinite
  have hwithin := (budgetFault_eq_none_iff (fun d => (hzero d).right_ne_notANumber) hordered).1 h
  have htotal := (hzero .cpu).isFinite (hwithin .cpu) (hlimits .cpu)
  rw [get_totalsWith] at htotal
  intro v hv r hr
  have hfigure : r.figure .cpu ∈ t.figures .cpu := mem_figures_iff.2 ⟨v, hv, r, hr, rfl⟩
  exact (Binary64.isFinite_of_foldl_add htotal).2 _ hfigure

/-! ## Order of the terms -/

theorem Totals.plus_right_comm [RightCommutative add] (totals : Totals)
    (r s : Resources) :
    (totals.plus add r).plus add s = (totals.plus add s).plus add r := by
  have hcomm : ∀ a b c, add (add a b) c = add (add a c) b := RightCommutative.right_comm
  simp only [plus, Totals.mk.injEq]
  exact ⟨hcomm _ _ _, hcomm _ _ _, hcomm _ _ _⟩

/-- Totals that are summed by such an addition do not depend on the order of the nodes. -/
theorem totalsWith_perm [RightCommutative add] {t t' : Topology}
    (h : t.vertices.Perm t'.vertices) : totalsWith add t = totalsWith add t' := by
  refine (h.filterMap _).foldl_eq' (fun r _ s _ totals => ?_) Totals.zero
  exact totals.plus_right_comm r s

end Validation
end Rollout
