import Mathlib.Data.Set.List
import Rollout.Proofs.Number.Rounding
import Rollout.Proofs.Validation.Criteria

/-
Totals and the figures they are made of. Summed exactly, a total is the sum of the figures
that services, agents and databases declare, in whatever order they come; binary64 addition
agrees on whole figures up to `2 ^ 53`. A total that is above its ceiling stays above it when
another node is added, since no node declares a figure below zero.
-/
namespace Rollout

open Catalog

/-! ## Exact totals -/

/-- Figures for memory and disk are whole. -/
theorem Topology.exists_map_ofNat_figures (t : Topology) {dim : Dimension} (h : dim ≠ .cpu) :
    ∃ ns : List Nat, ns.map Number.ofNat = t.figures dim := by
  have hwhole : ∀ x ∈ t.figures dim, x ∈ Set.range Number.ofNat := by
    intro x hx
    obtain ⟨v, -, r, -, rfl⟩ := mem_figures_iff.1 hx
    cases dim with
    | cpu => exact absurd rfl h
    | memory => exact Set.mem_range_self _
    | disk => exact Set.mem_range_self _
  rwa [← Set.mem_range, Set.range_list_map]

namespace Validation

open Rollout.Topology

/-- The totals in exact arithmetic. -/
def exactTotals (t : Topology) : Totals := totalsWith Number.exactSum t

theorem get_exactTotals {t : Topology} (h : t.FootprintsNonNegative) (dim : Dimension) :
    (exactTotals t).get dim = Number.total (t.figures dim) := by
  rw [exactTotals, get_totalsWith, Number.foldl_exactSum_zero (zero_atMost_figures h)]

/-- A whole total that is at most `2 ^ 53` is exact. -/
theorem get_totals_of_atMost {t : Topology} (h : t.FootprintsNonNegative) {dim : Dimension}
    (hdim : dim ≠ .cpu) (hle : ((exactTotals t).get dim).AtMost (.ofNat (2 ^ 53))) :
    (totals t).get dim = (exactTotals t).get dim := by
  obtain ⟨ns, hns⟩ := exists_map_ofNat_figures t hdim
  have hexact : (exactTotals t).get dim = .ofNat ns.sum := by
    rw [get_exactTotals h, ← hns, Number.total_map_ofNat]
  rw [hexact] at hle ⊢
  have hsum : 0 + ns.sum ≤ 2 ^ 53 := by
    rw [Nat.zero_add]
    exact Rat.natCast_le_natCast.1 hle
  rw [totals, get_totalsWith, ← hns, Number.zero, Binary64.foldl_add_ofNat hsum, Nat.zero_add]

/-! ## Ceilings -/

/-- The total of a dimension is above its ceiling. -/
def Exceeds (totals : Totals) (limits : Limits) (dim : Dimension) : Prop :=
  (limits.get dim).lt (totals.get dim) = true

/-- A dimension that is exceeded while those before it are not. -/
def FirstExceeded (totals : Totals) (limits : Limits) (dim : Dimension) : Prop :=
  ∃ before after, [Dimension.cpu, .memory, .disk] = before ++ dim :: after ∧
    (∀ b ∈ before, ¬Exceeds totals limits b) ∧ Exceeds totals limits dim

/-- The fault of a dimension, with its total and its ceiling. -/
def excessFault (totals : Totals) (limits : Limits) (dim : Dimension) : Fault :=
  .resourceLimit (excessText dim (totals.get dim) (limits.get dim)) dim (totals.get dim)
    (limits.get dim)

theorem budgetFault_eq_none_iff_not_exceeds {totals : Totals} {limits : Limits} :
    budgetFault totals limits = none ↔ ∀ dim, ¬Exceeds totals limits dim := by
  rw [budgetFault, Option.map_eq_none_iff, List.find?_eq_none]
  exact forall_congr' fun dim => ⟨fun h => h (mem_dimensions dim), fun h _ => h⟩

theorem budgetFault_eq_some_iff {totals : Totals} {limits : Limits} {fault : Fault} :
    budgetFault totals limits = some fault ↔
      ∃ dim, FirstExceeded totals limits dim ∧ fault = excessFault totals limits dim := by
  rw [budgetFault, Option.map_eq_some_iff]
  refine exists_congr fun dim => and_congr ?_ eq_comm
  rw [List.find?_eq_some_iff_append]
  constructor
  · rintro ⟨hexceeds, before, after, hsplit, hbefore⟩
    exact ⟨before, after, hsplit, fun b hb hexceeds' => by simp_all [Exceeds], hexceeds⟩
  · rintro ⟨before, after, hsplit, hbefore, hexceeds⟩
    exact ⟨hexceeds, before, after, hsplit, fun b hb => by simp_all [Exceeds]⟩

/-- What exceeds a ceiling still does when no total has become smaller. -/
theorem budgetFault_ne_none_of_atMost {totals totals' : Totals} {limits : Limits}
    (hle : ∀ dim, (totals.get dim).AtMost (totals'.get dim))
    (h : budgetFault totals limits ≠ none) : budgetFault totals' limits ≠ none := by
  contrapose! h
  rw [budgetFault_eq_none_iff_not_exceeds] at h ⊢
  exact fun dim hexceeds => h dim (Number.lt_of_lt_of_atMost hexceeds (hle dim))

/-! ## Another node -/

/-- An addition that does not lead below zero from above it, grows with its first term, and
gives no smaller sum with one more term. -/
structure Grows (add : Number → Number → Number) : Prop where
  nonneg : KeepsNonNegative add
  mono : ∀ {a b c : Number}, Number.zero.AtMost a → a.AtMost b → Number.zero.AtMost c →
    (add a c).AtMost (add b c)
  more : ∀ {a b c : Number}, Number.zero.AtMost a → Number.zero.AtMost b → Number.zero.AtMost c →
    (add a b).AtMost (add (add a b) c)

theorem grows_exactSum : Grows Number.exactSum where
  nonneg _ _ := Number.zero_atMost_exactSum
  mono := Number.exactSum_mono_left
  more ha hb hc := Number.atMost_exactSum (Number.zero_atMost_exactSum ha hb) hc

theorem grows_binary64 : Grows Binary64.add where
  nonneg := keepsNonNegative_binary64
  mono := Binary64.add_mono_left
  more := Binary64.add_atMost_add

namespace Grows

variable {add : Number → Number → Number}

theorem foldl_mono (h : Grows add) {xs : List Number} {a b : Number}
    (ha : Number.zero.AtMost a) (hab : a.AtMost b) (hxs : ∀ x ∈ xs, Number.zero.AtMost x) :
    (xs.foldl add a).AtMost (xs.foldl add b) := by
  induction xs generalizing a b with
  | nil => exact hab
  | cons x rest ih =>
    obtain ⟨hx, hrest⟩ := List.forall_mem_cons.1 hxs
    exact ih (h.nonneg a x ha hx) (h.mono ha hab hx) hrest

/-- A sum that begins at zero becomes no smaller by a term in its middle. -/
theorem foldl_atMost_insert (h : Grows add) {before after : List Number} {x : Number}
    (hbefore : ∀ y ∈ before, Number.zero.AtMost y) (hx : Number.zero.AtMost x)
    (hafter : ∀ y ∈ after, Number.zero.AtMost y) :
    ((before ++ after).foldl add .zero).AtMost ((before ++ x :: after).foldl add .zero) := by
  have hzero : Number.zero.AtMost .zero := Number.zero_atMost_ofNat 0
  have hstart := h.nonneg.foldl hzero hbefore
  rw [List.foldl_append, List.foldl_append, List.foldl_cons]
  refine h.foldl_mono hstart ?_ hafter
  -- Only sums are known to grow: a number that is none may be rounded down when a term is
  -- added to it. With nothing before the term, that number is zero.
  rcases List.eq_nil_or_concat' before with rfl | ⟨init, y, rfl⟩
  · exact h.nonneg _ _ hzero hx
  · obtain ⟨hinit, hy⟩ := List.forall_mem_append.1 hbefore
    rw [List.foldl_append, List.foldl_cons, List.foldl_nil]
    exact h.more (h.nonneg.foldl hzero hinit) (hy y List.mem_cons_self) hx

/-- Another node makes no total smaller. -/
theorem foldl_figuresOf_atMost (h : Grows add) (before : List Vertex) {after : List Vertex}
    {v : Vertex} {dim : Dimension}
    (hfigures : ∀ x ∈ figuresOf (before ++ v :: after) dim, Number.zero.AtMost x) :
    ((figuresOf (before ++ after) dim).foldl add .zero).AtMost
      ((figuresOf (before ++ v :: after) dim).foldl add .zero) := by
  simp only [figuresOf, List.filterMap_append, List.filterMap_cons] at hfigures ⊢
  cases hfigure : v.node.figure? dim with
  | none =>
    -- Such a node leaves the total as it is, which is in order with itself: it is a number.
    rw [hfigure] at hfigures
    exact Number.atMost_self
      (h.nonneg.foldl (Number.zero_atMost_ofNat 0) hfigures).right_ne_notANumber
  | some x =>
    rw [hfigure] at hfigures
    obtain ⟨hbefore, hrest⟩ := List.forall_mem_append.1 hfigures
    obtain ⟨hx, hafter⟩ := List.forall_mem_cons.1 hrest
    exact h.foldl_atMost_insert hbefore hx hafter

end Grows

variable {t t' : Topology} {v : Vertex} {limits : Limits}

/-- Summed exactly, a topology that is rejected stays rejected with another node, wherever
the node stands and whatever order the others are in. -/
theorem exact_budgetFault_ne_none_of_perm (hnonneg : t'.FootprintsNonNegative)
    (hperm : (v :: t.vertices).Perm t'.vertices)
    (h : budgetFault (exactTotals t) limits ≠ none) :
    budgetFault (exactTotals t') limits ≠ none := by
  refine budgetFault_ne_none_of_atMost (fun dim => ?_) h
  have hfigures : (figuresOf ([] ++ v :: t.vertices) dim).Perm (t'.figures dim) :=
    hperm.filterMap _
  rw [exactTotals, get_totalsWith, exactTotals, get_totalsWith, ← hfigures.foldl_eq]
  exact grows_exactSum.foldl_figuresOf_atMost [] fun x hx =>
    zero_atMost_figures hnonneg x (hfigures.mem_iff.1 hx)

/-- Rounded sums too reject with another node what they reject without it, the other nodes
being as they were. -/
theorem budgetFault_ne_none_of_insert (hnonneg : t'.FootprintsNonNegative)
    {before after : List Vertex} (ht : t.vertices = before ++ after)
    (ht' : t'.vertices = before ++ v :: after) (h : budgetFault (totals t) limits ≠ none) :
    budgetFault (totals t') limits ≠ none := by
  refine budgetFault_ne_none_of_atMost (fun dim => ?_) h
  have hfigures : ∀ x ∈ t'.figures dim, Number.zero.AtMost x := zero_atMost_figures hnonneg
  rw [figures, ht'] at hfigures
  rw [totals, get_totalsWith, totals, get_totalsWith, figures, figures, ht, ht']
  exact grows_binary64.foldl_figuresOf_atMost before hfigures

/-! ## Decoded topologies -/

/-- The totals of a decoded topology are the sums of what its services, agents and databases
declare; the budget rejects exactly where one of them is above its ceiling, for the first
such dimension, and another node does not change that. -/
theorem budget_of_declared_figures {mode : OnInvalid} {raw : RawTopology} {d : Decoded}
    (hdecode : (raw.decode mode).result = .ok d) (limits : Limits) :
    (∀ dim, (exactTotals d.topology).get dim = Number.total (d.topology.figures dim)) ∧
      (∀ t : Topology, d.topology.vertices.Perm t.vertices →
        exactTotals d.topology = exactTotals t) ∧
      (∀ dim, dim ≠ .cpu → ((exactTotals d.topology).get dim).AtMost (.ofNat (2 ^ 53)) →
        (totals d.topology).get dim = (exactTotals d.topology).get dim) ∧
      (∀ add : Number → Number → Number,
        (budgetFault (totalsWith add d.topology) limits = none ↔
          ∀ dim, ¬Exceeds (totalsWith add d.topology) limits dim) ∧
        ∀ fault, budgetFault (totalsWith add d.topology) limits = some fault ↔
          ∃ dim, FirstExceeded (totalsWith add d.topology) limits dim ∧
            fault = excessFault (totalsWith add d.topology) limits dim) ∧
      ∀ (mode' : OnInvalid) (raw' : RawTopology) (d' : Decoded) (v : Vertex),
        (raw'.decode mode').result = .ok d' →
        ((v :: d.topology.vertices).Perm d'.topology.vertices →
          budgetFault (exactTotals d.topology) limits ≠ none →
          budgetFault (exactTotals d'.topology) limits ≠ none) ∧
        ∀ before after, d.topology.vertices = before ++ after →
          d'.topology.vertices = before ++ v :: after →
          budgetFault (totals d.topology) limits ≠ none →
          budgetFault (totals d'.topology) limits ≠ none := by
  have hnonneg := footprintsNonNegative_of_decode hdecode
  refine ⟨get_exactTotals hnonneg, fun t hperm => totalsWith_perm hperm,
    fun dim => get_totals_of_atMost hnonneg, fun add => ?_, fun mode' raw' d' v hdecode' => ?_⟩
  · exact ⟨budgetFault_eq_none_iff_not_exceeds, fun fault => budgetFault_eq_some_iff⟩
  · have hnonneg' := footprintsNonNegative_of_decode hdecode'
    exact ⟨exact_budgetFault_ne_none_of_perm hnonneg',
      fun before after => budgetFault_ne_none_of_insert hnonneg'⟩

/-- An agent that needs memory only. -/
def clerk : RawNode :=
  ⟨"clerk", some (.object [("kind", .text "agent"), ("name", .text "clerk"),
    ("resources", .object [("memoryMb", .nat 256)])])⟩

/-- The shop with an agent in front of it. -/
def staffedShop : RawTopology := { shop with nodes := clerk :: shop.nodes }

def oneCore : Limits := ⟨.ofNat 1, .infinity, .infinity⟩

theorem exceeds_oneCore {totals : Totals} (h : totals.get .cpu = .ofNat 2) :
    Exceeds totals oneCore .cpu := by
  rw [Exceeds, h]
  decide +kernel

theorem exists_figures_shop :
    ∃ d, (shop.decode .reject).result = .ok d ∧ d.topology.figures .cpu = [.ofNat 2, .zero] ∧
      (totals d.topology).get .cpu = .ofNat 2 := by
  obtain ⟨d, hdecode, hd⟩ := map_eq_ok_iff.1 (by decide +kernel :
    (shop.decode .reject).result.map
        (fun d => (d.topology.figures .cpu, (totals d.topology).get .cpu)) =
      .ok ([.ofNat 2, .zero], .ofNat 2))
  exact ⟨d, hdecode, Prod.mk.inj hd⟩

theorem exists_staffedShop {d : Decoded} (h : (shop.decode .reject).result = .ok d) :
    ∃ d' v, (staffedShop.decode .reject).result = .ok d' ∧
      d'.topology.vertices = [] ++ v :: d.topology.vertices := by
  obtain ⟨d', h', -⟩ := map_eq_ok_iff.1 (by decide +kernel :
    (staffedShop.decode .reject).result.map (fun d => d.topology.vertices.length) = .ok 3)
  obtain ⟨v, hread⟩ := Option.isSome_iff_exists.1 (by decide +kernel : clerk.read?.isSome = true)
  refine ⟨d', v, h', ?_⟩
  rw [RawTopology.vertices_of_decode h', RawTopology.vertices_of_decode h]
  exact List.filterMap_cons_some hread

/-- The shop needs two cores, so one is not enough for it, nor for the shop and an agent. -/
theorem budget_of_shop :
    ∃ d d', (shop.decode .reject).result = .ok d ∧ (staffedShop.decode .reject).result = .ok d' ∧
      (exactTotals d.topology).get .cpu = .ofNat 2 ∧
      budgetFault (totals d.topology) oneCore =
        some (excessFault (totals d.topology) oneCore .cpu) ∧
      budgetFault (exactTotals d'.topology) oneCore ≠ none ∧
      budgetFault (totals d'.topology) oneCore ≠ none := by
  obtain ⟨d, hdecode, hfigures, hrounded⟩ := exists_figures_shop
  obtain ⟨d', v, hdecode', hvertices⟩ := exists_staffedShop hdecode
  obtain ⟨htotal, -, -, hverdict, hanother⟩ := budget_of_declared_figures hdecode oneCore
  obtain ⟨hperm, hinsert⟩ := hanother .reject staffedShop d' v hdecode'
  have hexact : (exactTotals d.topology).get .cpu = .ofNat 2 := by
    rw [htotal, hfigures]
    decide +kernel
  have hrejected : budgetFault (exactTotals d.topology) oneCore ≠ none :=
    fun hnone => (hverdict Number.exactSum).1.1 hnone .cpu (exceeds_oneCore hexact)
  have hfault := ((hverdict Binary64.add).2 _).2
    ⟨.cpu, ⟨[], [.memory, .disk], rfl, by simp, exceeds_oneCore hrounded⟩, rfl⟩
  refine ⟨d, d', hdecode, hdecode', hexact, hfault, hperm (.of_eq hvertices.symm) hrejected,
    hinsert [] _ rfl hvertices ?_⟩
  rw [totals, hfault]
  exact Option.some_ne_none _

end Validation
end Rollout
