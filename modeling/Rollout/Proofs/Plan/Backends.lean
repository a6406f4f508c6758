import Rollout.Proofs.Aligned
import Rollout.Proofs.Plan.WellFormed

/-
The backends of balancers. A balancer settles its backends one after the other, and every
occurrence leaves either an entry, if a service has the id, or a warning. The weight in an
entry is the one the strategy has for the id, or else the first one in edge order among
those that edges of the balancer carry for it; zero is a weight like any other. A run
reports the warnings balancer by balancer, in start order.
-/
namespace Rollout

open Catalog

/-- The weight that a strategy itself has for a backend. -/
def Catalog.Strategy.ownWeight? : Strategy → String → Option Nat
  | .basic _, _ => none
  | .weighted weights, backend => Record.get? weights backend

/-- An edge from a balancer to a backend that carries a weight. -/
def Link.Weighs (l : Link) (balancer backend : String) (w : Nat) : Prop :=
  l.source = balancer ∧ l.target = backend ∧ ∃ check, l.edge = .loadBalances (some w) check

namespace Topology

/-- The weight of a backend, if any, and where it is from. -/
inductive GivesWeight (t : Topology) (balancer : String) (s : Strategy) (backend : String) :
    Option Nat → Prop where
  | own {w : Nat} (h : s.ownWeight? backend = some w) : GivesWeight t balancer s backend (some w)
  | edge {w : Nat} {before after : List Link} {l : Link} (hown : s.ownWeight? backend = none)
      (hlinks : t.links = before ++ l :: after) (h : l.Weighs balancer backend w)
      (hfirst : ∀ k ∈ before, ∀ n, ¬k.Weighs balancer backend n) :
      GivesWeight t balancer s backend (some w)
  | unset (hown : s.ownWeight? backend = none)
      (h : ∀ l ∈ t.links, ∀ n, ¬l.Weighs balancer backend n) : GivesWeight t balancer s backend none

/-- Why there is no entry for an id. -/
inductive Unresolved (t : Topology) : String → String → Prop where
  | absent {id : String} (h : id ∉ t.ids) : Unresolved t id "node not found"
  | kind {v : Vertex} (hv : v ∈ t.vertices) (hkind : v.node.kind ≠ .service) :
      Unresolved t v.id ("node is a " ++ Worded.word v.node.kind)

/-- A warning about a backend. -/
def Warns (t : Topology) (balancer backend : String) (warning : Log.Event) : Prop :=
  ∃ reason, t.Unresolved backend reason ∧
    warning.entry = ⟨.warn, "load_balancer_backend_unresolved", some (.object
      [("load_balancer", .text balancer), ("backend", .text backend), ("reason", .text reason)])⟩

/-- The walk of a balancer over its backends, with the entries and the warnings it leaves. -/
inductive Walk (t : Topology) (balancer : String) (s : Strategy) :
    List String → List Backend → List Log.Event → Prop where
  | done : Walk t balancer s [] [] []
  | entry {id : String} {service : Service} {weight : Option Nat} {ids : List String}
      {entries : List Backend} {warnings : List Log.Event}
      (hservice : (⟨id, .service service⟩ : Vertex) ∈ t.vertices)
      (hweight : t.GivesWeight balancer s id weight) (rest : Walk t balancer s ids entries warnings) :
      Walk t balancer s (id :: ids) (⟨id, service.port.getD 80, weight⟩ :: entries) warnings
  | warning {id : String} {warning : Log.Event} {ids : List String} {entries : List Backend}
      {warnings : List Log.Event} (hwarns : t.Warns balancer id warning)
      (rest : Walk t balancer s ids entries warnings) :
      Walk t balancer s (id :: ids) entries (warning :: warnings)

def serviceIds (t : Topology) : List String := (ofKind .service t.vertices).map Vertex.id

/-- A balancer with its entry in a plan and the warnings about it. -/
def Settles (t : Topology) (v : Vertex) (report : PlannedBalancer × List Log.Event) : Prop :=
  ∃ l, v.node = .loadBalancer l ∧
    t.Walk v.id l.strategy l.backends report.1.backends report.2 ∧
    report.1.backends.map Backend.service = l.backends.filter (· ∈ t.serviceIds) ∧
    List.Forall₂ (t.Warns v.id) (l.backends.filter (· ∉ t.serviceIds)) report.2

/-! ## Weights -/

/-- The weight an edge of a balancer gives a backend, for an edge between any nodes. -/
def weightFor? (balancer backend : String) (l : Link) : Option Nat :=
  if l.source = balancer then linkWeight? backend l else none

theorem weightFor?_eq_some_iff {balancer backend : String} {l : Link} {w : Nat} :
    weightFor? balancer backend l = some w ↔ l.Weighs balancer backend w := by
  rw [weightFor?, Option.ite_none_right_eq_some, linkWeight?_eq_some_iff, Link.Weighs]

theorem weightFor?_eq_none_iff {balancer backend : String} {l : Link} :
    weightFor? balancer backend l = none ↔ ∀ w, ¬l.Weighs balancer backend w := by
  rw [Option.eq_none_iff_forall_ne_some]
  exact forall_congr' fun w => not_congr weightFor?_eq_some_iff

/-- A balancer searches its own edges, which is to search all edges for its own. -/
theorem findSome?_edgesFrom (t : Topology) (balancer backend : String) :
    (t.edgesFrom balancer).findSome? (linkWeight? backend) =
      t.links.findSome? (weightFor? balancer backend) := by
  rw [edgesFrom_eq, ← List.head?_filterMap, List.filterMap_filter, List.head?_filterMap]
  simp only [decide_eq_true_iff]
  rfl

theorem findSome?_edgesFrom_eq_some_iff {t : Topology} {balancer backend : String} {w : Nat} :
    (t.edgesFrom balancer).findSome? (linkWeight? backend) = some w ↔
      ∃ before l after, t.links = before ++ l :: after ∧ l.Weighs balancer backend w ∧
        ∀ k ∈ before, ∀ n, ¬k.Weighs balancer backend n := by
  rw [findSome?_edgesFrom, List.findSome?_eq_some_iff]
  simp only [weightFor?_eq_some_iff, weightFor?_eq_none_iff]

theorem findSome?_edgesFrom_eq_none_iff {t : Topology} {balancer backend : String} :
    (t.edgesFrom balancer).findSome? (linkWeight? backend) = none ↔
      ∀ l ∈ t.links, ∀ n, ¬l.Weighs balancer backend n := by
  rw [findSome?_edgesFrom, List.findSome?_eq_none_iff]
  simp only [weightFor?_eq_none_iff]

theorem backendWeight_eq (t : Topology) (balancer : String) (s : Strategy) (backend : String) :
    t.backendWeight balancer s backend =
      (s.ownWeight? backend).or ((t.edgesFrom balancer).findSome? (linkWeight? backend)) := by
  cases s with
  | basic => rfl
  | weighted => rfl

theorem givesWeight_backendWeight (t : Topology) (balancer : String) (s : Strategy)
    (backend : String) :
    t.GivesWeight balancer s backend (t.backendWeight balancer s backend) := by
  rw [backendWeight_eq]
  cases hown : s.ownWeight? backend with
  | some w => exact .own hown
  | none =>
    rw [Option.none_or]
    cases hfound : (t.edgesFrom balancer).findSome? (linkWeight? backend) with
    | none => exact .unset hown (findSome?_edgesFrom_eq_none_iff.1 hfound)
    | some w =>
      obtain ⟨before, l, after, hlinks, hl, hfirst⟩ := findSome?_edgesFrom_eq_some_iff.1 hfound
      exact .edge hown hlinks hl hfirst

/-- No other weight is given. -/
theorem givesWeight_iff {t : Topology} {balancer backend : String} {s : Strategy}
    {weight : Option Nat} :
    t.GivesWeight balancer s backend weight ↔ weight = t.backendWeight balancer s backend := by
  constructor
  · intro h
    rw [backendWeight_eq]
    cases h with
    | own h => rw [h, Option.some_or]
    | edge hown hlinks h hfirst =>
      have hfound := findSome?_edgesFrom_eq_some_iff.2 ⟨_, _, _, hlinks, h, hfirst⟩
      rw [hown, Option.none_or, hfound]
    | unset hown h => rw [hown, Option.none_or, findSome?_edgesFrom_eq_none_iff.2 h]
  · rintro rfl
    exact t.givesWeight_backendWeight balancer s backend

/-! ## Walks -/

theorem mem_serviceIds_iff {t : Topology} {id : String} :
    id ∈ t.serviceIds ↔ ∃ service, (⟨id, .service service⟩ : Vertex) ∈ t.vertices := by
  rw [serviceIds, List.mem_map]
  constructor
  · rintro ⟨⟨_, node⟩, hv, rfl⟩
    obtain ⟨hmem, hkind⟩ := List.mem_filter.1 hv
    cases node with
    | service service => exact ⟨service, hmem⟩
    | _ => simp [Node.kind] at hkind
  · rintro ⟨service, hv⟩
    exact ⟨_, List.mem_filter.2 ⟨hv, rfl⟩, rfl⟩

theorem not_mem_serviceIds_of_unresolved {t : Topology} {id reason : String}
    (h : t.Unresolved id reason) : id ∉ t.serviceIds := by
  intro hid
  obtain ⟨service, hservice⟩ := mem_serviceIds_iff.1 hid
  cases h with
  | absent habsent => exact habsent (List.mem_map_of_mem hservice)
  | kind hv hkind =>
    have heq := eq_of_id_eq hv hservice rfl
    rw [heq] at hkind
    exact hkind rfl

theorem unresolved_of_resolveBackend {t : Topology} {balancer id reason : String} {s : Strategy}
    (h : t.resolveBackend balancer s id = .inr reason) : t.Unresolved id reason := by
  rw [resolveBackend] at h
  split at h
  case h_1 habsent =>
    obtain rfl := Sum.inr.inj h
    refine .absent fun hid => ?_
    rw [← vertex?_isSome_iff, habsent] at hid
    cases hid
  case h_2 v hv =>
    obtain ⟨hmem, rfl⟩ := vertex?_eq_some_iff.1 hv
    split at h
    · cases h
    · rename_i hother
      obtain rfl := Sum.inr.inj h
      refine .kind hmem fun hkind => ?_
      cases hnode : v.node with
      | service service => exact hother service hnode
      | _ => simp [hnode, Node.kind] at hkind

/-- What a balancer plans and reports is what it leaves on its way. -/
theorem walk_planBalancer (t : Topology) (balancer : String) (l : LoadBalancer) :
    t.Walk balancer l.strategy l.backends (t.planBalancer balancer l).backends
      (t.unresolvedBackends balancer l) := by
  rw [planBalancer, unresolvedBackends]
  -- Entries and warnings are picked from the same list, and no occurrence is picked twice.
  induction l.backends with
  | nil => exact .done
  | cons id ids ih =>
    cases hresolved : t.resolveBackend balancer l.strategy id with
    | inl e =>
      obtain ⟨service, hservice, rfl⟩ := resolveBackend_eq_inl hresolved
      rw [List.filterMap_cons, List.filterMap_cons, hresolved]
      exact .entry hservice (givesWeight_iff.2 rfl) ih
    | inr reason =>
      rw [List.filterMap_cons, List.filterMap_cons, hresolved]
      exact .warning ⟨reason, unresolved_of_resolveBackend hresolved, rfl⟩ ih

namespace Walk

variable {t : Topology} {balancer : String} {s : Strategy} {ids : List String}
  {entries : List Backend} {warnings : List Log.Event}

theorem map_service (h : t.Walk balancer s ids entries warnings) :
    entries.map Backend.service = ids.filter (· ∈ t.serviceIds) := by
  induction h with
  | done => rfl
  | entry hservice _ _ ih =>
    have hid := mem_serviceIds_iff.2 ⟨_, hservice⟩
    rw [List.filter_cons, if_pos (decide_eq_true hid), List.map_cons, ih]
  | warning hwarns _ ih =>
    obtain ⟨reason, hunresolved, -⟩ := hwarns
    have hid := not_mem_serviceIds_of_unresolved hunresolved
    rw [List.filter_cons, if_neg (by rwa [decide_eq_true_iff]), ih]

theorem forall₂_warns (h : t.Walk balancer s ids entries warnings) :
    List.Forall₂ (t.Warns balancer) (ids.filter (· ∉ t.serviceIds)) warnings := by
  induction h with
  | done => exact .nil
  | entry hservice _ _ ih =>
    have hid := mem_serviceIds_iff.2 ⟨_, hservice⟩
    rwa [List.filter_cons, if_neg (by rwa [decide_eq_true_iff, not_not])]
  | warning hwarns _ ih =>
    obtain ⟨reason, hunresolved, hentry⟩ := hwarns
    have hid := not_mem_serviceIds_of_unresolved hunresolved
    rw [List.filter_cons, if_pos (decide_eq_true hid)]
    exact .cons ⟨reason, hunresolved, hentry⟩ ih

end Walk

/-! ## Runs -/

/-- What a balancer plans and reports. -/
def report? (t : Topology) (v : Vertex) : Option (PlannedBalancer × List Log.Event) :=
  match v.node with
  | .loadBalancer l => some (t.planBalancer v.id l, t.unresolvedBackends v.id l)
  | _ => none

theorem settles_report (t : Topology) {v : Vertex} {l : LoadBalancer} (h : v.node = .loadBalancer l) :
    t.Settles v (t.planBalancer v.id l, t.unresolvedBackends v.id l) := by
  have hwalk := t.walk_planBalancer v.id l
  exact ⟨l, h, hwalk, hwalk.map_service, hwalk.forall₂_warns⟩

theorem forall₂_settles (t : Topology) (nodes : List Vertex) :
    List.Forall₂ t.Settles (ofKind .loadBalancer nodes) (nodes.filterMap t.report?) := by
  refine forall₂_filter_filterMap (fun v => ?_) nodes
  cases hnode : v.node with
  | loadBalancer l =>
    refine .inr ⟨_, rfl, ?_, t.settles_report hnode⟩
    rw [report?, hnode]
  | _ => exact .inl ⟨rfl, by rw [report?, hnode]⟩

theorem map_fst_reports (t : Topology) (order : List String) :
    ((t.placed order).filterMap t.report?).map Prod.fst = (t.planOf order).loadBalancers := by
  rw [List.map_filterMap, planOf]
  refine List.filterMap_congr fun v _ => ?_
  rw [report?]
  cases v.node <;> rfl

theorem flatMap_snd_reports (t : Topology) (order : List String) :
    ((t.placed order).filterMap t.report?).flatMap Prod.snd = t.planWarnings order := by
  rw [List.filterMap_eq_flatMap_toList, List.flatMap_assoc, planWarnings]
  refine List.flatMap_congr fun v _ => ?_
  rw [report?]
  cases v.node with
  | loadBalancer l => exact List.append_nil _
  | _ => rfl

end Topology

open Rollout.Topology Rollout.Validation

/-- No backend of a planned topology is lost or invented: every balancer settles its
backends one by one. All that a run reports between its first and its last event is the
warnings, by balancers in start order. -/
theorem backends_settled_of_plan {p : Policy} {t : Topology} {plan : Plan}
    (h : (t.plan p).result = .ok plan) :
    ∃ order nodes reports first last,
      Schedule.compute t = .ok order ∧ nodes.map Vertex.id = order ∧ plan.Lists t nodes ∧
      List.Forall₂ t.Settles (ofKind .loadBalancer nodes) reports ∧
      plan.loadBalancers = reports.map Prod.fst ∧
      (t.plan p).events = first :: (reports.flatMap Prod.snd ++ [last]) ∧
      first.message = "topology_validated" ∧ last.message = "topology_translated" := by
  obtain ⟨order, horder, rfl⟩ := exists_order_of_plan h
  refine ⟨order, t.placed order, (t.placed order).filterMap t.report?,
    .validated t.size p.checks.length, .planned order (t.planOf order).counts, horder,
    map_id_placed_of_compute horder, lists_placed_of_plan h horder, t.forall₂_settles _,
    (t.map_fst_reports order).symm, ?_, rfl, rfl⟩
  rw [flatMap_snd_reports]
  exact events_planOf h horder

/-- Two balancers in front of two services. Weights come from the strategy, where it has one
and be it zero, and from parallel edges; one backend is a balancer, one a database, and one
is missing. -/
def gateways : Topology where
  vertices :=
    [⟨"west", .loadBalancer ⟨"west", .basic .roundRobin, .ofNat 10,
        ["web", "gone", "api", "web", "cache"]⟩⟩,
      ⟨"east", .loadBalancer ⟨"east", .weighted [("api", 0), ("gone", 3)], .ofNat 10,
        ["gone", "api", "west", "web"]⟩⟩,
      ⟨"api", .service ⟨"api", "serve", [], [], some 8080, none, .empty⟩⟩,
      ⟨"web", .service ⟨"web", "serve", [], [], none, none, .empty⟩⟩,
      ⟨"cache", .database ⟨"cache", .redis, "7", false, none, .empty⟩⟩]
  links :=
    [⟨"west", "api", .loadBalances none true⟩, ⟨"east", "api", .loadBalances (some 9) true⟩,
      ⟨"west", "api", .loadBalances (some 0) true⟩, ⟨"west", "api", .loadBalances (some 4) true⟩,
      ⟨"east", "web", .loadBalances (some 2) false⟩, ⟨"web", "cache", .dependsOn true none⟩]
  nodup_ids := by decide

theorem backends_settled_of_gateways :
    ∃ plan nodes reports, (gateways.plan stackPolicy).result = .ok plan ∧
      List.Forall₂ gateways.Settles (ofKind .loadBalancer nodes) reports ∧
      plan.loadBalancers = reports.map Prod.fst ∧
      plan.loadBalancers.map PlannedBalancer.backends =
        [[⟨"api", 8080, some 0⟩, ⟨"web", 80, some 2⟩],
          [⟨"web", 80, none⟩, ⟨"api", 8080, some 0⟩, ⟨"web", 80, none⟩]] ∧
      reports.flatMap Prod.snd =
        [.backendUnresolved "east" "gone" "node not found",
          .backendUnresolved "east" "west" "node is a load_balancer",
          .backendUnresolved "west" "gone" "node not found",
          .backendUnresolved "west" "cache" "node is a database"] := by
  have hvalue : (gateways.plan stackPolicy).result.map (fun plan =>
      plan.loadBalancers.map PlannedBalancer.backends) =
        .ok [[⟨"api", 8080, some 0⟩, ⟨"web", 80, some 2⟩],
          [⟨"web", 80, none⟩, ⟨"api", 8080, some 0⟩, ⟨"web", 80, none⟩]] := by
    decide +kernel
  obtain ⟨plan, hplan, hbackends⟩ := map_eq_ok_iff.1 hvalue
  obtain ⟨order, nodes, reports, first, last, -, -, -, hsettles, hbalancers, hevents, -⟩ :=
    backends_settled_of_plan hplan
  have hreported : (gateways.plan stackPolicy).events.tail.dropLast =
      [.backendUnresolved "east" "gone" "node not found",
        .backendUnresolved "east" "west" "node is a load_balancer",
        .backendUnresolved "west" "gone" "node not found",
        .backendUnresolved "west" "cache" "node is a database"] := by
    decide +kernel
  rw [hevents, List.tail_cons, List.dropLast_concat] at hreported
  exact ⟨plan, nodes, reports, hplan, hsettles, hbalancers, hbackends, hreported⟩

end Rollout
