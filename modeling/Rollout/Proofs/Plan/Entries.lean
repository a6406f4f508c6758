import Rollout.Proofs.Plan.Success

/-
The entries of a plan, node by node. A start order has every node of its topology, and a
plan has one entry for every node of the order: each collection is made of the nodes of
one kind, and keeps them in the order in which they start.
-/
namespace Rollout

open Catalog

/-- An entry of a plan, in whichever collection it stands. -/
inductive PlanEntry where
  | service (entry : PlannedService)
  | agent (entry : PlannedAgent)
  | database (entry : PlannedDatabase)
  | messageBus (entry : PlannedBus)
  | loadBalancer (entry : PlannedBalancer)
  | storage (entry : PlannedVolume)
  deriving DecidableEq

/-- The collection for the nodes of a kind. -/
def Plan.collection (p : Plan) : NodeKind → List PlanEntry
  | .service => p.services.map .service
  | .agent => p.agents.map .agent
  | .database => p.databases.map .database
  | .messageBus => p.messageBuses.map .messageBus
  | .loadBalancer => p.loadBalancers.map .loadBalancer
  | .storage => p.storageVolumes.map .storage

namespace Topology

/-- What a node is planned as. -/
def entry (t : Topology) (v : Vertex) : PlanEntry :=
  match v.node with
  | .service s => .service (t.planService v.id s)
  | .agent a => .agent (planAgent t.natsUrl a)
  | .database d => .database (planDatabase d)
  | .messageBus b => .messageBus (planBus b)
  | .loadBalancer l => .loadBalancer (t.planBalancer v.id l)
  | .storage s => .storage (t.planVolume v.id s)

/-- The nodes of a kind among some nodes. -/
def ofKind (k : NodeKind) (vs : List Vertex) : List Vertex := vs.filter fun v => v.node.kind = k

/-! ## Placed nodes -/

theorem placed_ids (t : Topology) : t.placed t.ids = t.vertices := by
  have hfound : ∀ vs : List Vertex, (∀ v ∈ vs, v ∈ t.vertices) →
      (vs.map Vertex.id).filterMap t.vertex? = vs := by
    intro vs hvs
    induction vs with
    | nil => rfl
    | cons v rest ih =>
      have hv : t.vertex? v.id = some v := vertex?_eq_some_iff.2 ⟨hvs v List.mem_cons_self, rfl⟩
      rw [List.map_cons, List.filterMap_cons_some hv,
        ih fun w hw => hvs w (List.mem_cons_of_mem v hw)]
  exact hfound t.vertices fun _ hv => hv

theorem placed_perm {t : Topology} {order : List String} (h : order.Perm t.ids) :
    (t.placed order).Perm t.vertices := by
  have hperm : (t.placed order).Perm (t.placed t.ids) := h.filterMap t.vertex?
  rwa [placed_ids] at hperm

/-- No id of an order of nodes is passed over. -/
theorem map_id_placed {t : Topology} {order : List String} (h : ∀ id ∈ order, id ∈ t.ids) :
    (t.placed order).map Vertex.id = order := by
  induction order with
  | nil => rfl
  | cons id rest ih =>
    have hsome := vertex?_isSome_iff.2 (h id List.mem_cons_self)
    obtain ⟨v, hv⟩ := Option.isSome_iff_exists.1 hsome
    have hrest := ih fun x hx => h x (List.mem_cons_of_mem id hx)
    rw [placed] at hrest ⊢
    rw [List.filterMap_cons_some hv, List.map_cons, hrest, (vertex?_eq_some_iff.1 hv).2]

/-! ## Collections -/

theorem map_filterMap_eq {α β γ : Type} {f : α → Option β} {g : β → γ} {e : α → γ} {q : α → Bool}
    (h : ∀ a, (f a).map g = if q a = true then some (e a) else none) (xs : List α) :
    (xs.filterMap f).map g = (xs.filter q).map e := by
  rw [List.map_filterMap, ← List.filterMap_eq_filter, List.map_filterMap]
  refine List.filterMap_congr fun a _ => ?_
  rw [h a, Option.guard]
  split <;> rfl

theorem collection_planOf (t : Topology) (order : List String) (k : NodeKind) :
    (t.planOf order).collection k = (ofKind k (t.placed order)).map t.entry := by
  cases k with
  | _ =>
    refine map_filterMap_eq (fun v => ?_) _
    rw [entry]
    cases v.node <;> rfl

theorem length_ofKind_add (vs : List Vertex) :
    (ofKind .service vs).length + (ofKind .database vs).length + (ofKind .agent vs).length +
      (ofKind .messageBus vs).length + (ofKind .loadBalancer vs).length +
      (ofKind .storage vs).length = vs.length := by
  induction vs with
  | nil => rfl
  | cons v rest ih =>
    have hcons : ∀ k, (ofKind k (v :: rest)).length =
        (ofKind k rest).length + if v.node.kind = k then 1 else 0 := by
      intro k
      by_cases hk : v.node.kind = k <;> simp [ofKind, hk]
    simp only [hcons, List.length_cons, ← ih]
    cases v.node.kind <;> simp <;> omega

end Topology

open Rollout.Topology Rollout.Validation

/-- A plan that lists some nodes: they are the nodes of the topology, and each collection
is made of those of its kind, entry by entry in their order. -/
structure Plan.Lists (plan : Plan) (t : Topology) (nodes : List Vertex) : Prop where
  perm : nodes.Perm t.vertices
  collections : ∀ k, plan.collection k = (ofKind k nodes).map t.entry

namespace Plan.Lists

variable {plan : Plan} {t : Topology} {nodes : List Vertex}

theorem length_collection (h : plan.Lists t nodes) (k : NodeKind) :
    (plan.collection k).length = (ofKind k nodes).length := by
  rw [h.collections, List.length_map]

theorem length_add (h : plan.Lists t nodes) :
    plan.services.length + plan.databases.length + plan.agents.length +
      plan.messageBuses.length + plan.loadBalancers.length + plan.storageVolumes.length =
      t.size := by
  have hservices := h.length_collection .service
  have hdatabases := h.length_collection .database
  have hagents := h.length_collection .agent
  have hbuses := h.length_collection .messageBus
  have hbalancers := h.length_collection .loadBalancer
  have hvolumes := h.length_collection .storage
  simp only [collection, List.length_map] at hservices hdatabases hagents hbuses hbalancers hvolumes
  rw [hservices, hdatabases, hagents, hbuses, hbalancers, hvolumes, length_ofKind_add,
    h.perm.length_eq, size]

theorem mem_ofKind (h : plan.Lists t nodes) {v : Vertex} (hv : v ∈ t.vertices) :
    v ∈ ofKind v.node.kind nodes :=
  List.mem_filter.2 ⟨h.perm.mem_iff.2 hv, decide_eq_true rfl⟩

/-- The entry of a node stands where the node stands among those of its kind. -/
theorem getElem?_collection (h : plan.Lists t nodes) {v : Vertex} (hv : v ∈ t.vertices) :
    (plan.collection v.node.kind)[(ofKind v.node.kind nodes).idxOf v]? = some (t.entry v) := by
  rw [h.collections, List.getElem?_map, List.getElem?_idxOf (h.mem_ofKind hv), Option.map_some]

theorem exists_vertex (h : plan.Lists t nodes) {k : NodeKind} {e : PlanEntry}
    (he : e ∈ plan.collection k) : ∃ v ∈ t.vertices, v.node.kind = k ∧ e = t.entry v := by
  rw [h.collections] at he
  obtain ⟨v, hv, rfl⟩ := List.mem_map.1 he
  obtain ⟨hlisted, hkind⟩ := List.mem_filter.1 hv
  exact ⟨v, h.perm.mem_iff.1 hlisted, of_decide_eq_true hkind, rfl⟩

theorem exists_loadBalancer (h : plan.Lists t nodes) {b : PlannedBalancer}
    (hb : b ∈ plan.loadBalancers) :
    ∃ id l, (⟨id, .loadBalancer l⟩ : Vertex) ∈ t.vertices ∧ b = t.planBalancer id l := by
  have he : PlanEntry.loadBalancer b ∈ plan.collection .loadBalancer := List.mem_map_of_mem hb
  obtain ⟨⟨id, node⟩, hv, hkind, heq⟩ := h.exists_vertex he
  cases node with
  | loadBalancer l => exact ⟨id, l, hv, PlanEntry.loadBalancer.inj heq⟩
  | _ => cases hkind

end Plan.Lists

/-! ## Plans that are made -/

theorem exists_order_of_plan {p : Policy} {t : Topology} {plan : Plan}
    (h : (t.plan p).result = .ok plan) :
    ∃ order, Schedule.compute t = .ok order ∧ plan = t.planOf order := by
  obtain ⟨order, horder, hplan⟩ := result_plan_of_validate_ok (exists_result_plan_iff.1 ⟨plan, h⟩)
  exact ⟨order, horder, Except.ok.inj (h.symm.trans hplan)⟩

theorem lists_placed_of_plan {p : Policy} {t : Topology} {plan : Plan} {order : List String}
    (h : (t.plan p).result = .ok plan) (horder : Schedule.compute t = .ok order) :
    plan.Lists t (t.placed order) := by
  obtain ⟨order', horder', rfl⟩ := exists_order_of_plan h
  obtain rfl := Except.ok.inj (horder.symm.trans horder')
  exact ⟨placed_perm (Schedule.isStartOrder_of_compute_eq_ok horder).perm, collection_planOf t order⟩

theorem map_id_placed_of_compute {t : Topology} {order : List String}
    (h : Schedule.compute t = .ok order) : (t.placed order).map Vertex.id = order :=
  map_id_placed fun id hid => ((Schedule.isStartOrder_of_compute_eq_ok h).mem_iff id).1 hid

/-- A node that waits for another of its kind stands behind it among the nodes of the
kind. -/
theorem lt_of_waits_ofKind {t : Topology} {order : List String} {nodes : List Vertex}
    (hstart : Schedule.IsStartOrder t order) (hids : nodes.map Vertex.id = order) {k : NodeKind}
    {i j : Nat} {v w : Vertex} (hv : (ofKind k nodes)[i]? = some v)
    (hw : (ofKind k nodes)[j]? = some w) (hwaits : t.Waits v.id w.id) : j < i := by
  have hnodes : nodes.Pairwise fun v w => ¬t.Waits v.id w.id := by
    have hpairs := hstart.pairwise_not_waits
    rwa [← hids, List.pairwise_map] at hpairs
  have hkind : (ofKind k nodes).Pairwise fun v w => ¬t.Waits v.id w.id := hnodes.filter _
  obtain ⟨hi, rfl⟩ := List.getElem?_eq_some_iff.1 hv
  obtain ⟨hj, rfl⟩ := List.getElem?_eq_some_iff.1 hw
  rcases Nat.lt_trichotomy j i with hlt | rfl | hgt
  · exact hlt
  · exact absurd (hstart.before _ _ hwaits) (Nat.lt_irrefl _)
  · exact absurd hwaits (List.pairwise_iff_getElem.1 hkind i j hi hj hgt)

theorem services_planOf_perm {t : Topology} {order : List String} (h : order.Perm t.ids) :
    (t.planOf order).services.Perm t.services :=
  (placed_perm h).filterMap _

/-! ## Reports -/

theorem message_of_mem_planWarnings {t : Topology} {order : List String} {e : Log.Event}
    (h : e ∈ t.planWarnings order) : e.message = "load_balancer_backend_unresolved" := by
  obtain ⟨v, -, hv⟩ := List.mem_flatMap.1 h
  split at hv
  · obtain ⟨b, -, hb⟩ := List.mem_filterMap.1 hv
    obtain ⟨reason, -, rfl⟩ := Option.map_eq_some_iff.1 hb
    rfl
  · cases hv

theorem events_planOf {p : Policy} {t : Topology} {plan : Plan} {order : List String}
    (h : (t.plan p).result = .ok plan) (horder : Schedule.compute t = .ok order) :
    (t.plan p).events =
      .validated t.size p.checks.length :: (t.planWarnings order ++ [.planned order plan.counts]) := by
  have hverdict := exists_result_plan_iff.1 ⟨plan, h⟩
  have hplan := h
  simp only [Topology.plan, hverdict, horder, Except.ok.injEq] at hplan
  simp only [Topology.plan, hverdict, horder, events_validate_of_ok hverdict, hplan,
    List.cons_append, List.nil_append]

/-- Planning reports its result once. -/
theorem filter_events_plan {p : Policy} {t : Topology} {plan : Plan} {order : List String}
    (h : (t.plan p).result = .ok plan) (horder : Schedule.compute t = .ok order) :
    ((t.plan p).events.filter fun e => e.message = "topology_translated") =
      [.planned order plan.counts] := by
  have hwarnings :
      (t.planWarnings order).filter (fun e => e.message = "topology_translated") = [] := by
    refine List.filter_eq_nil_iff.2 fun e he => ?_
    rw [message_of_mem_planWarnings he]
    decide
  rw [events_planOf h horder, List.filter_cons, List.filter_append, hwarnings]
  simp [Log.Event.message]

/-- No node of a planned topology is lost, duplicated or put into another collection, and
the report counts what the plan has. -/
theorem plan_lists_every_node {p : Policy} {t : Topology} {plan : Plan}
    (h : (t.plan p).result = .ok plan) :
    ∃ order nodes, Schedule.compute t = .ok order ∧ nodes.map Vertex.id = order ∧
      nodes.Perm t.vertices ∧
      (∀ k, plan.collection k = (ofKind k nodes).map t.entry) ∧
      plan.services.length + plan.databases.length + plan.agents.length +
        plan.messageBuses.length + plan.loadBalancers.length + plan.storageVolumes.length =
        t.size ∧
      ((t.plan p).events.filter fun e => e.message = "topology_translated").map Log.Event.payload =
        [.object
          [("order", .texts order), ("services", .nat plan.services.length),
            ("databases", .nat plan.databases.length), ("agents", .nat plan.agents.length),
            ("message_buses", .nat plan.messageBuses.length),
            ("load_balancers", .nat plan.loadBalancers.length),
            ("storage_volumes", .nat plan.storageVolumes.length)]] ∧
      plan.services.Perm t.services ∧
      ∀ (k : NodeKind) (i j : Nat) (v w : Vertex), (ofKind k nodes)[i]? = some v →
        (ofKind k nodes)[j]? = some w → t.Waits v.id w.id → j < i := by
  obtain ⟨order, horder, rfl⟩ := exists_order_of_plan h
  have hstart := Schedule.isStartOrder_of_compute_eq_ok horder
  have hlists := lists_placed_of_plan h horder
  have hids := map_id_placed_of_compute horder
  refine ⟨order, t.placed order, horder, hids, hlists.perm, hlists.collections, hlists.length_add,
    ?_, services_planOf_perm hstart.perm,
    fun k i j v w hv hw hwaits => lt_of_waits_ofKind hstart hids hv hw hwaits⟩
  rw [filter_events_plan h horder]
  rfl

/-- Two services over a database and a volume, behind a balancer, with an agent on a
bus. -/
def stack : Topology where
  vertices :=
    [⟨"api", .service ⟨"api", "serve", [], [], some 8080, none, .empty⟩⟩,
      ⟨"auth", .service ⟨"auth", "serve", [], [], some 8081, none, .empty⟩⟩,
      ⟨"db", .database ⟨"orders", .postgres, "16", true, none, .empty⟩⟩,
      ⟨"bus", .messageBus ⟨"events", .nats, 1, false, []⟩⟩,
      ⟨"worker", .agent ⟨"worker", [], [], none, .empty⟩⟩,
      ⟨"edge", .loadBalancer ⟨"edge", .basic .roundRobin, .ofNat 10, ["api"]⟩⟩,
      ⟨"vol", .storage ⟨"vol", .localDisk, "10Gi", "/data", .readWriteOnce⟩⟩]
  links :=
    [⟨"api", "auth", .dependsOn true none⟩, ⟨"api", "db", .dependsOn true none⟩,
      ⟨"api", "auth", .dependsOn true none⟩, ⟨"worker", "bus", .dependsOn true none⟩,
      ⟨"edge", "api", .loadBalances none true⟩, ⟨"api", "vol", .mountsVolume "/data" false⟩]
  nodup_ids := by decide

def stackPolicy : Policy := { limits := ⟨.ofNat 4, .infinity, .infinity⟩, allowOrphans := false }

def stackOrder : List String := ["auth", "bus", "db", "api", "edge", "vol", "worker"]

theorem compute_stack : Schedule.compute stack = .ok stackOrder := by decide +kernel

theorem result_plan_stack : (stack.plan stackPolicy).result = .ok (stack.planOf stackOrder) := by
  decide +kernel

theorem plan_lists_stack :
    ∃ plan nodes, (stack.plan stackPolicy).result = .ok plan ∧
      nodes.map Vertex.id = stackOrder ∧
      (∀ k, plan.collection k = (ofKind k nodes).map stack.entry) ∧
      plan.services.length + plan.databases.length + plan.agents.length +
        plan.messageBuses.length + plan.loadBalancers.length + plan.storageVolumes.length = 7 ∧
      plan.services.Perm stack.services := by
  obtain ⟨order, nodes, horder, hids, -, hcollections, hlength, -, hservices, -⟩ :=
    plan_lists_every_node result_plan_stack
  obtain rfl := Except.ok.inj (horder.symm.trans compute_stack)
  exact ⟨_, nodes, result_plan_stack, hids, hcollections, hlength, hservices⟩

end Rollout
