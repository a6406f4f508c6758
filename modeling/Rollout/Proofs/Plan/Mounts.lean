import Rollout.Proofs.Aligned
import Rollout.Proofs.Plan.Entries
import Rollout.Proofs.Topology.Decode
import Rollout.Proofs.Validation.Mounts

/-
Mounts in a plan. Each volume lists the edges that mount it, which it finds in the index
of the edges by their targets; the check for writers looks at all edges path by path. The
index neither loses nor repeats an edge, so the volumes together list every mount of a
volume once, and the check holds for what they list.
-/
namespace Rollout

open Rollout.Topology Rollout.Validation

/-- A mount tells what an edge mounts, and for whom. -/
def Mount.Shows (m : Mount) (l : Link) : Prop :=
  m.service = l.source ∧ l.edge = .mountsVolume m.path m.readOnly

namespace Topology

/-- The edges that mount a volume, in edge order. -/
def mountLinks (t : Topology) : List Link :=
  t.links.filter fun l => l.edge.kind = .mountsVolume

/-- A volume lists the edges that mount it. -/
theorem shows_planVolume (t : Topology) (id : String) (s : Catalog.Storage) :
    List.Forall₂ (fun l m => Mount.Shows m l) (t.mountLinks.filter fun l => l.target = id)
      (t.planVolume id s).mounts := by
  have hinto : (t.mountLinks.filter fun l => l.target = id) =
      (t.edgesTo id).filter fun l => l.edge.kind = .mountsVolume := by
    rw [mountLinks, edgesTo_eq, List.filter_filter, List.filter_filter]
    exact List.filter_congr fun l _ => Bool.and_comm _ _
  rw [hinto]
  refine forall₂_filter_filterMap (fun l => ?_) (t.edgesTo id)
  obtain ⟨source, target, edge⟩ := l
  cases edge with
  | mountsVolume path readOnly => exact .inr ⟨⟨source, path, readOnly⟩, rfl, rfl, rfl, rfl⟩
  | _ => exact .inl ⟨rfl, rfl⟩

/-- A volume entry is that of a node, with the edges that mount it. -/
def ListsMounts (t : Topology) (v : Vertex) (e : PlannedVolume) : Prop :=
  t.entry v = .storage e ∧
    List.Forall₂ (fun l m => Mount.Shows m l) (t.mountLinks.filter fun l => l.target = v.id)
      e.mounts

theorem forall₂_listsMounts (t : Topology) (vs : List Vertex) :
    List.Forall₂ t.ListsMounts (ofKind .storage vs)
      (vs.filterMap fun v =>
        match v.node with
        | .storage s => some (t.planVolume v.id s)
        | _ => none) := by
  refine forall₂_filter_filterMap (fun v => ?_) vs
  obtain ⟨id, node⟩ := v
  cases node with
  | storage s => exact .inr ⟨t.planVolume id s, rfl, rfl, rfl, t.shows_planVolume id s⟩
  | _ => exact .inl ⟨rfl, rfl⟩

end Topology

/-! ## Mounts of all volumes -/

section Classes

variable {α β : Type} [DecidableEq β] (f : α → β)

theorem length_filter_mem_cons {b : β} {bs : List β} (h : b ∉ bs) (xs : List α) :
    (xs.filter fun x => f x ∈ b :: bs).length =
      (xs.filter fun x => f x = b).length + (xs.filter fun x => f x ∈ bs).length := by
  induction xs with
  | nil => rfl
  | cons x rest ih =>
    simp only [List.filter_cons, decide_eq_true_iff, List.mem_cons] at ih ⊢
    by_cases hb : f x = b
    · have hbs : f x ∉ bs := hb ▸ h
      simp only [hb, h, true_or, if_true, if_false, List.length_cons, ih]
      omega
    · by_cases hbs : f x ∈ bs
      · simp only [hb, hbs, or_true, if_true, if_false, List.length_cons, ih]
        omega
      · simp only [hb, hbs, or_self, if_false, ih]

/-- What falls into different classes is counted class by class. -/
theorem sum_length_filter_eq {bs : List β} (h : bs.Nodup) (xs : List α) :
    (bs.map fun b => (xs.filter fun x => f x = b).length).sum =
      (xs.filter fun x => f x ∈ bs).length := by
  induction bs with
  | nil => simp
  | cons b rest ih =>
    obtain ⟨hb, hrest⟩ := List.nodup_cons.1 h
    rw [List.map_cons, List.sum_cons, ih hrest, length_filter_mem_cons f hb]

end Classes

theorem listsMounts_of_plan {p : Policy} {t : Topology} {plan : Plan} {order : List String}
    (h : (t.plan p).result = .ok plan) (horder : Schedule.compute t = .ok order) :
    List.Forall₂ t.ListsMounts (ofKind .storage (t.placed order)) plan.storageVolumes := by
  obtain ⟨order', horder', rfl⟩ := exists_order_of_plan h
  obtain rfl := Except.ok.inj (horder.symm.trans horder')
  exact t.forall₂_listsMounts (t.placed order)

theorem exists_link_of_mount {p : Policy} {t : Topology} {plan : Plan}
    (h : (t.plan p).result = .ok plan) {e : PlannedVolume} (he : e ∈ plan.storageVolumes)
    {m : Mount} (hm : m ∈ e.mounts) : ∃ l ∈ t.links, m.Shows l := by
  obtain ⟨order, horder, -⟩ := exists_order_of_plan h
  obtain ⟨v, -, -, hmounts⟩ := exists_mem_of_forall₂ (listsMounts_of_plan h horder) e he
  obtain ⟨l, hl, hshows⟩ := exists_mem_of_forall₂ hmounts m hm
  exact ⟨l, List.mem_of_mem_filter (List.mem_of_mem_filter hl), hshows⟩

theorem mountsExclusive_of_plan {p : Policy} {t : Topology} {plan : Plan}
    (h : (t.plan p).result = .ok plan) : t.MountsExclusive := by
  have hpassed : Check.storage.fault? p t = none := fault?_eq_none_of_plan h (by decide)
  exact mountFault_eq_none_iff.1 hpassed

/-- The volumes together list the mounts of all storage nodes. -/
theorem sum_length_mounts {p : Policy} {t : Topology} {plan : Plan}
    (h : (t.plan p).result = .ok plan) :
    (plan.storageVolumes.map fun e => e.mounts.length).sum =
      (t.mountLinks.filter fun l =>
        l.target ∈ (ofKind .storage t.vertices).map Vertex.id).length := by
  obtain ⟨order, horder, -⟩ := exists_order_of_plan h
  let mounts (id : String) : List Link := t.mountLinks.filter fun l => l.target = id
  have hcounts : plan.storageVolumes.map (fun e => e.mounts.length) =
      (ofKind .storage (t.placed order)).map fun v => (mounts v.id).length := by
    rw [← List.forall₂_eq_eq_eq, List.forall₂_map_left_iff, List.forall₂_map_right_iff]
    exact (listsMounts_of_plan h horder).flip.imp fun e v hve => hve.2.length_eq.symm
  have hperm : (ofKind .storage (t.placed order)).Perm (ofKind .storage t.vertices) :=
    (lists_placed_of_plan h horder).perm.filter _
  have hnodup : ((ofKind .storage t.vertices).map Vertex.id).Nodup :=
    t.nodup_ids.sublist (List.filter_sublist.map Vertex.id)
  calc (plan.storageVolumes.map fun e => e.mounts.length).sum
    _ = ((ofKind .storage (t.placed order)).map fun v => (mounts v.id).length).sum := by
      rw [hcounts]
    _ = ((ofKind .storage t.vertices).map fun v => (mounts v.id).length).sum :=
      (hperm.map _).sum_nat
    _ = (((ofKind .storage t.vertices).map Vertex.id).map fun id => (mounts id).length).sum := by
      rw [List.map_map]
      rfl
    _ = _ := sum_length_filter_eq Link.target hnodup t.mountLinks

/-- Every mount edge of a storage node stands in its volume, once and in edge order, and a
path that is mounted for writing anywhere is so for one service. -/
theorem mounts_conserved {p : Policy} {t : Topology} {plan : Plan}
    (h : (t.plan p).result = .ok plan) :
    (∃ nodes, plan.Lists t nodes ∧
        List.Forall₂ t.ListsMounts (ofKind .storage nodes) plan.storageVolumes) ∧
      (plan.storageVolumes.map fun e => e.mounts.length).sum =
        (t.mountLinks.filter fun l =>
          l.target ∈ (ofKind .storage t.vertices).map Vertex.id).length ∧
      ∀ e ∈ plan.storageVolumes, ∀ f ∈ plan.storageVolumes, ∀ m ∈ e.mounts, ∀ n ∈ f.mounts,
        m.readOnly = false → n.readOnly = false → m.path = n.path → m.service = n.service := by
  refine ⟨?_, sum_length_mounts h, fun e he f hf m hm n hn hmw hnw hpath => ?_⟩
  · obtain ⟨order, horder, -⟩ := exists_order_of_plan h
    exact ⟨_, lists_placed_of_plan h horder, listsMounts_of_plan h horder⟩
  · obtain ⟨l, hl, hml, hledge⟩ := exists_link_of_mount h he hm
    obtain ⟨k, hk, hnk, hkedge⟩ := exists_link_of_mount h hf hn
    rw [hmw] at hledge
    rw [hnw, ← hpath] at hkedge
    rw [hml, hnk]
    exact mountsExclusive_of_plan h m.path l hl k hk hledge hkedge

/-- Two volumes that a service mounts for writing under one path, a reader of that path,
and an edge that mounts what is no volume. -/
def archive : Topology where
  vertices :=
    [⟨"store", .storage ⟨"store", .networkFs, "1Ti", "/mnt", .readWriteMany⟩⟩,
      ⟨"api", .service ⟨"api", "serve", [], [], none, none, .empty⟩⟩,
      ⟨"job", .service ⟨"job", "run", [], [], none, none, .empty⟩⟩,
      ⟨"copy", .storage ⟨"copy", .blockStorage, "1Ti", "/mnt", .readWriteOnce⟩⟩]
  links :=
    [⟨"api", "store", .mountsVolume "/data" false⟩, ⟨"job", "store", .mountsVolume "/data" true⟩,
      ⟨"api", "copy", .mountsVolume "/data" false⟩, ⟨"job", "api", .mountsVolume "/run" false⟩,
      ⟨"api", "store", .mountsVolume "/data" false⟩, ⟨"store", "api", .dependsOn true none⟩]
  nodup_ids := by decide

theorem mounts_conserved_archive :
    ∃ plan, (archive.plan stackPolicy).result = .ok plan ∧
      plan.storageVolumes.map PlannedVolume.mounts =
        [[⟨"api", "/data", false⟩],
          [⟨"api", "/data", false⟩, ⟨"job", "/data", true⟩, ⟨"api", "/data", false⟩]] ∧
      (plan.storageVolumes.map fun e => e.mounts.length).sum = 4 ∧
      ∀ e ∈ plan.storageVolumes, ∀ f ∈ plan.storageVolumes, ∀ m ∈ e.mounts, ∀ n ∈ f.mounts,
        m.readOnly = false → n.readOnly = false → m.path = n.path → m.service = n.service := by
  have hvalue : (archive.plan stackPolicy).result.map (fun plan =>
      plan.storageVolumes.map PlannedVolume.mounts) =
        .ok [[⟨"api", "/data", false⟩],
          [⟨"api", "/data", false⟩, ⟨"job", "/data", true⟩, ⟨"api", "/data", false⟩]] := by
    decide +kernel
  obtain ⟨plan, hplan, hmounts⟩ := map_eq_ok_iff.1 hvalue
  obtain ⟨-, hsum, hexclusive⟩ := mounts_conserved hplan
  exact ⟨plan, hplan, hmounts, hsum, hexclusive⟩

end Rollout
