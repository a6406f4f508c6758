import Mathlib.Data.List.Chain
import Rollout.Proofs.Topology.Startup
import Rollout.Validation.Cycle

/-
The invariant of the search for cycles. The nodes under way form a chain of waiting
nodes; a node the search has left waits only for nodes it has left before, so no cycle
passes through it. What a frame has looked at already is left or further inwards. Every
step keeps this, and a step that closes a cycle reports a simple one.
-/
namespace Rollout
namespace Cycle

open Relation

theorem follows_iff {t : Topology} {l : Link} :
    follows t l = true ↔ l.edge.isStartup = true ∧ l.target ∈ t.ids := by
  rw [follows, Bool.and_eq_true, Topology.hasNode_iff]

theorem waits_of_follows {t : Topology} {id : String} {l : Link} (hid : id ∈ t.ids)
    (hl : l ∈ t.edgesFrom id) (hf : follows t l = true) : t.Waits id l.target := by
  obtain ⟨hlinks, hs⟩ := Topology.mem_edgesFrom.1 hl
  obtain ⟨he, ht⟩ := follows_iff.1 hf
  exact Topology.waits_iff_exists_link.2 ⟨hid, ht, l, hlinks, he, hs, rfl⟩

theorem exists_edge_of_waits {t : Topology} {id dep : String} (h : t.Waits id dep) :
    ∃ l ∈ t.edgesFrom id, follows t l = true ∧ l.target = dep := by
  obtain ⟨-, hdep, l, hl, he, hs, rfl⟩ := Topology.waits_iff_exists_link.1 h
  exact ⟨l, Topology.mem_edgesFrom.2 ⟨hl, hs⟩, follows_iff.2 ⟨he, hdep⟩, rfl⟩

/-! ## Nodes entered and left -/

/-- What holds of the ids a search has entered and of its path, innermost id first. An id
that is entered and not on the path is one the search has left. -/
structure Walk (t : Topology) (roots entered path : List String) : Prop where
  cover : ∀ id ∈ t.ids, id ∈ entered ∨ id ∈ roots
  roots_mem : ∀ id ∈ roots, id ∈ t.ids
  entered_mem : ∀ id ∈ entered, id ∈ t.ids
  entered_nodup : entered.Nodup
  path_nodup : path.Nodup
  path_entered : ∀ id ∈ path, id ∈ entered
  joined : path.IsChain fun a b => t.Waits b a
  closed : ∀ id ∈ entered, id ∉ path → ∀ dep, t.Waits id dep → dep ∈ entered ∧ dep ∉ path
  acyclic : ∀ id ∈ entered, id ∉ path → ¬TransGen t.Waits id id

namespace Walk

variable {t : Topology} {roots entered path : List String} {id root : String}

theorem start (t : Topology) : Walk t t.ids [] [] where
  cover := fun _ hid => Or.inr hid
  roots_mem := fun _ hid => hid
  entered_mem := fun _ hid => absurd hid List.not_mem_nil
  entered_nodup := List.nodup_nil
  path_nodup := List.nodup_nil
  path_entered := fun _ hid => absurd hid List.not_mem_nil
  joined := List.IsChain.nil
  closed := fun _ hid => absurd hid List.not_mem_nil
  acyclic := fun _ hid => absurd hid List.not_mem_nil

theorem dropRoot (h : Walk t (root :: roots) entered path) (hroot : root ∈ entered) :
    Walk t roots entered path where
  cover := by
    intro id hid
    rcases h.cover id hid with he | hr
    · exact Or.inl he
    · rcases List.mem_cons.1 hr with rfl | hr
      · exact Or.inl hroot
      · exact Or.inr hr
  roots_mem := fun id hid => h.roots_mem id (List.mem_cons_of_mem root hid)
  entered_mem := h.entered_mem
  entered_nodup := h.entered_nodup
  path_nodup := h.path_nodup
  path_entered := h.path_entered
  joined := h.joined
  closed := h.closed
  acyclic := h.acyclic

/-- Entering a node that the innermost one waits for leaves no node. -/
theorem enter (h : Walk t roots entered path) (hid : id ∈ t.ids) (hnew : id ∉ entered)
    (hjoin : ∀ outer ∈ path.head?, t.Waits outer id) :
    Walk t roots (id :: entered) (id :: path) := by
  have hleft : ∀ x ∈ id :: entered, x ∉ id :: path → x ∈ entered ∧ x ∉ path := by
    intro x hx hn
    obtain ⟨hne, hpath⟩ := not_or.1 (fun hor => hn (List.mem_cons.2 hor))
    exact ⟨(List.mem_cons.1 hx).resolve_left hne, hpath⟩
  refine ⟨?_, h.roots_mem, ?_, List.nodup_cons.2 ⟨hnew, h.entered_nodup⟩,
    List.nodup_cons.2 ⟨fun hp => hnew (h.path_entered id hp), h.path_nodup⟩, ?_,
    List.isChain_cons.2 ⟨hjoin, h.joined⟩, ?_, ?_⟩
  · exact fun x hx => (h.cover x hx).imp_left (List.mem_cons_of_mem id)
  · exact List.forall_mem_cons.2 ⟨hid, h.entered_mem⟩
  · intro x hx
    exact List.mem_cons.2 ((List.mem_cons.1 hx).imp_right (h.path_entered x))
  · intro x hx hn dep hdep
    obtain ⟨hxe, hxp⟩ := hleft x hx hn
    obtain ⟨hde, hdp⟩ := h.closed x hxe hxp dep hdep
    refine ⟨List.mem_cons_of_mem id hde, fun hd => ?_⟩
    rcases List.mem_cons.1 hd with rfl | hd
    · exact hnew hde
    · exact hdp hd
  · intro x hx hn
    obtain ⟨hxe, hxp⟩ := hleft x hx hn
    exact h.acyclic x hxe hxp

/-- From a node that is left the search has left everything that can be reached. -/
theorem left_of_reflTransGen (h : Walk t roots entered path) {a b : String}
    (hab : ReflTransGen t.Waits a b) (ha : a ∈ entered) (hp : a ∉ path) :
    b ∈ entered ∧ b ∉ path := by
  induction hab with
  | refl => exact ⟨ha, hp⟩
  | tail _ hbc ih => exact h.closed _ ih.1 ih.2 _ hbc

/-- Leaving the innermost node, once everything it waits for is left. -/
theorem leave (h : Walk t roots entered (id :: path))
    (hdeps : ∀ dep, t.Waits id dep → dep ∈ entered ∧ dep ∉ id :: path) :
    Walk t roots entered path := by
  obtain ⟨hnot, hpath⟩ := List.nodup_cons.1 h.path_nodup
  refine ⟨h.cover, h.roots_mem, h.entered_mem, h.entered_nodup, hpath,
    fun x hx => h.path_entered x (List.mem_cons_of_mem id hx),
    (List.isChain_cons.1 h.joined).2, ?_, ?_⟩
  · intro x hx hn dep hdep
    have hall : dep ∈ entered ∧ dep ∉ id :: path := by
      by_cases hxid : x = id
      · exact hdeps dep (hxid ▸ hdep)
      · exact h.closed x hx (fun hm => (List.mem_cons.1 hm).elim hxid hn) dep hdep
    exact ⟨hall.1, fun hd => hall.2 (List.mem_cons_of_mem id hd)⟩
  · intro x hx hn hcycle
    by_cases hxid : x = id
    · -- A cycle through the node just left would come back to it from a node left before.
      subst hxid
      obtain ⟨dep, hdep, hback⟩ := TransGen.head'_iff.1 hcycle
      obtain ⟨hde, hdp⟩ := hdeps dep hdep
      exact (h.left_of_reflTransGen hback hde hdp).2 List.mem_cons_self
    · exact h.acyclic x hx (fun hm => (List.mem_cons.1 hm).elim hxid hn) hcycle

/-- A search that has left every node has seen a graph without cycles. -/
theorem acyclic_of_finished (h : Walk t [] entered []) : t.Acyclic := by
  intro x hx
  have hids : x ∈ t.ids := by
    obtain ⟨dep, hdep, -⟩ := TransGen.head'_iff.1 hx
    exact hdep.source_mem
  have hentered : x ∈ entered := (h.cover x hids).resolve_right List.not_mem_nil
  exact h.acyclic x hentered List.not_mem_nil hx

end Walk

/-! ## Edges looked at -/

/-- Every frame goes through the edges of its node in their order. The targets of those
it has followed are entered, and on the path only further inwards. -/
def Settled (t : Topology) (entered : List String) : List Frame → Prop
  | [] => True
  | f :: outer =>
    (∃ looked, t.edgesFrom f.id = looked ++ f.rest ∧ ∀ l ∈ looked, follows t l = true →
      l.target ∈ entered ∧ l.target ∉ f.id :: outer.map Frame.id) ∧
    Settled t entered outer

theorem Settled.mono {t : Topology} {entered entered' : List String}
    (hsub : ∀ id ∈ entered, id ∈ entered') {frames : List Frame} (h : Settled t entered frames) :
    Settled t entered' frames := by
  induction frames with
  | nil => trivial
  | cons f outer ih =>
    obtain ⟨⟨looked, heq, hlooked⟩, houter⟩ := h
    exact ⟨⟨looked, heq, fun l hl hf => (hlooked l hl hf).imp_left (hsub l.target)⟩, ih houter⟩

/-- The innermost frame looks at one more edge. -/
theorem Settled.look {t : Topology} {entered : List String} {id : String} {l : Link}
    {rest : List Link} {outer : List Frame} (h : Settled t entered (⟨id, l :: rest⟩ :: outer))
    (hl : follows t l = true → l.target ∈ entered ∧ l.target ∉ id :: outer.map Frame.id) :
    Settled t entered (⟨id, rest⟩ :: outer) := by
  obtain ⟨⟨looked, heq, hlooked⟩, houter⟩ := h
  refine ⟨⟨looked ++ [l], ?_, ?_⟩, houter⟩
  · rw [heq, List.append_assoc, List.singleton_append]
  · intro l' hl' hf
    rcases List.mem_append.1 hl' with hl' | hl'
    · exact hlooked l' hl' hf
    · obtain rfl := List.mem_singleton.1 hl'
      exact hl hf

theorem Settled.enter {t : Topology} {entered : List String} {frames : List Frame}
    (h : Settled t entered frames) (id : String) :
    Settled t entered (⟨id, t.edgesFrom id⟩ :: frames) :=
  ⟨⟨[], rfl, fun _ hl => absurd hl List.not_mem_nil⟩, h⟩

/-- A frame that has looked at all its edges has left or entered all its node waits
for. -/
theorem Settled.deps {t : Topology} {entered : List String} {id : String} {outer : List Frame}
    (h : Settled t entered (⟨id, []⟩ :: outer)) {dep : String} (hdep : t.Waits id dep) :
    dep ∈ entered ∧ dep ∉ id :: outer.map Frame.id := by
  obtain ⟨⟨looked, heq, hlooked⟩, -⟩ := h
  obtain ⟨l, hl, hf, rfl⟩ := exists_edge_of_waits hdep
  rw [heq, List.append_nil] at hl
  exact hlooked l hl hf

end Cycle
end Rollout
