import Rollout.Topology.Basic

/-
Topologies put together from their parts. The only thing that can be wrong with nodes and
edges is an id that two nodes share; without one the topology is made of just these parts,
and its own parts give it back.
-/
namespace Rollout
namespace Topology

/-! ## Ids given twice -/

theorem firstRepeat_eq_none {seen ids : List String} (hids : ids.Nodup)
    (hseen : ∀ id ∈ ids, id ∉ seen) : firstRepeat seen ids = none := by
  induction ids generalizing seen with
  | nil => rfl
  | cons id rest ih =>
    obtain ⟨hid, hrest⟩ := List.nodup_cons.1 hids
    rw [firstRepeat, if_neg (hseen id List.mem_cons_self)]
    refine ih hrest fun x hx hmem => ?_
    rcases List.mem_cons.1 hmem with rfl | hold
    · exact hid hx
    · exact hseen x (List.mem_cons_of_mem id hx) hold

/-- What stands before the id that is found is new, and the id itself is not. -/
theorem exists_append_of_firstRepeat {seen ids : List String} {id : String}
    (h : firstRepeat seen ids = some id) :
    ∃ before after, ids = before ++ id :: after ∧ before.Nodup ∧ (∀ x ∈ before, x ∉ seen) ∧
      (id ∈ seen ∨ id ∈ before) := by
  induction ids generalizing seen with
  | nil => cases h
  | cons x rest ih =>
    rw [firstRepeat] at h
    by_cases hx : x ∈ seen
    · rw [if_pos hx] at h
      obtain rfl := Option.some.inj h
      exact ⟨[], rest, rfl, List.nodup_nil, by simp, .inl hx⟩
    · rw [if_neg hx] at h
      obtain ⟨before, after, rfl, hnodup, hnew, hid⟩ := ih h
      have hfresh : x ∉ before := fun hmem => hnew x hmem List.mem_cons_self
      refine ⟨x :: before, after, rfl, List.nodup_cons.2 ⟨hfresh, hnodup⟩, ?_, ?_⟩
      · refine List.forall_mem_cons.2 ⟨hx, fun y hy hmem => ?_⟩
        exact hnew y hy (List.mem_cons_of_mem x hmem)
      · rw [List.mem_cons, or_assoc] at hid
        rw [List.mem_cons]
        exact or_left_comm.1 hid

/-- The id that is found occurs in the list, and before that there or among those seen. -/
theorem two_le_count_of_firstRepeat {seen ids : List String} {id : String}
    (h : firstRepeat seen ids = some id) : 2 ≤ seen.count id + ids.count id := by
  obtain ⟨before, after, rfl, -, -, hid⟩ := exists_append_of_firstRepeat h
  rw [List.count_append, List.count_cons_self]
  rcases hid with hseen | hbefore
  · have hpos : 0 < seen.count id := List.count_pos_iff.2 hseen
    omega
  · have hpos : 0 < before.count id := List.count_pos_iff.2 hbefore
    omega

theorem firstRepeat_append {seen before after : List String} {id : String}
    (hnodup : before.Nodup) (hnew : ∀ x ∈ before, x ∉ seen) (hid : id ∈ seen ∨ id ∈ before) :
    firstRepeat seen (before ++ id :: after) = some id := by
  induction before generalizing seen with
  | nil => rw [List.nil_append, firstRepeat, if_pos (hid.resolve_right List.not_mem_nil)]
  | cons x rest ih =>
    obtain ⟨hfresh, hrest⟩ := List.nodup_cons.1 hnodup
    obtain ⟨hx, hnew⟩ := List.forall_mem_cons.1 hnew
    rw [List.cons_append, firstRepeat, if_neg hx]
    refine ih hrest (fun y hy hmem => ?_) ?_
    · rcases List.mem_cons.1 hmem with rfl | hmem
      · exact hfresh hy
      · exact hnew y hy hmem
    · rw [List.mem_cons] at hid
      rw [List.mem_cons, or_assoc]
      exact or_left_comm.1 hid

/-! ## Topologies of parts -/

theorem parts_of_ofParts {vertices : List Vertex} {links : List Link} {t : Topology}
    (h : ofParts vertices links = .ok t) : t.vertices = vertices ∧ t.links = links := by
  rw [ofParts] at h
  split at h
  · cases h
  · cases h
    exact ⟨rfl, rfl⟩

/-- The groups of edges are those that the parts determine. -/
theorem ofParts_self (t : Topology) : ofParts t.vertices t.links = .ok t := by
  obtain ⟨vertices, links, hnodup, outgoing, incoming, rfl, rfl⟩ := t
  rw [ofParts]
  split
  · rename_i hrepeat
    rw [firstRepeat_eq_none hnodup fun _ _ => List.not_mem_nil] at hrepeat
    cases hrepeat
  · rfl

theorem exists_ofParts_iff {vertices : List Vertex} {links : List Link} :
    (∃ t, ofParts vertices links = .ok t) ↔ (vertices.map Vertex.id).Nodup := by
  constructor
  · rintro ⟨t, ht⟩
    obtain ⟨rfl, -⟩ := parts_of_ofParts ht
    exact t.nodup_ids
  · intro hnodup
    exact ⟨_, ofParts_self { vertices, links, nodup_ids := hnodup }⟩

theorem ofParts_eq_error_iff {vertices : List Vertex} {links : List Link} {f : Fault} :
    ofParts vertices links = .error f ↔
      ∃ id, firstRepeat [] (vertices.map Vertex.id) = some id ∧ f = .ofDuplicate id := by
  rw [ofParts]
  split
  · rename_i id hrepeat
    simp [hrepeat, eq_comm]
  · rename_i hnone
    simp [hnone]

theorem repeated_of_ofParts {vertices : List Vertex} {links : List Link} {f : Fault}
    (h : ofParts vertices links = .error f) :
    ∃ id, f = .ofDuplicate id ∧ 2 ≤ (vertices.map Vertex.id).count id := by
  obtain ⟨id, hrepeat, rfl⟩ := ofParts_eq_error_iff.1 h
  have hcount := two_le_count_of_firstRepeat hrepeat
  rw [List.count_nil, Nat.zero_add] at hcount
  exact ⟨id, rfl, hcount⟩

/-- The fault names the first node whose id is that of a node before it. -/
theorem ofParts_eq_error_iff_repeats {vertices : List Vertex} {links : List Link} {f : Fault} :
    ofParts vertices links = .error f ↔
      ∃ before v after, vertices = before ++ v :: after ∧ (before.map Vertex.id).Nodup ∧
        v.id ∈ before.map Vertex.id ∧ f = .ofDuplicate v.id := by
  rw [ofParts_eq_error_iff]
  constructor
  · rintro ⟨id, hrepeat, rfl⟩
    obtain ⟨beforeIds, afterIds, hids, hnodup, -, hid⟩ := exists_append_of_firstRepeat hrepeat
    obtain ⟨before, rest, rfl, rfl, hrest⟩ := List.map_eq_append_iff.1 hids
    obtain ⟨v, after, rfl, rfl, -⟩ := List.map_eq_cons_iff.1 hrest
    exact ⟨before, v, after, rfl, hnodup, hid.resolve_left List.not_mem_nil, rfl⟩
  · rintro ⟨before, v, after, rfl, hnodup, hid, rfl⟩
    rw [List.map_append, List.map_cons]
    exact ⟨v.id, firstRepeat_append hnodup (fun _ _ => List.not_mem_nil) (.inr hid), rfl⟩

end Topology
end Rollout
