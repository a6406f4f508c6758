import Rollout.Grouping

/-
What the grouping of a list holds. A key that occurs has one entry, and the entry has the
values that a scan of the list for the key gives; a key that does not occur has none.
-/
namespace Rollout
namespace Grouping

variable {κ α : Type}

/-- No key has two entries, and no entry is without values. -/
structure Proper (g : Grouping κ α) : Prop where
  nodup : (g.map (·.1)).Nodup
  filled : ∀ entry ∈ g, entry.2 ≠ []

theorem proper_nil : Proper ([] : Grouping κ α) := ⟨List.nodup_nil, by simp⟩

theorem proper_cons_iff {k : κ} {as : List α} {rest : Grouping κ α} :
    Proper ((k, as) :: rest) ↔ k ∉ rest.map (·.1) ∧ as ≠ [] ∧ Proper rest := by
  constructor
  · intro h
    obtain ⟨hk, hnodup⟩ := List.nodup_cons.1 h.nodup
    exact ⟨hk, h.filled _ List.mem_cons_self,
      ⟨hnodup, fun entry he => h.filled entry (List.mem_cons_of_mem _ he)⟩⟩
  · rintro ⟨hk, has, hrest⟩
    refine ⟨List.nodup_cons.2 ⟨hk, hrest.nodup⟩, fun entry he => ?_⟩
    rcases List.mem_cons.1 he with rfl | he
    · exact has
    · exact hrest.filled entry he

/-- The keyed values of a grouping, group by group. -/
def ungrouped (g : List (κ × List α)) : List (κ × α) :=
  g.flatMap fun entry => entry.2.map fun a => (entry.1, a)

theorem ungrouped_cons (entry : κ × List α) (rest : Grouping κ α) :
    ungrouped (entry :: rest) = (entry.2.map fun a => (entry.1, a)) ++ ungrouped rest :=
  List.flatMap_cons

variable [DecidableEq κ]

theorem mem_keys_add {k k' : κ} {a : α} {g : Grouping κ α} :
    k' ∈ (add k a g).map (·.1) ↔ k' = k ∨ k' ∈ g.map (·.1) := by
  induction g with
  | nil => simp [add]
  | cons entry rest ih =>
    obtain ⟨j, as⟩ := entry
    by_cases h : j = k
    · subst h
      simp [add]
    · rw [add, if_neg h, List.map_cons, List.mem_cons, ih, List.map_cons, List.mem_cons]
      exact or_left_comm

theorem Proper.add {g : Grouping κ α} (h : Proper g) (k : κ) (a : α) : Proper (add k a g) := by
  induction g with
  | nil => exact proper_cons_iff.2 ⟨by simp, by simp, proper_nil⟩
  | cons entry rest ih =>
    obtain ⟨j, as⟩ := entry
    obtain ⟨hj, has, hrest⟩ := proper_cons_iff.1 h
    rw [Grouping.add]
    by_cases hk : j = k
    · rw [if_pos hk]
      exact proper_cons_iff.2 ⟨hj, by simp, hrest⟩
    · rw [if_neg hk]
      refine proper_cons_iff.2 ⟨fun hmem => ?_, has, ih hrest⟩
      rcases mem_keys_add.1 hmem with rfl | hmem
      · exact hk rfl
      · exact hj hmem

theorem Proper.foldl_add {g : Grouping κ α} (h : Proper g) (pairs : List (κ × α)) :
    Proper (pairs.foldl (fun g p => Grouping.add p.1 p.2 g) g) := by
  induction pairs generalizing g with
  | nil => exact h
  | cons p rest ih => exact ih (h.add p.1 p.2)

theorem proper_ofList (pairs : List (κ × α)) : Proper (ofList pairs) :=
  proper_nil.foldl_add pairs

/-- In a proper grouping the entries are the look-ups that find values. -/
theorem Proper.mem_iff {g : Grouping κ α} (h : Proper g) {k : κ} {as : List α} :
    (k, as) ∈ g ↔ as = find k g ∧ as ≠ [] := by
  induction g with
  | nil => simp [find]
  | cons entry rest ih =>
    obtain ⟨j, bs⟩ := entry
    obtain ⟨hj, hbs, hrest⟩ := proper_cons_iff.1 h
    rw [find, List.mem_cons, Prod.mk.injEq]
    by_cases hk : j = k
    · subst hk
      rw [if_pos rfl]
      constructor
      · rintro (⟨-, rfl⟩ | hmem)
        · exact ⟨rfl, hbs⟩
        · exact absurd (List.mem_map_of_mem hmem) hj
      · rintro ⟨rfl, -⟩
        exact .inl ⟨rfl, rfl⟩
    · rw [if_neg hk, ih hrest]
      constructor
      · rintro (⟨rfl, -⟩ | hmem)
        · exact absurd rfl hk
        · exact hmem
      · exact .inr

theorem mem_ofList_iff {pairs : List (κ × α)} {k : κ} {as : List α} :
    (k, as) ∈ ofList pairs ↔ as = scan k pairs ∧ as ≠ [] := by
  rw [(proper_ofList pairs).mem_iff, find_ofList]

/-- A property of every group, one that the empty group has, is one of every scan. -/
theorem forall_mem_ofList_iff {pairs : List (κ × α)} {P : List α → Prop} (hnil : P []) :
    (∀ entry ∈ ofList pairs, P entry.2) ↔ ∀ k, P (scan k pairs) := by
  constructor
  · intro h k
    by_cases hk : scan k pairs = []
    · rw [hk]
      exact hnil
    · exact h (k, scan k pairs) (mem_ofList_iff.2 ⟨rfl, hk⟩)
  · rintro h ⟨k, as⟩ hmem
    obtain ⟨rfl, -⟩ := mem_ofList_iff.1 hmem
    exact h k

theorem ungrouped_add_perm (k : κ) (a : α) (g : Grouping κ α) :
    (ungrouped (add k a g)).Perm (ungrouped g ++ [(k, a)]) := by
  induction g with
  | nil => exact List.Perm.refl _
  | cons entry rest ih =>
    obtain ⟨j, as⟩ := entry
    rw [add, ungrouped_cons]
    by_cases hj : j = k
    · subst hj
      rw [if_pos rfl, ungrouped_cons, List.map_append, List.append_assoc, List.append_assoc]
      exact List.perm_append_comm.append_left _
    · rw [if_neg hj, ungrouped_cons, List.append_assoc]
      exact ih.append_left _

/-- Grouping neither loses nor adds a value. -/
theorem ungrouped_ofList_perm (pairs : List (κ × α)) : (ungrouped (ofList pairs)).Perm pairs := by
  have hfold : ∀ g : Grouping κ α,
      (ungrouped (pairs.foldl (fun g p => add p.1 p.2 g) g)).Perm (ungrouped g ++ pairs) := by
    induction pairs with
    | nil => exact fun g => by rw [List.append_nil]; exact List.Perm.refl _
    | cons p rest ih =>
      intro g
      have hstep := (ungrouped_add_perm p.1 p.2 g).append_right rest
      rw [List.append_assoc] at hstep
      exact (ih (add p.1 p.2 g)).trans hstep
  exact hfold []

end Grouping
end Rollout
