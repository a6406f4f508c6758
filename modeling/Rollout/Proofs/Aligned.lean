import Mathlib.Data.List.Forall2

/-
Lists that stand member against member. What is picked from a list and turned into
something else stands against the members that were picked, and the first members with
corresponding properties stand against each other.
-/
namespace Rollout

variable {α β : Type} {R : α → β → Prop}

theorem exists_mem_of_forall₂ {xs : List α} {ys : List β} (h : List.Forall₂ R xs ys) :
    ∀ y ∈ ys, ∃ x ∈ xs, R x y := by
  induction h with
  | nil => simp
  | cons hxy _ ih =>
    intro y hy
    rcases List.mem_cons.1 hy with rfl | hy
    · exact ⟨_, List.mem_cons_self, hxy⟩
    · obtain ⟨x, hx, hR⟩ := ih y hy
      exact ⟨x, List.mem_cons_of_mem _ hx, hR⟩

theorem forall₂_filter_filterMap {f : α → Option β} {q : α → Bool}
    (h : ∀ a, (q a = false ∧ f a = none) ∨ ∃ b, q a = true ∧ f a = some b ∧ R a b)
    (xs : List α) : List.Forall₂ R (xs.filter q) (xs.filterMap f) := by
  induction xs with
  | nil => exact .nil
  | cons a rest ih =>
    rcases h a with ⟨hq, hf⟩ | ⟨b, hq, hf, hR⟩
    · rw [List.filter_cons_of_neg (by rw [hq]; decide), List.filterMap_cons_none hf]
      exact ih
    · rw [List.filter_cons_of_pos hq, List.filterMap_cons_some hf]
      exact .cons hR ih

theorem rel_find? {p : α → Bool} {q : β → Bool} (hpq : ∀ a b, R a b → p a = q b)
    {xs : List α} {ys : List β} (h : List.Forall₂ R xs ys) :
    Option.Rel R (xs.find? p) (ys.find? q) := by
  induction h with
  | nil => exact .none
  | @cons a b _ _ hab _ ih =>
    rw [List.find?_cons, List.find?_cons, hpq a b hab]
    cases q b with
    | true => exact .some hab
    | false => exact ih

end Rollout
