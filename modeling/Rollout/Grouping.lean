/-
Values grouped under keys. Keys stand in the order of their first value, and the
values of a key in the order in which they came, so that a look-up gives what a scan
of the whole list for the key would give.
-/
namespace Rollout

abbrev Grouping (κ α : Type) := List (κ × List α)

namespace Grouping

variable {κ α : Type} [DecidableEq κ]

/-- Adds a value at the end of its key's group. -/
def add (k : κ) (a : α) : Grouping κ α → Grouping κ α
  | [] => [(k, [a])]
  | (k', as) :: rest => if k' = k then (k', as ++ [a]) :: rest else (k', as) :: add k a rest

/-- Groups a list of keyed values. -/
def ofList (pairs : List (κ × α)) : Grouping κ α :=
  pairs.foldl (fun g p => add p.1 p.2 g) []

/-- The group of a key; no values where the key never came. -/
def find (k : κ) : Grouping κ α → List α
  | [] => []
  | (k', as) :: rest => if k' = k then as else find k rest

/-- The values that a list gives a key. -/
def scan (k : κ) (pairs : List (κ × α)) : List α :=
  (pairs.filter fun p => p.1 = k).map (·.2)

theorem find_add_self (k : κ) (a : α) (g : Grouping κ α) :
    find k (add k a g) = find k g ++ [a] := by
  induction g with
  | nil => simp [add, find]
  | cons p rest ih =>
    obtain ⟨k', as⟩ := p
    by_cases h : k' = k <;> simp [add, find, h, ih]

theorem find_add_of_ne {k k' : κ} (h : k ≠ k') (a : α) (g : Grouping κ α) :
    find k' (add k a g) = find k' g := by
  induction g with
  | nil => simp [add, find, h]
  | cons p rest ih =>
    obtain ⟨j, as⟩ := p
    by_cases hj : j = k
    · subst hj; simp [add, find, h]
    · by_cases hk : j = k' <;> simp [add, find, hj, hk, ih, h.symm]

theorem find_foldl_add (k : κ) (pairs : List (κ × α)) (g : Grouping κ α) :
    find k (pairs.foldl (fun g p => add p.1 p.2 g) g) = find k g ++ scan k pairs := by
  induction pairs generalizing g with
  | nil => simp [scan]
  | cons p rest ih =>
    rw [List.foldl_cons, ih]
    by_cases h : p.1 = k
    · subst h; simp [find_add_self, scan]
    · simp [find_add_of_ne h, scan, h]

/-- A look-up gives what a scan of the list gives. -/
theorem find_ofList (k : κ) (pairs : List (κ × α)) : find k (ofList pairs) = scan k pairs := by
  simp [ofList, find_foldl_add, find]

end Grouping
end Rollout
