import Rollout.Record

/-
What a record of a list of members holds. A new key brings one more member, wherever the
record puts it; so a list without repeated keys loses nothing and gains nothing, and only
the places of its members may change.
-/
namespace Rollout
namespace Record

variable {α : Type}

theorem get?_eq_none_iff {r : Record α} {key : String} : get? r key = none ↔ key ∉ keys r := by
  induction r with
  | nil => simp [get?, keys]
  | cons m rest ih =>
    obtain ⟨k, v⟩ := m
    rw [get?, keys, List.map_cons, List.mem_cons, not_or]
    by_cases hk : k = key
    · rw [if_pos hk]
      simp [hk]
    · rw [if_neg hk, ih]
      exact ⟨fun h => ⟨fun he => hk he.symm, h⟩, fun h => h.2⟩

theorem has_eq_false_iff {r : Record α} {key : String} : has r key = false ↔ key ∉ keys r := by
  rw [has, ← get?_eq_none_iff, Option.isSome_eq_false_iff, Option.isNone_iff_eq_none]

theorem mem_of_get? {r : Record α} {key : String} {a : α} (h : get? r key = some a) :
    (key, a) ∈ r := by
  induction r with
  | nil => cases h
  | cons m rest ih =>
    rw [get?] at h
    split at h
    case isTrue hk =>
      obtain rfl := hk
      obtain rfl := Option.some.inj h
      exact List.mem_cons_self
    case isFalse => exact List.mem_cons_of_mem m (ih h)

/-- Where no key occurs twice, every member is found. -/
theorem get?_eq_some_iff_mem {r : Record α} (h : (keys r).Nodup) {key : String} {a : α} :
    get? r key = some a ↔ (key, a) ∈ r := by
  refine ⟨mem_of_get?, fun hmem => ?_⟩
  induction r with
  | nil => cases hmem
  | cons m rest ih =>
    obtain ⟨hm, hrest⟩ := List.nodup_cons.1 h
    rw [get?]
    rcases List.mem_cons.1 hmem with rfl | hmem
    · exact if_pos rfl
    · have hkey : m.1 ≠ key := fun heq =>
        hm (List.mem_map.2 ⟨(key, a), hmem, heq.symm⟩)
      rw [if_neg hkey, ih hrest hmem]

/-- Leaving members out by their keys loses what stands under those keys and nothing else. -/
theorem get?_filter (r : Record α) (p : String → Bool) (key : String) :
    get? (r.filter fun m => p m.1) key = if p key = true then get? r key else none := by
  induction r with
  | nil => simp [get?]
  | cons m rest ih =>
    obtain ⟨k, v⟩ := m
    by_cases hk : k = key
    · subst hk
      by_cases hp : p k = true
      · rw [List.filter_cons, if_pos hp, get?, if_pos rfl, if_pos hp, get?, if_pos rfl]
      · rw [List.filter_cons, if_neg hp, ih, if_neg hp, if_neg hp]
    · have hrest : get? ((k, v) :: rest) key = get? rest key := by rw [get?, if_neg hk]
      by_cases hp : p k = true
      · rw [List.filter_cons, if_pos hp, get?, if_neg hk, ih, hrest]
      · rw [List.filter_cons, if_neg hp, ih, hrest]

theorem insertIndex_perm (i : Nat) (key : String) (value : α) (r : Record α) :
    (insertIndex i key value r).Perm ((key, value) :: r) := by
  induction r with
  | nil => exact List.Perm.refl _
  | cons m rest ih =>
    obtain ⟨k, v⟩ := m
    rw [insertIndex]
    by_cases hk : indexBelow i k = true
    · rw [if_pos hk]
      exact (ih.cons (k, v)).trans (List.Perm.swap _ _ rest)
    · rw [if_neg hk]

/-- A new key brings one more member. -/
theorem put_perm {r : Record α} {key : String} (h : key ∉ keys r) (value : α) :
    (put r key value).Perm ((key, value) :: r) := by
  have hnew : ¬has r key = true := by
    rw [has_eq_false_iff.2 h]
    exact Bool.false_ne_true
  rw [put, if_neg hnew]
  cases index? key with
  | none => exact List.perm_append_singleton _ _
  | some i => exact insertIndex_perm i key value r

theorem foldl_put_perm {members r : Record α} (hmembers : (keys members).Nodup)
    (hnew : ∀ key ∈ keys members, key ∉ keys r) :
    (members.foldl (fun r m => put r m.1 m.2) r).Perm (members ++ r) := by
  induction members generalizing r with
  | nil => exact List.Perm.refl _
  | cons m rest ih =>
    obtain ⟨hm, hrest⟩ := List.nodup_cons.1 hmembers
    have hput := put_perm (hnew m.1 List.mem_cons_self) m.2
    have hkeys : ∀ key ∈ keys rest, key ∉ keys (put r m.1 m.2) := by
      intro key hkey hmem
      have hcons := (hput.map (·.1)).mem_iff.1 hmem
      rcases List.mem_cons.1 hcons with rfl | hr
      · exact hm hkey
      · exact hnew key (List.mem_cons_of_mem _ hkey) hr
    rw [List.foldl_cons]
    exact ((ih hrest hkeys).trans (hput.append_left rest)).trans List.perm_middle

theorem ofList_perm {members : List (String × α)} (h : (members.map (·.1)).Nodup) :
    (ofList members).Perm members := by
  have hperm := foldl_put_perm (r := []) h fun _ _ => List.not_mem_nil
  rwa [List.append_nil] at hperm

end Record
end Rollout
