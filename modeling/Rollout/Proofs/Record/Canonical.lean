import Rollout.Proofs.Number.Shortest
import Rollout.Proofs.Record

/-
Record order. Of two keys that are indices the smaller one comes first, and an index comes
before every other key; apart from that the order is free. A list of members in this order
is its own record, and every record is in it.
-/
namespace Rollout
namespace Record

variable {α β : Type}

/-- Whether a key may stand before another one. -/
def Precedes (k l : String) : Prop := k ≠ l ∧ (index? l).all (fun j => indexBelow j k) = true

instance (k l : String) : Decidable (Precedes k l) := inferInstanceAs (Decidable (_ ∧ _))

/-- Members in record order, no key twice. -/
def Canonical (r : Record α) : Prop := (keys r).Pairwise Precedes

instance (r : Record α) : Decidable (Canonical r) := inferInstanceAs (Decidable (List.Pairwise _ _))

/-! ## Indices -/

theorem digitChar_of_digit? {c : Char} {d : Nat} (h : digit? c = some d) :
    d < 10 ∧ Nat.digitChar d = c := by
  rw [digit?] at h
  split at h
  case isTrue hc =>
    rw [Bool.and_eq_true, decide_eq_true_iff, decide_eq_true_iff, Char.le_def, Char.le_def] at hc
    have hlow : 48 ≤ c.toNat := hc.1
    have hhigh : c.toNat ≤ 57 := hc.2
    have hd : c.toNat - 48 = d := Option.some.inj h
    have hlt : d < 10 := by omega
    refine ⟨hlt, Char.toNat_inj.1 ?_⟩
    rw [Nat.toNat_digitChar_of_lt_ten hlt]
    omega
  case isFalse => cases h

/-- Digits that are read behind others are those of the number. -/
theorem toDigits_of_digitsValue? {cs : List Char} {acc n : Nat} (hacc : 0 < acc)
    (h : digitsValue? acc cs = some n) : Nat.toDigits 10 n = Nat.toDigits 10 acc ++ cs := by
  induction cs generalizing acc with
  | nil =>
    rw [digitsValue?, Option.some.injEq] at h
    rw [h, List.append_nil]
  | cons c rest ih =>
    obtain ⟨d, hd, hrest⟩ := Option.bind_eq_some_iff.1 h
    obtain ⟨hlt, rfl⟩ := digitChar_of_digit? hd
    have hstep := Nat.toDigits_append_toDigits (b := 10) (by decide) hacc hlt
    rw [Nat.toDigits_of_lt_base hlt, Nat.mul_comm] at hstep
    rw [ih (by omega) hrest, ← hstep, List.append_assoc, List.singleton_append]

/-- An index is written in one way. -/
theorem toList_of_index? {key : String} {n : Nat} (h : index? key = some n) :
    key.toList = Nat.toDigits 10 n := by
  rw [index?] at h
  split at h
  · cases h
  · rename_i hkey
    rw [hkey, ← Option.some.inj h, Nat.toDigits_zero]
  · cases h
  · rename_i hnil hzero hzeros
    split at h
    · cases h
    · obtain ⟨m, hm, hbound⟩ := Option.bind_eq_some_iff.1 h
      split at hbound
      · obtain rfl := Option.some.inj hbound
        cases hkey : key.toList with
        | nil => exact absurd hkey hnil
        | cons c rest =>
          rw [hkey] at hm
          obtain ⟨d, hd, hrest⟩ := Option.bind_eq_some_iff.1 hm
          obtain ⟨hlt, rfl⟩ := digitChar_of_digit? hd
          have hpos : 0 < d := by
            rcases Nat.eq_zero_or_pos d with rfl | hpos
            · exact absurd hkey (hzeros rest)
            · exact hpos
          rw [Nat.zero_mul, Nat.zero_add] at hrest
          rw [toDigits_of_digitsValue? hpos hrest, Nat.toDigits_of_lt_base hlt,
            List.singleton_append]
      · cases hbound

theorem index?_inj {k l : String} {n : Nat} (hk : index? k = some n) (hl : index? l = some n) :
    k = l := by
  rw [← String.toList_inj, toList_of_index? hk, toList_of_index? hl]

theorem indexBelow_iff {i : Nat} {key : String} :
    indexBelow i key = true ↔ ∃ j, index? key = some j ∧ j < i := by
  rw [indexBelow]
  cases index? key <;> simp

theorem digit?_digitChar : ∀ d < 10, digit? (Nat.digitChar d) = some d := by decide

theorem digitsValue?_append (acc : Nat) (cs ds : List Char) :
    digitsValue? acc (cs ++ ds) = (digitsValue? acc cs).bind fun n => digitsValue? n ds := by
  induction cs generalizing acc with
  | nil => rfl
  | cons c rest ih =>
    rw [List.cons_append, digitsValue?, digitsValue?, Option.bind_assoc]
    simp only [ih]

theorem digitsValue?_toDigits (n : Nat) : digitsValue? 0 (Nat.toDigits 10 n) = some n := by
  induction n using Nat.strong_induction_on with
  | _ n ih =>
    rw [Nat.toDigits_eq_if (by decide)]
    split
    case isTrue hn =>
      rw [digitsValue?, digit?_digitChar n hn]
      simp [digitsValue?]
    case isFalse hn =>
      have hdigit := digit?_digitChar (n % 10) (Nat.mod_lt n (by decide))
      rw [digitsValue?_append, ih (n / 10) (by omega), Option.bind_some, digitsValue?, hdigit,
        Option.bind_some, digitsValue?, Option.some.injEq]
      omega

theorem lt_of_index? {key : String} {n : Nat} (h : index? key = some n) : n < indexBound := by
  rw [index?] at h
  split at h
  · cases h
  · rw [← Option.some.inj h]
    decide
  · cases h
  · split at h
    · cases h
    · obtain ⟨m, -, hbound⟩ := Option.bind_eq_some_iff.1 h
      split at hbound
      case isTrue hm => rwa [← Option.some.inj hbound]
      case isFalse => cases hbound

/-- The key under which the members of a list are addressed is the index it writes. -/
theorem index?_toDigits {n : Nat} (h : n < indexBound) :
    index? (String.ofList (Nat.toDigits 10 n)) = some n := by
  rcases Nat.eq_zero_or_pos n with rfl | hpos
  · rfl
  have hlength : (Nat.toDigits 10 n).length ≤ 10 :=
    (Nat.length_toDigits_le_iff (by decide) (by decide)).2 (Nat.lt_trans h (by decide))
  have hhead := Shortest.head?_toDigits (Nat.ne_of_gt hpos)
  rw [index?, String.toList_ofList]
  split
  · rename_i hnil
    exact absurd hnil Nat.toDigits_ne_nil
  · rename_i hzero
    exact absurd (by rw [hzero]; rfl) hhead
  · rename_i hzeros
    exact absurd (by rw [hzeros]; rfl) hhead
  · rw [if_neg (Nat.not_lt.2 hlength), digitsValue?_toDigits, Option.bind_some, if_pos h]

/-- Members that are keyed by their indices are in record order. -/
theorem canonical_zipIdx (values : List β) (f : β → α) :
    Canonical (values.zipIdx.map fun (b, i) => (String.ofList (Nat.toDigits 10 i), f b)) := by
  have hkeys : keys (values.zipIdx.map fun (b, i) => (String.ofList (Nat.toDigits 10 i), f b)) =
      (List.range values.length).map fun i => String.ofList (Nat.toDigits 10 i) := by
    rw [keys, List.map_map, List.range_eq_range', ← List.zipIdx_map_snd 0 values, List.map_map]
    rfl
  rw [Canonical, hkeys, List.pairwise_map]
  refine List.pairwise_lt_range.imp fun {i j} hij => ⟨fun heq => ?_, ?_⟩
  · have hdigits := congrArg Decimal.ofDigits (String.ofList_injective heq)
    rw [Decimal.ofDigits_toDigits, Decimal.ofDigits_toDigits] at hdigits
    omega
  · cases hj : index? (String.ofList (Nat.toDigits 10 j)) with
    | none => rfl
    | some n =>
      have hdigits := congrArg Decimal.ofDigits (toList_of_index? hj)
      rw [String.toList_ofList, Decimal.ofDigits_toDigits, Decimal.ofDigits_toDigits] at hdigits
      have hbound := lt_of_index? hj
      exact indexBelow_iff.2 ⟨i, index?_toDigits (by omega), by omega⟩

/-! ## Lists in record order -/

theorem insertIndex_of_precedes {r : Record α} {key : String} {i : Nat} (value : α)
    (hi : index? key = some i) (h : ∀ m ∈ r, Precedes m.1 key) :
    insertIndex i key value r = r ++ [(key, value)] := by
  induction r with
  | nil => rfl
  | cons m rest ih =>
    have hbelow : indexBelow i m.1 = true := by
      have hm := (h m List.mem_cons_self).2
      rwa [hi, Option.all_some] at hm
    obtain ⟨k, v⟩ := m
    rw [insertIndex, if_pos hbelow, ih fun m hm => h m (List.mem_cons_of_mem _ hm),
      List.cons_append]

theorem put_of_precedes {r : Record α} {key : String} (value : α)
    (h : ∀ m ∈ r, Precedes m.1 key) : put r key value = r ++ [(key, value)] := by
  have hnew : has r key = false := by
    rw [has_eq_false_iff]
    intro hmem
    obtain ⟨m, hm, rfl⟩ := List.mem_map.1 hmem
    exact (h m hm).1 rfl
  rw [put, if_neg (by rw [hnew]; decide)]
  cases hi : index? key with
  | none => rfl
  | some i => exact insertIndex_of_precedes value hi h

theorem foldl_put_of_canonical {members r : Record α} (h : Canonical (r ++ members)) :
    members.foldl (fun r m => put r m.1 m.2) r = r ++ members := by
  induction members generalizing r with
  | nil => rw [List.foldl_nil, List.append_nil]
  | cons m rest ih =>
    have hbefore : ∀ n ∈ r, Precedes n.1 m.1 := by
      intro n hn
      rw [Canonical, keys, List.map_append, List.pairwise_append] at h
      exact h.2.2 n.1 (List.mem_map_of_mem hn) m.1 List.mem_cons_self
    have happend : r ++ m :: rest = r ++ [m] ++ rest := by simp
    rw [List.foldl_cons, put_of_precedes m.2 hbefore, happend]
    exact ih (happend ▸ h)

/-- Members in record order are their own record. -/
theorem ofList_of_canonical {members : Record α} (h : Canonical members) :
    ofList members = members := foldl_put_of_canonical (r := []) h

/-! ## Records are in record order -/

theorem keys_replace (r : Record α) (key : String) (value : α) :
    keys (replace r key value) = keys r := by
  induction r with
  | nil => rfl
  | cons m rest ih =>
    obtain ⟨k, v⟩ := m
    rw [replace]
    by_cases hk : k = key
    · rw [if_pos hk, keys, keys, List.map_cons, List.map_cons, hk]
    · rw [if_neg hk, keys, List.map_cons]
      exact congrArg (k :: ·) ih

/-- An index that the first key does not stay in front of may come before all keys. -/
theorem Canonical.precedes_of_not_indexBelow {m : String × α} {rest : Record α}
    (h : Canonical (m :: rest)) {key l : String} {i : Nat} (hi : index? key = some i)
    (hbelow : ¬indexBelow i m.1 = true) (hl : l ∈ keys (m :: rest)) (hne : key ≠ l) :
    Precedes key l := by
  refine ⟨hne, ?_⟩
  cases hj : index? l with
  | none => rfl
  | some j =>
    have hlt : i < j := by
      rcases List.mem_cons.1 hl with rfl | hl
      · -- Two keys with the same index would be the same key.
        have hij : i ≠ j := fun heq => hne (index?_inj hi (heq ▸ hj))
        have hle : ¬j < i := fun hlt => hbelow (indexBelow_iff.2 ⟨j, hj, hlt⟩)
        omega
      · have hml := ((List.pairwise_cons.1 h).1 l hl).2
        rw [hj, Option.all_some] at hml
        obtain ⟨n, hn, hnj⟩ := indexBelow_iff.1 hml
        have hle : ¬n < i := fun hlt => hbelow (indexBelow_iff.2 ⟨n, hn, hlt⟩)
        omega
    exact indexBelow_iff.2 ⟨i, hi, hlt⟩

theorem canonical_insertIndex {r : Record α} {key : String} {i : Nat} (value : α)
    (hi : index? key = some i) (hnew : key ∉ keys r) (h : Canonical r) :
    Canonical (insertIndex i key value r) := by
  induction r with
  | nil => exact List.pairwise_singleton _ _
  | cons m rest ih =>
    obtain ⟨k, v⟩ := m
    obtain ⟨hhead, hrest⟩ := List.pairwise_cons.1 h
    have hk : k ≠ key := fun heq => hnew (heq ▸ List.mem_cons_self)
    have hnewRest : key ∉ keys rest := fun hmem => hnew (List.mem_cons_of_mem _ hmem)
    rw [insertIndex]
    by_cases hbelow : indexBelow i k = true
    · rw [if_pos hbelow]
      refine List.pairwise_cons.2 ⟨fun l hl => ?_, ih hnewRest hrest⟩
      have hperm := ((insertIndex_perm i key value rest).map (·.1)).mem_iff.1 hl
      rcases List.mem_cons.1 hperm with rfl | hl
      · refine ⟨hk, ?_⟩
        rw [hi]
        exact hbelow
      · exact hhead l hl
    · rw [if_neg hbelow]
      refine List.pairwise_cons.2 ⟨fun l hl => ?_, h⟩
      have hne : key ≠ l := fun heq => hnew (heq.symm ▸ hl)
      exact h.precedes_of_not_indexBelow hi hbelow hl hne

theorem canonical_put {r : Record α} (h : Canonical r) (key : String) (value : α) :
    Canonical (put r key value) := by
  rw [put]
  by_cases hhas : has r key = true
  · rw [if_pos hhas, Canonical, keys_replace]
    exact h
  have hnew : key ∉ keys r := has_eq_false_iff.1 (Bool.eq_false_iff.2 hhas)
  rw [if_neg hhas]
  cases hi : index? key with
  | some i => exact canonical_insertIndex value hi hnew h
  | none =>
    have hkeys : keys (r ++ [(key, value)]) = keys r ++ [key] := List.map_append
    rw [Canonical, hkeys, List.pairwise_append]
    refine ⟨h, List.pairwise_singleton _ _, fun k hk l hl => ?_⟩
    obtain rfl := List.mem_singleton.1 hl
    refine ⟨fun heq => hnew (heq ▸ hk), ?_⟩
    rw [hi]
    rfl

/-- Every record is in record order. -/
theorem canonical_ofList (members : List (String × α)) : Canonical (ofList members) := by
  have hfold : ∀ r : Record α, Canonical r →
      Canonical (members.foldl (fun r m => put r m.1 m.2) r) := by
    induction members with
    | nil => exact fun r hr => hr
    | cons m rest ih => exact fun r hr => ih _ (canonical_put hr m.1 m.2)
  exact hfold [] List.Pairwise.nil

theorem Canonical.filter {r : Record α} (h : Canonical r) (p : String × α → Bool) :
    Canonical (r.filter p) := h.sublist (List.filter_sublist.map _)

theorem canonical_map_iff {r : Record α} (f : String × α → β) :
    Canonical (r.map fun m => (m.1, f m)) ↔ Canonical r := by
  rw [Canonical, Canonical, keys, keys, List.map_map]
  rfl

end Record
end Rollout
