import Mathlib.Data.List.Forall2
import Rollout.Proofs.Catalog.Words
import Rollout.Proofs.Number.Whole
import Rollout.Proofs.Schema.Checked
import Rollout.Schema.Node

/-
Which values the readers accept. A reader of single values accepts one form of value only
and takes from it just what stands there: no text is converted, and no number rounded.
Lists and records are read member by member.
-/
namespace Rollout
namespace Schema

open Checked

variable {α β : Type}

theorem map_eq_valid_iff_exists {f : α → β} {x : Checked α} {b : β} :
    x.map f = .valid b ↔ ∃ a, x = .valid a ∧ f a = b := map_eq_valid_iff

/-! ## Scalars -/

theorem text_eq_valid_iff {v : Option Json} {s : String} :
    text v = .valid s ↔ v = some (.text s) := by
  constructor
  · intro h
    unfold text at h
    split at h
    · cases h
    · cases h
      rfl
    · cases h
  · rintro rfl
    rfl

theorem nonEmptyText_eq_valid_iff {v : Option Json} {s : String} :
    nonEmptyText v = .valid s ↔ v = some (.text s) ∧ s ≠ "" := by
  constructor
  · intro h
    unfold nonEmptyText at h
    split at h
    · cases h
    · split at h
      · cases h
      · rename_i hfilled
        cases h
        exact ⟨rfl, fun hempty => hfilled (by rw [hempty]; rfl)⟩
    · cases h
  · rintro ⟨rfl, hfilled⟩
    have hempty : ¬s.isEmpty = true := by
      rw [String.isEmpty_iff]
      exact hfilled
    rw [nonEmptyText, if_neg hempty]

theorem flag_eq_valid_iff {v : Option Json} {b : Bool} :
    flag v = .valid b ↔ v = some (.bool b) := by
  constructor
  · intro h
    unfold flag at h
    split at h
    · cases h
    · cases h
      rfl
    · cases h
  · rintro rfl
    rfl

theorem choice_eq_valid_iff [Worded α] [LawfulWorded α] {v : Option Json} {a : α} :
    choice α v = .valid a ↔ v = some (wordJson a) := by
  constructor
  · intro h
    unfold choice at h
    split at h
    · cases h
    · split at h
      · rename_i hword
        cases h
        rw [wordJson, Worded.word_of_ofWord? hword]
      · cases h
    · cases h
  · rintro rfl
    simp only [choice, wordJson, LawfulWorded.ofWord?_word]

/-! ## Whole figures -/

theorem holds_atLeast_ofNat {least n : Nat} :
    (Rule.atLeast least).holds (.ofNat n) = true ↔ least ≤ n := by
  rw [Rule.holds, Number.ofNat_lt_ofNat, Bool.not_eq_true', decide_eq_false_iff_not, Nat.not_lt]

theorem holds_atMost_ofNat {greatest n : Nat} :
    (Rule.atMost greatest).holds (.ofNat n) = true ↔ n ≤ greatest := by
  rw [Rule.holds, Number.ofNat_lt_ofNat, Bool.not_eq_true', decide_eq_false_iff_not, Nat.not_lt]

theorem holds_positive_ofNat {n : Nat} : Rule.positive.holds (.ofNat n) = true ↔ 0 < n := by
  rw [Rule.holds, Number.zero, Number.ofNat_lt_ofNat, decide_eq_true_iff]

/-- Whole numbers under a rule that allows none below zero are natural numbers, and the
figure that is read is the one that stands there. -/
theorem whole_eq_valid_iff {rules : List Rule} {bound : Rule} (hbound : bound ∈ rules)
    (hzero : ∀ x, bound.holds x = true → x.lt .zero = false) {v : Option Json} {n : Nat} :
    (number (.whole :: rules) v).map Number.toNat = .valid n ↔
      v = some (.nat n) ∧ ∀ r ∈ rules, r.holds (.ofNat n) = true := by
  rw [map_eq_valid_iff_exists]
  constructor
  · rintro ⟨x, hx, rfl⟩
    obtain ⟨rfl, -, hrules⟩ := number_eq_valid_iff.1 hx
    obtain ⟨hwhole, hrules⟩ := List.forall_mem_cons.1 hrules
    have hnat : Number.ofNat x.toNat = x := Number.ofNat_toNat hwhole (hzero x (hrules _ hbound))
    rw [Json.nat, hnat]
    exact ⟨rfl, hrules⟩
  · rintro ⟨rfl, hrules⟩
    refine ⟨.ofNat n, number_eq_valid_iff.2 ⟨rfl, Number.ofNat_ne_notANumber n, ?_⟩,
      Number.toNat_ofNat n⟩
    exact List.forall_mem_cons.2 ⟨Number.isInteger_ofNat n, hrules⟩

theorem lt_zero_of_holds_atLeast {least : Nat} (x : Number)
    (h : (Rule.atLeast least).holds x = true) : x.lt .zero = false := by
  rw [Rule.holds, Bool.not_eq_true'] at h
  cases x with
  | finite q =>
    have hq : (least : Rat) ≤ q := Rat.not_lt.1 (of_decide_eq_false h)
    have hleast : ((0 : Nat) : Rat) ≤ (least : Rat) := Rat.natCast_le_natCast.2 (Nat.zero_le least)
    exact decide_eq_false (Rat.not_lt.2 (Rat.le_trans hleast hq))
  | infinity => rfl
  | negInfinity => cases h
  | notANumber => rfl

theorem lt_zero_of_holds_positive (x : Number) (h : Rule.positive.holds x = true) :
    x.lt .zero = false := by
  cases x with
  | finite q =>
    have hq : ((0 : Nat) : Rat) < q := of_decide_eq_true h
    exact decide_eq_false (Rat.not_lt.2 (Rat.le_of_lt hq))
  | infinity => rfl
  | negInfinity => cases h
  | notANumber => rfl

theorem natural_eq_valid_iff {v : Option Json} {n : Nat} :
    natural v = .valid n ↔ v = some (.nat n) := by
  rw [natural, whole_eq_valid_iff List.mem_cons_self lt_zero_of_holds_atLeast]
  simp [holds_atLeast_ofNat]

theorem positive_eq_valid_iff {v : Option Json} {n : Nat} :
    positive v = .valid n ↔ v = some (.nat n) ∧ 0 < n := by
  rw [positive, whole_eq_valid_iff List.mem_cons_self lt_zero_of_holds_positive]
  simp [holds_positive_ofNat]

theorem port_eq_valid_iff {v : Option Json} {n : Nat} :
    port v = .valid n ↔ v = some (.nat n) ∧ 1 ≤ n ∧ n ≤ greatestPort := by
  rw [port, whole_eq_valid_iff List.mem_cons_self lt_zero_of_holds_atLeast]
  simp [holds_atLeast_ofNat, holds_atMost_ofNat]

/-! ## Absence -/

theorem optional_eq_valid_iff {r : Reader α} {v : Option Json} {o : Option α} :
    optional r v = .valid o ↔
      v = none ∧ o = none ∨ ∃ j a, v = some j ∧ r (some j) = .valid a ∧ o = some a := by
  cases v with
  | none => simp [optional, eq_comm]
  | some j => simp [optional, map_eq_valid_iff_exists, eq_comm]

/-! ## Lists and records -/

theorem itemsFrom_eq_valid_iff {r : Reader α} {i : Nat} {vs : List Json} {as : List α} :
    itemsFrom r i vs = .valid as ↔ List.Forall₂ (fun v a => r (some v) = .valid a) vs as := by
  induction vs generalizing i as with
  | nil => simp [itemsFrom, List.forall₂_nil_left_iff, eq_comm]
  | cons v rest ih =>
    rw [itemsFrom, seq_eq_valid_iff, List.forall₂_cons_left_iff]
    simp only [map_eq_valid_iff, under_eq_valid_iff, ih]
    constructor
    · rintro ⟨as, has, _, ⟨a, ha, rfl⟩, rfl⟩
      exact ⟨a, as, ha, has, rfl⟩
    · rintro ⟨a, as, ha, has, rfl⟩
      exact ⟨as, has, _, ⟨a, ha, rfl⟩, rfl⟩

theorem items_eq_valid_iff {r : Reader α} {v : Option Json} {as : List α} :
    items r v = .valid as ↔
      ∃ vs, v = some (.array vs) ∧ List.Forall₂ (fun v a => r (some v) = .valid a) vs as := by
  constructor
  · intro h
    unfold items at h
    split at h
    · cases h
    · exact ⟨_, rfl, itemsFrom_eq_valid_iff.1 h⟩
    · cases h
  · rintro ⟨vs, rfl, h⟩
    exact itemsFrom_eq_valid_iff.2 h

/-- A list that is written item by item is read back where each of its items is. -/
theorem items_map_eq_valid_iff {r : Reader α} {write : α → Json} {as : List α} :
    items r (some (.array (as.map write))) = .valid as ↔
      ∀ a ∈ as, r (some (write a)) = .valid a := by
  rw [items_eq_valid_iff]
  constructor
  · rintro ⟨_, hvs, has⟩
    cases hvs
    exact List.forall₂_same.1 (List.forall₂_map_left_iff.1 has)
  · intro h
    exact ⟨_, rfl, List.forall₂_map_left_iff.2 (List.forall₂_same.2 h)⟩

/-- A record is what is left of its members without the dropped key. -/
theorem members_eq_valid_iff {r : Reader α} {ms : List (String × Json)} {rec : Record α} :
    members r ms = .valid rec ↔
      ∃ as, List.Forall₂ (fun m a => m.1 = a.1 ∧ r (some m.2) = .valid a.2) ms as ∧
        rec = as.filter fun a => a.1 ≠ Record.droppedKey := by
  induction ms generalizing rec with
  | nil => simp [members, List.forall₂_nil_left_iff, eq_comm]
  | cons m rest ih =>
    obtain ⟨k, v⟩ := m
    rw [members, seq_eq_valid_iff]
    simp only [map_eq_valid_iff, under_eq_valid_iff, ih, List.forall₂_cons_left_iff]
    have hkeep : ∀ (a : α) (as : Record α),
        keep k a (as.filter fun a => a.1 ≠ Record.droppedKey) =
          ((k, a) :: as).filter fun a => a.1 ≠ Record.droppedKey := by
      intro a as
      by_cases hk : k = Record.droppedKey <;> simp [keep, hk]
    constructor
    · rintro ⟨_, ⟨as, has, rfl⟩, _, ⟨a, ha, rfl⟩, rfl⟩
      exact ⟨(k, a) :: as, ⟨(k, a), as, ⟨rfl, ha⟩, has, rfl⟩, hkeep a as⟩
    · rintro ⟨_, ⟨⟨_, a⟩, as, ⟨rfl, ha⟩, has, rfl⟩, rfl⟩
      exact ⟨_, ⟨as, has, rfl⟩, _, ⟨a, ha, rfl⟩, hkeep a as⟩

theorem record_eq_valid_iff {r : Reader α} {v : Option Json} {rec : Record α} :
    record r v = .valid rec ↔
      ∃ j ms, v = some j ∧ j.members? = some ms ∧ members r ms = .valid rec := by
  cases v with
  | none => simp [record, fail]
  | some j => cases hms : j.members? <;> simp [record, wrongType, fail, hms]

/-! ## Strategies -/

/-- The two forms of a strategy exclude each other: a word is no object. -/
theorem strategy_eq_valid_iff {v : Option Json} {s : Catalog.Strategy} :
    strategy v = .valid s ↔
      (∃ rule, choice Catalog.BasicStrategy v = .valid rule ∧ s = .basic rule) ∨
        ∃ weights, object (field "weighted" (record natural)) v = .valid weights ∧
          s = .weighted weights := by
  constructor
  · intro h
    unfold strategy at h
    split at h
    · rename_i rule hrule
      cases h
      exact .inl ⟨rule, hrule, rfl⟩
    · split at h
      · rename_i weights hweights
        cases h
        exact .inr ⟨weights, hweights, rfl⟩
      · split at h <;> cases h
  · rintro (⟨rule, hrule, rfl⟩ | ⟨weights, hweights, rfl⟩)
    · simp only [strategy, hrule]
    · cases hword : choice Catalog.BasicStrategy v with
      | valid rule =>
        obtain rfl := choice_eq_valid_iff.1 hword
        obtain ⟨_, _, hj, hms, -⟩ := object_eq_valid_iff.1 hweights
        cases hj
        cases hms
      | faulty => simp only [strategy, hword, hweights]

end Schema
end Rollout
