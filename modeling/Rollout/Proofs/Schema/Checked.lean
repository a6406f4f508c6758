import Rollout.Proofs.Number.Order
import Rollout.Schema.Check

/-
Readers that succeed. What a combined reader gives is put together from what its parts
give, each of which has succeeded as well; for the readers of numbers the rules are read
back as facts about the number.
-/
namespace Rollout
namespace Schema

variable {α β : Type}

namespace Checked

theorem map_eq_valid_iff {f : α → β} {x : Checked α} {b : β} :
    f <$> x = .valid b ↔ ∃ a, x = .valid a ∧ f a = b := by
  cases x <;> simp [Functor.map, map]

theorem seq_eq_valid_iff {f : Checked (α → β)} {x : Checked α} {b : β} :
    f <*> x = .valid b ↔ ∃ a, x = .valid a ∧ ∃ g, f = .valid g ∧ g a = b := by
  cases f <;> cases x <;> simp [Seq.seq, ap]

/-! The same with something said of the value, so that a row of fields opens in one go,
the last field first. -/

theorem exists_map_iff {f : α → β} {x : Checked α} {P : β → Prop} :
    (∃ b, f <$> x = .valid b ∧ P b) ↔ ∃ a, x = .valid a ∧ P (f a) := by
  cases x <;> simp [Functor.map, map]

theorem exists_seq_iff {f : Checked (α → β)} {x : Checked α} {P : β → Prop} :
    (∃ b, f <*> x = .valid b ∧ P b) ↔
      ∃ a, x = .valid a ∧ ∃ g, f = .valid g ∧ P (g a) := by
  cases f <;> cases x <;> simp [Seq.seq, ap]

theorem under_eq_valid_iff {s : Step} {x : Checked α} {a : α} :
    x.under s = .valid a ↔ x = .valid a := by
  cases x <;> simp [under]

end Checked

open Checked

/-! ## Absence and objects -/

theorem field_eq_valid_iff {key : String} {r : Reader α} {ms : List (String × Json)} {a : α} :
    field key r ms = .valid a ↔ r (Record.get? ms key) = .valid a := under_eq_valid_iff

theorem optional_eq_valid_some_iff {r : Reader α} {v : Option Json} {a : α} :
    optional r v = .valid (some a) ↔ ∃ j, v = some j ∧ r (some j) = .valid a := by
  cases v with
  | none => simp [optional]
  | some j => cases hr : r (some j) <;> simp [optional, Checked.map, hr]

theorem orElse_eq_valid_iff {default a : α} {r : Reader α} {v : Option Json} :
    orElse default r v = .valid a ↔
      (v = none ∧ a = default) ∨ ∃ j, v = some j ∧ r (some j) = .valid a := by
  cases v with
  | none => simp [orElse, eq_comm]
  | some j => simp [orElse]

theorem object_eq_valid_iff {fields : List (String × Json) → Checked α} {v : Option Json}
    {a : α} :
    object fields v = .valid a ↔
      ∃ j ms, v = some j ∧ j.members? = some ms ∧ fields ms = .valid a := by
  cases v with
  | none => simp [object, fail]
  | some j => cases hms : j.members? <;> simp [object, wrongType, fail, hms]

theorem exists_form_of_byKind {κ : Type} [Worded κ] {forms : κ → List (String × Json) → Checked α}
    {v : Option Json} {a : α} (h : byKind κ forms v = .valid a) :
    ∃ k j ms, v = some j ∧ j.members? = some ms ∧ forms k ms = .valid a := by
  obtain ⟨j, ms, hv, hj, hms⟩ := object_eq_valid_iff.1 h
  split at hms
  · split at hms
    · rename_i k _
      exact ⟨k, j, ms, hv, hj, hms⟩
    · cases hms
  · cases hms

/-! ## Numbers -/

theorem obey_eq_valid_iff {rules : List Rule} {n m : Number} :
    obey rules n = .valid m ↔ m = n ∧ ∀ r ∈ rules, r.holds n = true := by
  have hnil : rules.filter (fun r => !r.holds n) = [] ↔ ∀ r ∈ rules, r.holds n = true := by
    simp
  rw [obey, ← hnil]
  cases rules.filter fun r => !r.holds n <;> simp [eq_comm]

theorem number_eq_valid_iff {rules : List Rule} {v : Option Json} {n : Number} :
    number rules v = .valid n ↔
      v = some (.number n) ∧ n ≠ .notANumber ∧ ∀ r ∈ rules, r.holds n = true := by
  constructor
  · intro h
    unfold number at h
    split at h
    · cases h
    · cases h
    · rename_i m hm
      obtain ⟨rfl, hrules⟩ := obey_eq_valid_iff.1 h
      exact ⟨rfl, fun hn => hm hn, hrules⟩
    · cases h
  · rintro ⟨rfl, hn, hrules⟩
    cases n with
    | notANumber => exact absurd rfl hn
    | finite q => exact obey_eq_valid_iff.2 ⟨rfl, hrules⟩
    | infinity => exact obey_eq_valid_iff.2 ⟨rfl, hrules⟩
    | negInfinity => exact obey_eq_valid_iff.2 ⟨rfl, hrules⟩

theorem nonNegative_eq_valid_iff {v : Option Json} {n : Number} :
    nonNegative v = .valid n ↔ v = some (.number n) ∧ Number.zero.AtMost n := by
  rw [nonNegative, number_eq_valid_iff]
  refine and_congr_right fun _ => ?_
  have hrule : (Rule.atLeast 0).holds n = true ↔ n.lt .zero = false := by
    rw [Rule.holds, Bool.not_eq_true', Number.zero]
  rw [List.forall_mem_singleton, hrule]
  constructor
  · rintro ⟨hn, hlt⟩
    exact (Number.not_lt_iff_atMost (by simp [Number.zero, Number.ofNat]) hn).1 hlt
  · intro h
    have hn : n ≠ .notANumber := h.right_ne_notANumber
    exact ⟨hn, (Number.not_lt_iff_atMost (by simp [Number.zero, Number.ofNat]) hn).2 h⟩

end Schema
end Rollout
