import Mathlib.Data.List.TakeWhile
import Mathlib.Tactic.ByContra
import Rollout.Text.Blank

/-
Blank texts are those of which trimming leaves nothing.
-/
namespace Rollout
namespace Text

theorem trim_eq_empty_iff {s : String} : trim s = "" ↔ ∀ c ∈ s.toList, isBlankChar c = true := by
  rw [trim, ← String.toList_inj, String.toList_ofList, String.toList_empty, List.reverse_eq_nil_iff,
    List.dropWhile_eq_nil_iff]
  simp only [List.mem_reverse]
  constructor
  · intro h
    -- What dropping leaves would begin with a character that is not blank.
    by_contra hfilled
    have hleft : s.toList.dropWhile isBlankChar ≠ [] := by
      rwa [Ne, List.dropWhile_eq_nil_iff]
    have hhead := List.head_dropWhile_not isBlankChar hleft
    rw [h _ (List.head_mem hleft)] at hhead
    cases hhead
  · intro h c hc
    exact h c ((List.dropWhile_suffix isBlankChar).subset hc)

theorem isBlank_eq_false_iff {s : String} : isBlank s = false ↔ trim s ≠ "" := by
  rw [Ne, trim_eq_empty_iff, ← Bool.not_eq_true, isBlank, List.all_eq_true]

end Text
end Rollout
