import Mathlib.Algebra.Group.Nat.Defs
import Mathlib.Data.Nat.Find
import Mathlib.Data.Nat.Size
import Mathlib.Logic.Function.Iterate
import Rollout.Proofs.Text.UnitOrder
import Rollout.Schedule.Queue

/-
The queue keeps its ids in ascending order. The search for the place of a new id halves what
it has left of the queue until that is nothing, and reads no id outside the queue. All ids
before the place come before the new one, none from it on does: the new id is inserted before
the first that is not smaller, and the others keep their order.
-/
namespace Rollout
namespace Schedule

open Text

/-- Ids in ascending order, in which equal ids may stand side by side. -/
def Ascending (ids : List String) : Prop := ids.Pairwise fun a b => ¬precedes b a = true

theorem Ascending.not_precedes_of_le {ids : List String} (h : Ascending ids) {i j : Nat}
    {a b : String} (hij : i ≤ j) (ha : ids[i]? = some a) (hb : ids[j]? = some b) :
    ¬precedes b a = true := by
  obtain ⟨hi, rfl⟩ := List.getElem?_eq_some_iff.1 ha
  obtain ⟨hj, rfl⟩ := List.getElem?_eq_some_iff.1 hb
  rcases Nat.lt_or_eq_of_le hij with hlt | rfl
  · exact List.pairwise_iff_getElem.1 h i j hi hj hlt
  · exact not_precedes_self _

/-- The first id of an ascending list comes before every other one in it. -/
theorem Ascending.eq_or_precedes {id other : String} {rest : List String}
    (h : Ascending (id :: rest)) (hmem : other ∈ id :: rest) :
    other = id ∨ precedes id other = true := by
  rcases List.mem_cons.1 hmem with rfl | hrest
  · exact Or.inl rfl
  · by_cases hid : other = id
    · exact Or.inl hid
    · exact Or.inr ((precedes_total hid).resolve_left ((List.pairwise_cons.1 h).1 other hrest))

theorem Ascending.pairwise_precedes {ids : List String} (h : Ascending ids) (hn : ids.Nodup) :
    ids.Pairwise fun a b => precedes a b = true :=
  (h.and hn).imp fun ⟨hnot, hne⟩ => (precedes_total hne).resolve_right hnot

/-! ## Halving -/

/-- What a search has left of a queue: the ids from the place `low` on that stand before the
place `high`. -/
structure Span where
  low : Nat
  high : Nat

namespace Span

def whole (ids : List String) : Span := ⟨0, ids.length⟩

def width (s : Span) : Nat := s.high - s.low

def middle (s : Span) : Nat := (s.low + s.high) / 2

/-- One turn of a search: it reads the id in the middle and keeps the half on the side of the
new id. A read outside the queue would find no smaller id. A search with nothing left stays
where it is. -/
def halve (ids : List String) (id : String) (s : Span) : Span :=
  if s.low < s.high then
    if (ids[s.middle]?).any (precedes · id) then { s with low := s.middle + 1 }
    else { s with high := s.middle }
  else s

end Span

/-- What the search for the place of `id` has left after so many turns. -/
def spanAfter (ids : List String) (id : String) (turns : Nat) : Span :=
  (Span.halve ids id)^[turns] (Span.whole ids)

/-- What a search knows: the ids below what it has left come before the new one, and those
above do not. -/
structure Encloses (ids : List String) (id : String) (s : Span) : Prop where
  low_le_high : s.low ≤ s.high
  high_le_length : s.high ≤ ids.length
  before : ∀ i other, i < s.low → ids[i]? = some other → precedes other id = true
  after : ∀ i other, s.high ≤ i → ids[i]? = some other → ¬precedes other id = true

section Turns

variable {ids : List String} {id other : String} {s : Span}

theorem Span.halve_of_precedes (hopen : s.low < s.high) (hread : ids[s.middle]? = some other)
    (hp : precedes other id = true) : s.halve ids id = { s with low := s.middle + 1 } := by
  simp only [Span.halve, if_pos hopen, hread, Option.any_some, hp, if_true]

theorem Span.halve_of_not_precedes (hopen : s.low < s.high)
    (hread : ids[s.middle]? = some other) (hp : ¬precedes other id = true) :
    s.halve ids id = { s with high := s.middle } := by
  simp only [Span.halve, if_pos hopen, hread, Option.any_some, if_neg hp]

theorem Span.halve_of_not_lt (hclosed : ¬s.low < s.high) : s.halve ids id = s := if_neg hclosed

theorem Span.middle_lt_high (hopen : s.low < s.high) : s.middle < s.high := by
  unfold Span.middle
  omega

theorem Span.low_le_middle (hopen : s.low < s.high) : s.low ≤ s.middle := by
  unfold Span.middle
  omega

theorem encloses_whole (ids : List String) (id : String) : Encloses ids id (.whole ids) := by
  refine ⟨Nat.zero_le _, Nat.le_refl _, ?_, ?_⟩
  · intro i other hi
    cases hi
  · intro i other hi hother
    rw [List.getElem?_eq_none hi] at hother
    cases hother

/-- The id that a turn reads stands in the queue. -/
theorem Encloses.exists_read (h : Encloses ids id s) (hopen : s.low < s.high) :
    ∃ other, ids[s.middle]? = some other :=
  ⟨_, List.getElem?_eq_getElem ((Span.middle_lt_high hopen).trans_le h.high_le_length)⟩

theorem Encloses.halve (hs : Ascending ids) (h : Encloses ids id s) :
    Encloses ids id (s.halve ids id) := by
  by_cases hopen : s.low < s.high
  · obtain ⟨other, hread⟩ := h.exists_read hopen
    by_cases hp : precedes other id = true
    · rw [Span.halve_of_precedes hopen hread hp]
      refine ⟨Span.middle_lt_high hopen, h.high_le_length, ?_, h.after⟩
      intro i lower hi hlower
      have hnot := hs.not_precedes_of_le (Nat.le_of_lt_succ hi) hlower hread
      exact precedes_of_not_precedes_of_precedes hnot hp
    · rw [Span.halve_of_not_precedes hopen hread hp]
      refine ⟨Span.low_le_middle hopen, (Span.middle_lt_high hopen).le.trans h.high_le_length,
        h.before, ?_⟩
      intro i upper hi hupper hprec
      have hnot := hs.not_precedes_of_le hi hread hupper
      exact hp (precedes_of_not_precedes_of_precedes hnot hprec)
  · rwa [Span.halve_of_not_lt hopen]

theorem encloses_spanAfter (hs : Ascending ids) (id : String) (turns : Nat) :
    Encloses ids id (spanAfter ids id turns) := by
  induction turns with
  | zero => exact encloses_whole ids id
  | succ turns ih =>
    rw [spanAfter, Function.iterate_succ_apply']
    exact ih.halve hs

end Turns

/-! ## The end of a search -/

theorem Span.width_halve_le (ids : List String) (id : String) (s : Span) :
    (s.halve ids id).width ≤ s.width / 2 := by
  unfold Span.halve Span.width Span.middle
  split
  · split
    · show s.high - ((s.low + s.high) / 2 + 1) ≤ (s.high - s.low) / 2
      omega
    · show (s.low + s.high) / 2 - s.low ≤ (s.high - s.low) / 2
      omega
  · omega

theorem width_spanAfter_le (ids : List String) (id : String) (turns : Nat) :
    (spanAfter ids id turns).width ≤ ids.length / 2 ^ turns := by
  induction turns with
  | zero => simp [spanAfter, Span.whole, Span.width]
  | succ turns ih =>
    have hturn := Span.width_halve_le ids id (spanAfter ids id turns)
    rw [spanAfter, Function.iterate_succ_apply', ← spanAfter, pow_succ,
      ← Nat.div_div_eq_div_mul]
    exact hturn.trans (Nat.div_le_div_right ih)

/-- As many turns as the length has binary digits leave nothing of the queue. -/
theorem not_lt_spanAfter_size (ids : List String) (id : String) :
    ¬(spanAfter ids id (Nat.size ids.length)).low <
      (spanAfter ids id (Nat.size ids.length)).high := by
  have hwidth := width_spanAfter_le ids id (Nat.size ids.length)
  rw [Nat.div_eq_of_lt (Nat.lt_size_self _), Span.width] at hwidth
  omega

theorem lowerBound_of_not_lt (ids : List String) (id : String) (steps : Nat) {low high : Nat}
    (hclosed : ¬low < high) : lowerBound ids id steps low high = low := by
  cases steps with
  | zero => rfl
  | succ steps => rw [lowerBound, if_neg hclosed]

theorem lowerBound_succ {ids : List String} {id : String} {s : Span} (h : Encloses ids id s)
    (hopen : s.low < s.high) (steps : Nat) :
    lowerBound ids id (steps + 1) s.low s.high =
      lowerBound ids id steps (s.halve ids id).low (s.halve ids id).high := by
  obtain ⟨other, hread⟩ := h.exists_read hopen
  rw [lowerBound, if_pos hopen]
  by_cases hp : precedes other id = true
  · rw [Span.halve_of_precedes hopen hread hp]
    rw [Span.middle] at hread ⊢
    simp only [hread, if_pos hp]
  · rw [Span.halve_of_not_precedes hopen hread hp]
    rw [Span.middle] at hread ⊢
    simp only [hread, if_neg hp]

theorem Encloses.lowerBound_eq {ids : List String} (hs : Ascending ids) {id : String} {s : Span}
    (h : Encloses ids id s) (steps : Nat) :
    lowerBound ids id steps s.low s.high = ((Span.halve ids id)^[steps] s).low := by
  induction steps generalizing s with
  | zero => rfl
  | succ steps ih =>
    by_cases hopen : s.low < s.high
    · rw [lowerBound_succ h hopen, ih (h.halve hs), Function.iterate_succ_apply]
    · rw [lowerBound_of_not_lt ids id _ hopen,
        Function.iterate_fixed (Span.halve_of_not_lt hopen)]

/-- A search that has nothing left is at the place of the id. The running search may take more
turns, but it stays where it is. -/
theorem place_eq_low {ids : List String} (hs : Ascending ids) {id : String} {turns : Nat}
    (hturns : turns ≤ ids.length)
    (hclosed : ¬(spanAfter ids id turns).low < (spanAfter ids id turns).high) :
    place ids id = (spanAfter ids id turns).low := by
  obtain ⟨more, hmore⟩ := Nat.exists_eq_add_of_le' hturns
  calc place ids id
      = ((Span.halve ids id)^[ids.length] (Span.whole ids)).low :=
        (encloses_whole ids id).lowerBound_eq hs ids.length
    _ = ((Span.halve ids id)^[more] (spanAfter ids id turns)).low := by
        rw [hmore, Function.iterate_add_apply, spanAfter]
    _ = (spanAfter ids id turns).low := by
        rw [Function.iterate_fixed (Span.halve_of_not_lt hclosed)]

/-- A search has something left until it ends at the place of the id. -/
theorem exists_last_turn {ids : List String} (hs : Ascending ids) (id : String) :
    ∃ n ≤ Nat.size ids.length,
      (∀ k < n, (spanAfter ids id k).low < (spanAfter ids id k).high) ∧
      (spanAfter ids id n).low = (spanAfter ids id n).high ∧
      place ids id = (spanAfter ids id n).low := by
  have hend : ∃ n, ¬(spanAfter ids id n).low < (spanAfter ids id n).high :=
    ⟨_, not_lt_spanAfter_size ids id⟩
  have hsize : Nat.find hend ≤ Nat.size ids.length :=
    Nat.find_min' hend (not_lt_spanAfter_size ids id)
  have hlength : Nat.size ids.length ≤ ids.length := Nat.size_le.2 Nat.lt_two_pow_self
  have hclosed := Nat.find_spec hend
  have hle := (encloses_spanAfter hs id (Nat.find hend)).low_le_high
  exact ⟨Nat.find hend, hsize, fun k hk => not_not.1 (Nat.find_min hend hk),
    hle.antisymm (not_lt.1 hclosed), place_eq_low hs (hsize.trans hlength) hclosed⟩

/-! ## The place of an id -/

/-- Whether a place divides the ids into those before `id` and the others. -/
structure Divides (ids : List String) (id : String) (p : Nat) : Prop where
  le_length : p ≤ ids.length
  before : ∀ i other, i < p → ids[i]? = some other → precedes other id = true
  after : ∀ i other, p ≤ i → ids[i]? = some other → ¬precedes other id = true

theorem divides_place {ids : List String} (hs : Ascending ids) (id : String) :
    Divides ids id (place ids id) := by
  obtain ⟨n, -, -, hend, hplace⟩ := exists_last_turn hs id
  have h := encloses_spanAfter hs id n
  rw [hplace]
  exact ⟨hend ▸ h.high_le_length, h.before, hend ▸ h.after⟩

theorem Divides.precedes_of_mem_take {ids : List String} {id other : String} {p : Nat}
    (h : Divides ids id p) (hmem : other ∈ ids.take p) : precedes other id = true := by
  obtain ⟨i, hi⟩ := List.mem_iff_getElem?.1 hmem
  rw [List.getElem?_take] at hi
  by_cases hip : i < p
  · rw [if_pos hip] at hi
    exact h.before i other hip hi
  · rw [if_neg hip] at hi
    cases hi

theorem Divides.not_precedes_of_mem_drop {ids : List String} {id other : String} {p : Nat}
    (h : Divides ids id p) (hmem : other ∈ ids.drop p) : ¬precedes other id = true := by
  obtain ⟨i, hi⟩ := List.mem_iff_getElem?.1 hmem
  rw [List.getElem?_drop] at hi
  exact h.after (p + i) other (Nat.le_add_right p i) hi

theorem Divides.take_eq_takeWhile {ids : List String} {id : String} {p : Nat}
    (h : Divides ids id p) : ids.take p = ids.takeWhile (precedes · id) := by
  have hrest : (ids.drop p).takeWhile (precedes · id) = [] := by
    cases hdrop : ids.drop p with
    | nil => rfl
    | cons other rest =>
      have hmem : other ∈ ids.drop p := hdrop ▸ List.mem_cons_self
      exact List.takeWhile_cons_of_neg (h.not_precedes_of_mem_drop hmem)
  calc ids.take p
      = ids.take p ++ (ids.drop p).takeWhile (precedes · id) := by rw [hrest, List.append_nil]
    _ = (ids.take p ++ ids.drop p).takeWhile (precedes · id) :=
        (List.takeWhile_append_of_pos fun _ hmem => h.precedes_of_mem_take hmem).symm
    _ = ids.takeWhile (precedes · id) := by rw [List.take_append_drop]

theorem Divides.drop_eq_dropWhile {ids : List String} {id : String} {p : Nat}
    (h : Divides ids id p) : ids.drop p = ids.dropWhile (precedes · id) := by
  have hparts : ids.take p ++ ids.drop p = ids.take p ++ ids.dropWhile (precedes · id) := by
    rw [List.take_append_drop, h.take_eq_takeWhile, List.takeWhile_append_dropWhile]
  exact List.append_cancel_left hparts

/-! ## Insertion -/

theorem enqueue_perm (ids : List String) (id : String) : (enqueue ids id).Perm (id :: ids) := by
  have h : (enqueue ids id).Perm
      (id :: (ids.take (place ids id) ++ ids.drop (place ids id))) := List.perm_middle
  rwa [List.take_append_drop] at h

theorem mem_enqueue {ids : List String} {id other : String} :
    other ∈ enqueue ids id ↔ other = id ∨ other ∈ ids := by
  rw [(enqueue_perm ids id).mem_iff, List.mem_cons]

theorem ascending_enqueue {ids : List String} (hs : Ascending ids) (id : String) :
    Ascending (enqueue ids id) := by
  have hd := divides_place hs id
  have hparts : Ascending (ids.take (place ids id) ++ ids.drop (place ids id)) := by
    rwa [List.take_append_drop]
  obtain ⟨htake, hdrop, hcross⟩ := List.pairwise_append.1 hparts
  refine List.pairwise_append.2 ⟨htake, List.pairwise_cons.2 ⟨?_, hdrop⟩, ?_⟩
  · intro other hother
    exact hd.not_precedes_of_mem_drop hother
  · intro a ha b hb
    rcases List.mem_cons.1 hb with rfl | hb
    · exact precedes_asymm (hd.precedes_of_mem_take ha)
    · exact hcross a ha b hb

/-- An id enters an ascending queue before the first id that is not smaller, the others keep
their order, and the queue stays ascending. The search for its place ends, after at most as
many turns as the length has binary digits, and every turn reads inside the queue. The sum that
a turn halves stays below twice the length, so 32 bits hold it for up to `2 ^ 31` ids. -/
theorem enqueue_before_first_not_smaller {ids : List String} (hs : Ascending ids)
    (id : String) :
    (∃ n ≤ Nat.size ids.length,
      (∀ k < n, (spanAfter ids id k).low < (spanAfter ids id k).high ∧
        (spanAfter ids id k).middle < ids.length ∧
        (spanAfter ids id k).low + (spanAfter ids id k).high < 2 * ids.length) ∧
      (spanAfter ids id n).low = (spanAfter ids id n).high ∧
      place ids id = (spanAfter ids id n).low) ∧
    Ascending (enqueue ids id) ∧
    enqueue ids id =
      ids.takeWhile (precedes · id) ++ id :: ids.dropWhile (precedes · id) := by
  obtain ⟨n, hsize, hopen, hend, hplace⟩ := exists_last_turn hs id
  refine ⟨⟨n, hsize, fun k hk => ?_, hend, hplace⟩, ascending_enqueue hs id, ?_⟩
  · have hhigh := (encloses_spanAfter hs id k).high_le_length
    have hlow := hopen k hk
    exact ⟨hlow, (Span.middle_lt_high hlow).trans_le hhigh, by omega⟩
  · have hdivides := divides_place hs id
    rw [enqueue, hdivides.take_eq_takeWhile, hdivides.drop_eq_dropWhile]

/-- A character outside the basic plane enters behind two equal ids and before U+FF5E. -/
theorem enqueue_before_first_not_smaller_rocket :
    Ascending ["api", "db", "db", "～"] ∧
      (∃ n ≤ 3, (∀ k < n, (spanAfter ["api", "db", "db", "～"] "🚀" k).middle < 4) ∧
        (spanAfter ["api", "db", "db", "～"] "🚀" n).low = 3) ∧
      enqueue ["api", "db", "db", "～"] "🚀" = ["api", "db", "db", "🚀", "～"] := by
  have hs : Ascending ["api", "db", "db", "～"] := by
    unfold Ascending
    decide +kernel
  have hsize : Nat.size 4 ≤ 3 := Nat.size_le.2 (by decide)
  obtain ⟨⟨n, hn, hturns, -, hplace⟩, -, hqueue⟩ := enqueue_before_first_not_smaller hs "🚀"
  refine ⟨hs, ⟨n, hn.trans hsize, fun k hk => (hturns k hk).2.1, hplace.symm.trans ?_⟩,
    hqueue.trans ?_⟩
  · decide +kernel
  · decide +kernel

theorem foldl_enqueue_perm (ids acc : List String) :
    (ids.foldl enqueue acc).Perm (ids ++ acc) := by
  induction ids generalizing acc with
  | nil => exact List.Perm.refl _
  | cons id rest ih =>
    rw [List.foldl_cons]
    exact (ih (enqueue acc id)).trans
      (((enqueue_perm acc id).append_left rest).trans List.perm_middle)

theorem ascending_foldl_enqueue (ids : List String) {acc : List String} (h : Ascending acc) :
    Ascending (ids.foldl enqueue acc) := by
  induction ids generalizing acc with
  | nil => exact h
  | cons id rest ih => exact ih (ascending_enqueue h id)

theorem sorted_perm (ids : List String) : (sorted ids).Perm ids := by
  have h := foldl_enqueue_perm ids []
  rwa [List.append_nil] at h

theorem ascending_sorted (ids : List String) : Ascending (sorted ids) :=
  ascending_foldl_enqueue ids List.Pairwise.nil

theorem mem_sorted {ids : List String} {id : String} : id ∈ sorted ids ↔ id ∈ ids :=
  (sorted_perm ids).mem_iff

end Schedule
end Rollout
