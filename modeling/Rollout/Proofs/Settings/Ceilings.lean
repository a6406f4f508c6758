import Rollout.Proofs.Number.Literal
import Rollout.Proofs.Record
import Rollout.Proofs.Text.Blank
import Rollout.Settings.Resolve

/-
The ceilings that an environment sets. Whatever stands in it, they are finite and above zero:
a value counts where it is a decimal literal in full whose number is, and every other value
is as good as none. Each ceiling has its own variable, and its own override.
-/
namespace Rollout
namespace Settings

open Validation

/-! ## Variables -/

/-- An environment in which a variable is not set. -/
def Environment.unset (env : Environment) (name : String) : Environment :=
  env.filter fun m => decide (m.1 ≠ name)

theorem get?_unset (env : Environment) (name key : String) :
    Record.get? (env.unset name) key = if key = name then none else Record.get? env key := by
  have hfilter := Record.get?_filter env (fun k => decide (k ≠ name)) key
  rw [Environment.unset, hfilter]
  by_cases hkey : key = name <;> simp [hkey]

/-! ## Numbers that ceilings can be -/

/-- Of the numbers that binary64 has, ceilings are those that are finite and above zero. -/
theorem hold_limitBounds_iff {n : Number} (hn : n.IsBinary64) :
    limitBounds.hold n = true ↔ ∃ r, 0 < r ∧ n = .finite r := by
  cases n with
  | finite q =>
    have hhold : limitBounds.hold (.finite q) = !(Number.finite q).lt Binary64.leastPositive := by
      simp [Bounds.hold, limitBounds, Number.isFinite]
    have hleast : (0 : ℚ) < 2 ^ Binary64.leastExponent := zpow_pos (by norm_num) _
    rw [hhold, Binary64.leastPositive_eq, Number.lt, Bool.not_eq_true', decide_eq_false_iff_not,
      not_lt]
    constructor
    · exact fun h => ⟨q, hleast.trans_le h, rfl⟩
    · rintro ⟨r, hr, heq⟩
      obtain rfl := Number.finite.inj heq
      have hrepresentable := Binary64.isBinary64_finite_iff.1 hn
      rw [abs_of_pos hr] at hrepresentable
      exact hrepresentable.least_le hr
  | _ => simp [Bounds.hold, Number.isFinite]

/-! ## Values that count -/

theorem trimmed_bind_readLiteral (raw : Option String) :
    (trimmed raw).bind Decimal.readLiteral =
      raw.bind fun s => Decimal.readLiteral (Text.trim s) := by
  cases raw with
  | none => simp only [trimmed, Option.bind_none]
  | some s =>
    by_cases hblank : (Text.trim s).isEmpty = true
    · have hempty : Decimal.readLiteral (Text.trim s) = none := by
        rw [String.isEmpty_iff.1 hblank]
        rfl
      rw [trimmed, Option.bind_some, Option.bind_some, if_pos hblank, hempty, Option.bind_none]
    · rw [trimmed, Option.bind_some, if_neg hblank, Option.bind_some, Option.bind_some]

/-- A value counts where it is a literal in full whose number is finite and above zero. -/
theorem readNumber_limitBounds_iff {raw : Option String} {n : Number} :
    readNumber limitBounds raw = some n ↔
      ∃ s q r, raw = some s ∧ Decimal.Literal (Text.trim s).toList q ∧ 0 < r ∧
        Binary64.nearest q = .finite r ∧ n = .finite r := by
  rw [readNumber, trimmed_bind_readLiteral, Option.filter_eq_some_iff, Option.bind_eq_some_iff]
  constructor
  · rintro ⟨⟨s, hs, hread⟩, hhold⟩
    obtain ⟨q, hliteral, rfl⟩ := Decimal.readLiteral_eq_some_iff.1 hread
    obtain ⟨r, hr, hnearest⟩ := (hold_limitBounds_iff (Binary64.isBinary64_nearest q)).1 hhold
    exact ⟨s, q, r, hs, hliteral, hr, hnearest, hnearest⟩
  · rintro ⟨s, q, r, hs, hliteral, hr, hnearest, rfl⟩
    have hbinary := Binary64.isBinary64_nearest q
    rw [hnearest] at hbinary
    exact ⟨⟨s, hs, Decimal.readLiteral_eq_some_iff.2 ⟨q, hliteral, hnearest⟩⟩,
      (hold_limitBounds_iff hbinary).2 ⟨r, hr, rfl⟩⟩

/-! ## Ceilings -/

theorem get_limits (env : Environment) (d : Dimension) :
    (limits env .none).get d = limitFrom env d := by
  cases d <;> rfl

theorem limits_congr {env env' : Environment} (h : ∀ d, limitFrom env d = limitFrom env' d)
    (given : LimitOverrides) : limits env given = limits env' given := by
  simp only [limits, h]

def LimitOverrides.set (given : LimitOverrides) (n : Number) : Dimension → LimitOverrides
  | .cpu => { given with maxCpuCores := some n }
  | .memory => { given with maxMemoryMb := some n }
  | .disk => { given with maxDiskGb := some n }

theorem get_limits_set (env : Environment) (given : LimitOverrides) (n : Number)
    (d other : Dimension) :
    (limits env (given.set n d)).get other = if other = d then n else (limits env given).get other := by
  cases d <;> cases other <;> rfl

theorem limitFrom_pos (env : Environment) (d : Dimension) :
    ∃ r, 0 < r ∧ limitFrom env d = .finite r := by
  cases hread : readNumber limitBounds (Record.get? env (limitVariable d)) with
  | some n =>
    obtain ⟨_, _, r, -, -, hr, -, rfl⟩ := readNumber_limitBounds_iff.1 hread
    exact ⟨r, hr, by rw [limitFrom, hread, Option.getD_some]⟩
  | none =>
    rw [limitFrom, hread, Option.getD_none]
    cases d with
    | cpu => exact ⟨(64 : Nat), by norm_num, rfl⟩
    | memory => exact ⟨(128000 : Nat), by norm_num, rfl⟩
    | disk => exact ⟨(10000 : Nat), by norm_num, rfl⟩

theorem limitFrom_of_trimmed {env env' : Environment} {d : Dimension}
    (h : trimmed (Record.get? env (limitVariable d)) = trimmed (Record.get? env' (limitVariable d))) :
    limitFrom env d = limitFrom env' d := by
  rw [limitFrom, limitFrom, readNumber, readNumber, h]

theorem limitFrom_of_counts {env : Environment} {d : Dimension} {s : String} {q r : ℚ}
    (hs : Record.get? env (limitVariable d) = some s) (hq : Decimal.Literal (Text.trim s).toList q)
    (hr : 0 < r) (hnearest : Binary64.nearest q = .finite r) : limitFrom env d = .finite r := by
  have hread := readNumber_limitBounds_iff.2 ⟨s, q, r, hs, hq, hr, hnearest, rfl⟩
  rw [limitFrom, hread, Option.getD_some]

/-- A value that has no effect: nothing but blanks, no literal in full, or a literal whose number
is not finite or not above zero. -/
def Idle (s : String) : Prop :=
  Text.isBlank s = true ∨ (∀ q, ¬Decimal.Literal (Text.trim s).toList q) ∨
    ∃ q, Decimal.Literal (Text.trim s).toList q ∧ ¬∃ r, 0 < r ∧ Binary64.nearest q = .finite r

theorem Idle.readNumber_eq_none {s : String} (h : Idle s) :
    readNumber limitBounds (some s) = none := by
  rw [← Option.not_isSome_iff_eq_none, Option.isSome_iff_exists]
  rintro ⟨n, hread⟩
  obtain ⟨_, q, r, hs, hliteral, hr, hnearest, rfl⟩ := readNumber_limitBounds_iff.1 hread
  obtain rfl := Option.some.inj hs
  have hvalue := Decimal.readLiteral_eq_some_iff.2 ⟨q, hliteral, hnearest⟩
  rcases h with hblank | hnone | ⟨q', hliteral', hidle⟩
  · have hempty : Text.trim s = "" := by
      by_contra hfilled
      rw [Text.isBlank_eq_false_iff.2 hfilled] at hblank
      cases hblank
    rw [hempty] at hvalue
    cases hvalue
  · exact hnone q hliteral
  · -- Whatever else the text might denote, it is read as one number only.
    have hvalue' := Decimal.readLiteral_eq_some_iff.2 ⟨q', hliteral', rfl⟩
    exact hidle ⟨r, hr, Option.some.inj (hvalue'.symm.trans hvalue)⟩

theorem limits_unset {env : Environment} {d : Dimension} {s : String}
    (hs : Record.get? env (limitVariable d) = some s) (h : Idle s) (given : LimitOverrides) :
    limits env given = limits (env.unset (limitVariable d)) given := by
  refine limits_congr (fun other => ?_) given
  rw [limitFrom, limitFrom, get?_unset]
  by_cases hother : limitVariable other = limitVariable d
  · rw [if_pos hother, hother, hs, h.readNumber_eq_none]
    rfl
  · rw [if_neg hother]

/-- The ceilings of an environment. Whatever stands in it, they are finite and above zero, and
each depends on its own variable only, the blanks around the value aside. A value that is blank
or no decimal literal in full, or whose number is not finite and above zero as binary64 has it,
is as good as none; any other value is the ceiling. A number is so exactly between the two
bounds. An explicit ceiling takes the place of its own dimension only. -/
theorem limits_from_environment (env : Environment) :
    (∀ d, ∃ r, 0 < r ∧ (limits env .none).get d = .finite r) ∧
    (∀ env' d, trimmed (Record.get? env (limitVariable d)) =
        trimmed (Record.get? env' (limitVariable d)) →
      (limits env .none).get d = (limits env' .none).get d) ∧
    (∀ d s, Record.get? env (limitVariable d) = some s → Idle s →
      Record.get? (env.unset (limitVariable d)) (limitVariable d) = none ∧
        ∀ given, limits env given = limits (env.unset (limitVariable d)) given) ∧
    (∀ d, Record.get? env (limitVariable d) = none →
      (limits env .none).get d = defaultLimits.get d) ∧
    (∀ d s q r, Record.get? env (limitVariable d) = some s →
      Decimal.Literal (Text.trim s).toList q → 0 < r → Binary64.nearest q = .finite r →
      (limits env .none).get d = .finite r) ∧
    (∀ q, (∃ r, 0 < r ∧ Binary64.nearest q = .finite r) ↔
      Binary64.underflowBound < q ∧ q < Binary64.overflowBound) ∧
    ∀ given n d other, (limits env (given.set n d)).get other =
      if other = d then n else (limits env given).get other := by
  refine ⟨fun d => ?_, fun env' d h => ?_, fun d s hs hidle => ⟨?_, limits_unset hs hidle⟩,
    fun d hnone => ?_, fun d s q r hs hq hr hnearest => ?_, fun q => Binary64.nearest_pos_iff,
    fun given n d other => get_limits_set env given n d other⟩
  · rw [get_limits]
    exact limitFrom_pos env d
  · rw [get_limits, get_limits, limitFrom_of_trimmed h]
  · rw [get?_unset, if_pos rfl]
  · rw [get_limits, limitFrom, hnone]
    rfl
  · rw [get_limits, limitFrom_of_counts hs hq hr hnearest]

/-- A literal between blanks, a number that is no decimal literal, and one that vanishes. -/
def mixedEnvironment : Environment :=
  [("TOPOLOGY_MAX_CPU_CORES", "\u00a0+.25e2\t"), ("TOPOLOGY_MAX_MEMORY_MB", "0x10"),
    ("TOPOLOGY_MAX_DISK_GB", "1e-400")]

theorem limits_from_mixedEnvironment :
    (limits mixedEnvironment .none).get .cpu = .finite 25 ∧
    (∀ given, limits mixedEnvironment given =
      limits (mixedEnvironment.unset "TOPOLOGY_MAX_MEMORY_MB") given) ∧
    ∀ given, limits mixedEnvironment given =
      limits (mixedEnvironment.unset "TOPOLOGY_MAX_DISK_GB") given := by
  obtain ⟨-, -, hidle, -, hcounts, -, -⟩ := limits_from_environment mixedEnvironment
  have hcores : Decimal.readLiteral (Text.trim "\u00a0+.25e2\t") = some (.finite 25) := by
    decide +kernel
  have hmemory : Decimal.readLiteral (Text.trim "0x10") = none := by decide +kernel
  have hdisk : Decimal.readLiteral (Text.trim "1e-400") = some .zero := by decide +kernel
  refine ⟨?_, (hidle .memory "0x10" rfl (.inr (.inl ?_))).2,
    (hidle .disk "1e-400" rfl (.inr (.inr ?_))).2⟩
  · obtain ⟨q, hq, hnearest⟩ := Decimal.readLiteral_eq_some_iff.1 hcores
    exact hcounts .cpu _ q 25 rfl hq (by norm_num) hnearest
  · intro q hq
    have hread := Decimal.readLiteral_eq_some_iff.2 ⟨q, hq, rfl⟩
    cases hmemory.symm.trans hread
  · obtain ⟨q, hq, hnearest⟩ := Decimal.readLiteral_eq_some_iff.1 hdisk
    refine ⟨q, hq, ?_⟩
    rintro ⟨r, hr, hvalue⟩
    exact hr.ne (Number.finite.inj (hnearest.symm.trans hvalue))

end Settings
end Rollout
