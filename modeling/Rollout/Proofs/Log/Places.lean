import Rollout.Proofs.Json.Legal
import Rollout.Proofs.Log.Redaction
import Rollout.Schema.Issue

/-
What redaction leaves alone. Place by place, a redacted payload is the payload itself: the
same arrays and objects stand in the same places, and so do the same scalars, unless a key
on the way is sensitive or never kept. Values that JSON lacks become objects of their members.
Once redacted, a payload stays as it is.
-/
namespace Rollout

namespace Json

/-! ## Places -/

def child? : Json → Schema.Step → Option Json
  | .array items, .item i => items[i]?
  | .object members, .key k => Record.get? members k
  | .foreign (.bytes values) _, .key k => Record.get? (byteMembers values) k
  | _, _ => none

/-- The value at the end of a path. -/
def follow? : Json → List Schema.Step → Option Json
  | v, [] => some v
  | v, s :: path => (v.child? s).bind fun w => w.follow? path

end Json

namespace Log

open Schema (Step)

/-- A step that redaction does not close: it is not under a sensitive key, nor under the one
that is never kept. -/
def Open : Step → Prop
  | .item _ => True
  | .key k => ¬Sensitive k ∧ k ≠ Record.droppedKey

instance : DecidablePred Open
  | .item _ => .isTrue trivial
  | .key k => inferInstanceAs (Decidable (¬Sensitive k ∧ k ≠ Record.droppedKey))

/-- What stands in a place before redaction and after it. An array keeps its length and an
object its keys, but for the one that is never kept; sensitive keys have the mark; scalars
stay as they are. A value that JSON lacks becomes an object, of its bytes if it has any. -/
def Leaves : Json → Json → Prop
  | .array items, w => ∃ items', w = .array items' ∧ items'.length = items.length
  | .object members, w =>
    ∃ members', w = .object members' ∧
      Record.keys members' = (Record.keys members).filter (· ≠ Record.droppedKey) ∧
      ∀ m ∈ members', Sensitive m.1 → m.2 = .text "[REDACTED]"
  | .null, w => w = .null
  | .bool b, w => w = .bool b
  | .number n, w => w = .number n
  | .text s, w => w = .text s
  | .foreign .mark shown, w => w = .foreign .mark shown
  | .foreign (.bytes values) _, w => w = .object (Json.byteMembers values)
  | .foreign .., w => w = .object []

/-! ## Items and members -/

theorem redactItems_eq_map (items : List Json) : redactItems items = items.map redact := by
  induction items with
  | nil => rfl
  | cons v rest ih => rw [redactItems, ih, List.map_cons]

section Members

variable {k : String} (v : Json) (rest : List (String × Json))

theorem redactMembers_cons_dropped :
    redactMembers ((Record.droppedKey, v) :: rest) = redactMembers rest := by
  rw [redactMembers, if_pos rfl]

theorem redactMembers_cons_sensitive (hk : k ≠ Record.droppedKey) (hsensitive : Sensitive k) :
    redactMembers ((k, v) :: rest) = (k, .text redactionMark) :: redactMembers rest := by
  rw [redactMembers, if_neg hk, if_pos (isSensitive_iff.2 hsensitive)]

theorem redactMembers_cons_open (hk : k ≠ Record.droppedKey) (hopen : ¬Sensitive k) :
    redactMembers ((k, v) :: rest) = (k, redact v) :: redactMembers rest := by
  rw [redactMembers, if_neg hk, if_neg (mt isSensitive_iff.1 hopen)]

end Members

theorem keys_redactMembers (members : List (String × Json)) :
    Record.keys (redactMembers members) =
      (Record.keys members).filter (· ≠ Record.droppedKey) := by
  induction members with
  | nil => rfl
  | cons m rest ih =>
    obtain ⟨k, v⟩ := m
    by_cases hk : k = Record.droppedKey
    · rw [hk, redactMembers_cons_dropped, ih]
      simp [Record.keys]
    · by_cases hsensitive : Sensitive k
      · rw [redactMembers_cons_sensitive v rest hk hsensitive]
        simpa [Record.keys, hk] using ih
      · rw [redactMembers_cons_open v rest hk hsensitive]
        simpa [Record.keys, hk] using ih

theorem value_of_mem_redactMembers {members : List (String × Json)} {m : String × Json}
    (h : m ∈ redactMembers members) (hsensitive : Sensitive m.1) :
    m.2 = .text redactionMark := by
  induction members with
  | nil => cases h
  | cons n rest ih =>
    obtain ⟨k, v⟩ := n
    by_cases hk : k = Record.droppedKey
    · rw [hk, redactMembers_cons_dropped] at h
      exact ih h
    · by_cases hkey : Sensitive k
      · rw [redactMembers_cons_sensitive v rest hk hkey] at h
        rcases List.mem_cons.1 h with rfl | h
        · rfl
        · exact ih h
      · rw [redactMembers_cons_open v rest hk hkey] at h
        rcases List.mem_cons.1 h with rfl | h
        · exact absurd hsensitive hkey
        · exact ih h

theorem get?_redactMembers {key : String} (hkey : Open (.key key))
    (members : List (String × Json)) :
    Record.get? (redactMembers members) key = (Record.get? members key).map redact := by
  obtain ⟨hopen, hkept⟩ := hkey
  induction members with
  | nil => rfl
  | cons m rest ih =>
    obtain ⟨k, v⟩ := m
    by_cases hk : k = key
    · subst hk
      rw [redactMembers_cons_open v rest hkept hopen, Record.get?, Record.get?, if_pos rfl,
        if_pos rfl, Option.map_some]
    · have hskip : Record.get? ((k, v) :: rest) key = Record.get? rest key := by
        rw [Record.get?, if_neg hk]
      rw [hskip, ← ih]
      by_cases hdropped : k = Record.droppedKey
      · rw [hdropped, redactMembers_cons_dropped]
      · by_cases hsensitive : Sensitive k
        · rw [redactMembers_cons_sensitive v rest hdropped hsensitive, Record.get?, if_neg hk]
        · rw [redactMembers_cons_open v rest hdropped hsensitive, Record.get?, if_neg hk]

/-! ## Indices -/

theorem lowerChar_of_isDigit {c : Char} (h : Decimal.isDigit c = true) :
    Text.lowerChar c = [c] := by
  have hdigits : ∀ d < 10, Text.lowerChar (Nat.digitChar d) = [Nat.digitChar d] := by
    decide +kernel
  have hdigit : Record.digit? c = some (c.toNat - 48) := if_pos h
  obtain ⟨hd, hc⟩ := Record.digitChar_of_digit? hdigit
  rw [← hc]
  exact hdigits _ hd

theorem lowerFrom_of_isDigit {cs : List Char} (h : ∀ c ∈ cs, Decimal.isDigit c = true)
    (inWord : Bool) : Text.lowerFrom inWord cs = cs := by
  induction cs generalizing inWord with
  | nil => rfl
  | cons c rest ih =>
    rw [List.forall_mem_cons] at h
    have hsigma : c.toNat ≠ 0x3A3 := by
      intro heq
      obtain rfl : c = Char.ofNat 0x3A3 := by rw [← heq, Char.ofNat_toNat]
      exact absurd h.1 (by decide)
    simp [Text.lowerFrom, hsigma, lowerChar_of_isDigit h.1, ih h.2]

/-- What is written in digits only is not sensitive. -/
theorem not_sensitive_of_isDigit {key : String} (h : ∀ c ∈ key.toList, Decimal.isDigit c = true) :
    ¬Sensitive key := by
  have hkeys : ∀ k ∈ sensitiveKeys, k.toList.all Decimal.isDigit = false := by decide
  have hendings : ∀ e ∈ sensitiveEndings, e.toList.all Decimal.isDigit = false := by decide
  have hlower : Text.lowerCase key = key := by
    rw [Text.lowerCase, lowerFrom_of_isDigit h, String.ofList_toList]
  rintro (hkey | ⟨ending, hending, hsuffix⟩)
  · rw [hlower] at hkey
    cases (hkeys key hkey).symm.trans (List.all_eq_true.2 h)
  · rw [hlower] at hsuffix
    have hdigits : ending.toList.all Decimal.isDigit = true :=
      List.all_eq_true.2 fun c hc => h c (hsuffix.subset hc)
    cases (hendings ending hending).symm.trans hdigits

/-- Bytes are not redacted any further. -/
theorem redactMembers_byteMembers (values : List Nat) :
    redactMembers (Json.byteMembers values) = Json.byteMembers values := by
  have hdigits (i : Nat) :
      ∀ c ∈ (String.ofList (Nat.toDigits 10 i)).toList, Decimal.isDigit c = true := by
    rw [String.toList_ofList]
    exact fun c => Shortest.isDigit_of_mem_toDigits
  have hkept (i : Nat) : String.ofList (Nat.toDigits 10 i) ≠ Record.droppedKey := by
    intro heq
    have hscore := hdigits i '_' (heq ▸ by decide)
    cases hscore
  unfold Json.byteMembers
  induction values.zipIdx with
  | nil => rfl
  | cons e rest ih =>
    obtain ⟨byte, i⟩ := e
    rw [List.map_cons, redactMembers_cons_open _ _ (hkept i) (not_sensitive_of_isDigit (hdigits i)),
      ih]
    rfl

/-! ## Redaction place by place -/

theorem child?_redact (v : Json) {s : Step} (hs : Open s) :
    (redact v).child? s = (v.child? s).map redact := by
  cases v with
  | array items =>
    cases s with
    | item i => rw [redact, Json.child?, Json.child?, redactItems_eq_map, List.getElem?_map]
    | key k => rfl
  | object members =>
    cases s with
    | item i => rfl
    | key k => exact get?_redactMembers hs members
  | foreign sort shown =>
    cases s with
    | item i => cases sort <;> rfl
    | key k =>
      cases sort with
      | bytes values =>
        have hget := get?_redactMembers hs (Json.byteMembers values)
        rwa [redactMembers_byteMembers] at hget
      | _ => rfl
  | _ => cases s <;> rfl

/-- On an open path redaction commutes with looking for the value. -/
theorem follow?_redact (v : Json) {path : List Step} (hpath : ∀ s ∈ path, Open s) :
    (redact v).follow? path = (v.follow? path).map redact := by
  induction path generalizing v with
  | nil => rfl
  | cons s rest ih =>
    obtain ⟨hs, hrest⟩ := List.forall_mem_cons.1 hpath
    rw [Json.follow?, Json.follow?, child?_redact v hs]
    cases v.child? s with
    | none => rfl
    | some w => exact ih w hrest

theorem leaves_redact (v : Json) : Leaves v (redact v) := by
  cases v with
  | array items => exact ⟨_, rfl, by rw [redactItems_eq_map, List.length_map]⟩
  | object members =>
    exact ⟨_, rfl, keys_redactMembers members, fun _ => value_of_mem_redactMembers⟩
  | foreign sort shown => cases sort <;> rfl
  | _ => rfl

/-! ## Redacting twice -/

mutual

theorem redact_redact : ∀ v : Json, redact (redact v) = redact v
  | .null | .bool _ | .number _ | .text _ => rfl
  | .foreign .mark _ | .foreign .set _ | .foreign .orderedMapping _ | .foreign (.instant _) _ => rfl
  | .foreign (.bytes values) _ => congrArg Json.object (redactMembers_byteMembers values)
  | .array items => by rw [redact, redact, redactItems_redactItems items]
  | .object members => by rw [redact, redact, redactMembers_redactMembers members]

theorem redactItems_redactItems : ∀ items : List Json,
    redactItems (redactItems items) = redactItems items
  | [] => rfl
  | v :: rest => by
    rw [redactItems, redactItems, redact_redact v, redactItems_redactItems rest]

theorem redactMembers_redactMembers : ∀ members : List (String × Json),
    redactMembers (redactMembers members) = redactMembers members
  | [] => rfl
  | (k, v) :: rest => by
    have hrest := redactMembers_redactMembers rest
    by_cases hk : k = Record.droppedKey
    · rw [hk, redactMembers_cons_dropped, hrest]
    · by_cases hsensitive : Sensitive k
      · rw [redactMembers_cons_sensitive v rest hk hsensitive,
          redactMembers_cons_sensitive _ _ hk hsensitive, hrest]
      · rw [redactMembers_cons_open v rest hk hsensitive,
          redactMembers_cons_open _ _ hk hsensitive, redact_redact v, hrest]

end

/-! ## Payloads -/

namespace Logger

/-- A payload that is passed on has, at the end of every open path, what the payload itself
has there, and it would not be changed by another redaction. -/
theorem emit_leaves_open_places (l : Logger) (hl : l.redacting = true) {level : Level}
    (hlevel : l.threshold.admits level = true) (message : String) (v : Json) :
    ∃ w, l.emit ⟨level, message, some v⟩ = some ⟨level, message, some w⟩ ∧
      (∀ path, (∀ s ∈ path, Open s) → Option.Rel Leaves (v.follow? path) (w.follow? path)) ∧
      l.safe w = w := by
  refine ⟨redact v, ?_, fun path hpath => ?_, ?_⟩
  · rw [emit, if_pos hlevel, Option.map_some, safe, if_pos hl]
  · rw [follow?_redact v hpath]
    cases v.follow? path with
    | none => exact .none
    | some u => exact .some (leaves_redact u)
  · rw [safe, if_pos hl, redact_redact]

theorem exists_leaves {found left : Option Json} {v : Json} (hv : found = some v)
    (h : Option.Rel Leaves found left) : ∃ w, left = some w ∧ Leaves v w := by
  subst hv
  cases h with
  | some hleaves => exact ⟨_, rfl, hleaves⟩

theorem emit_leaves_open_places_exposed :
    (standard .info).redacting = true ∧ (standard .info).threshold.admits .warn = true ∧
      ∃ w, (standard .info).emit ⟨.warn, "started", some exposed⟩ =
          some ⟨.warn, "started", some w⟩ ∧
        w.follow? [.key "headers", .item 1, .key "Via"] = some (.text "proxy") ∧
        (∃ members, w.follow? [.key "environment"] = some (.object members) ∧
          Record.keys members = ["DB_PASSWORD", "PORT"]) ∧
        (standard .info).safe w = w := by
  have hadmits : (standard .info).threshold.admits .warn = true := rfl
  obtain ⟨w, hemit, hplaces, hsafe⟩ :=
    emit_leaves_open_places (standard .info) rfl hadmits "started" exposed
  obtain ⟨via, hvia, rfl⟩ := exists_leaves (v := .text "proxy") rfl
    (hplaces [.key "headers", .item 1, .key "Via"] (by decide +kernel))
  obtain ⟨environment, henvironment, members, rfl, hkeys, -⟩ := exists_leaves rfl
    (hplaces [.key "environment"] (by decide +kernel))
  exact ⟨rfl, hadmits, w, hemit, hvia, ⟨members, henvironment, by rw [hkeys]; decide⟩, hsafe⟩

end Logger
end Log
end Rollout
