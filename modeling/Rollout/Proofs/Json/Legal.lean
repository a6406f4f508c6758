import Rollout.Json.Reader
import Rollout.Proofs.Number.Decimal
import Rollout.Proofs.Record.Canonical

/-
Values that documents have. Numbers are rounded as they are read and members are put in
record order as an object is closed, so that whatever comes of reading a text is legal.
-/
namespace Rollout

theorem Record.mem_of_mem_put {α : Type} {r : Record α} {key : String} {value : α}
    {m : String × α} (h : m ∈ put r key value) : m = (key, value) ∨ m ∈ r := by
  have hreplace : ∀ r : Record α, m ∈ replace r key value → m = (key, value) ∨ m ∈ r := by
    intro r hm
    induction r with
    | nil => exact .inr hm
    | cons n rest ih =>
      rw [replace] at hm
      split at hm
      case isTrue =>
        exact (List.mem_cons.1 hm).imp_right (List.mem_cons_of_mem n)
      case isFalse =>
        rcases List.mem_cons.1 hm with rfl | hm
        · exact .inr List.mem_cons_self
        · exact (ih hm).imp_right (List.mem_cons_of_mem n)
  by_cases hhas : has r key = true
  · rw [put, if_pos hhas] at h
    exact hreplace r h
  · have hnew : key ∉ keys r := has_eq_false_iff.1 (Bool.eq_false_iff.2 hhas)
    exact List.mem_cons.1 ((put_perm hnew value).mem_iff.1 h)

/-- A record has no members but those that were put into it. -/
theorem Record.mem_of_mem_ofList {α : Type} {members : List (String × α)} {m : String × α}
    (h : m ∈ ofList members) : m ∈ members := by
  have hfold : ∀ r : Record α, m ∈ members.foldl (fun r n => put r n.1 n.2) r →
      m ∈ members ∨ m ∈ r := by
    clear h
    induction members with
    | nil => exact fun _ hm => .inr hm
    | cons n rest ih =>
      intro r hm
      rcases ih _ hm with hm | hm
      · exact .inl (List.mem_cons_of_mem n hm)
      · rcases mem_of_mem_put hm with rfl | hm
        · exact .inl List.mem_cons_self
        · exact .inr hm
  exact (hfold [] h).resolve_right List.not_mem_nil

namespace Json

/-! ## Legal values -/

/-- A value as a document can have it: its numbers are binary64 numbers, its bytes are
bytes, and its objects are in record order. -/
inductive Legal : Json → Prop where
  | null : Legal .null
  | bool (b : Bool) : Legal (.bool b)
  | number {n : Number} (h : n.IsBinary64) : Legal (.number n)
  | text (s : String) : Legal (.text s)
  | array {items : List Json} (h : ∀ v ∈ items, Legal v) : Legal (.array items)
  | object {members : List (String × Json)} (hkeys : Record.Canonical members)
      (h : ∀ m ∈ members, Legal m.2) : Legal (.object members)
  | foreign {sort : Foreign} {shown : Json} (h : Legal shown)
      (hbytes : ∀ values, sort = .bytes values → ∀ b ∈ values, b < 256) :
      Legal (.foreign sort shown)

theorem legal_object_iff {members : List (String × Json)} :
    (object members).Legal ↔ Record.Canonical members ∧ ∀ m ∈ members, m.2.Legal := by
  constructor
  · intro h
    cases h with
    | object hkeys h => exact ⟨hkeys, h⟩
  · rintro ⟨hkeys, h⟩
    exact .object hkeys h

theorem legal_array_iff {items : List Json} : (array items).Legal ↔ ∀ v ∈ items, v.Legal :=
  ⟨fun | .array h => h, .array⟩

theorem legal_orNull_iff {α : Type} {encode : α → Json} {o : Option α} :
    (orNull encode o).Legal ↔ ∀ a, o = some a → (encode a).Legal := by
  cases o with
  | none => simpa [orNull] using Legal.null
  | some a => simp [orNull]

/-- Bytes are legal as members. -/
theorem legal_byteMembers {values : List Nat} (h : ∀ b ∈ values, b < 256) :
    (object (byteMembers values)).Legal := by
  refine .object (Record.canonical_zipIdx values nat) fun m hm => ?_
  obtain ⟨⟨b, i⟩, hb, rfl⟩ := List.mem_map.1 hm
  have hbyte := h b (List.fst_mem_of_mem_zipIdx hb)
  exact .number (Binary64.isBinary64_ofNat (by omega))

theorem legal_texts (items : List String) : (texts items).Legal := by
  refine .array fun v hv => ?_
  obtain ⟨s, -, rfl⟩ := List.mem_map.1 hv
  exact .text s

/-! ## Reading -/

theorem isBinary64_readUnsigned {cs rest : List Char} {n : Number}
    (h : readUnsigned cs = some (n, rest)) : n.IsBinary64 := by
  simp only [readUnsigned, Option.bind_eq_bind, Option.bind_eq_some_iff] at h
  obtain ⟨_, _, _, _, _, _, heq⟩ := h
  cases heq
  exact Decimal.isBinary64_read _

theorem isBinary64_readNumber {cs rest : List Char} {n : Number}
    (h : readNumber cs = some (n, rest)) : n.IsBinary64 := by
  unfold readNumber at h
  split at h
  · obtain ⟨⟨m, r⟩, hm, heq⟩ := Option.map_eq_some_iff.1 h
    cases heq
    exact Decimal.isBinary64_negated (isBinary64_readUnsigned hm)
  · exact isBinary64_readUnsigned h

theorem legal_ofMembers {members : List (String × Json)} (h : ∀ m ∈ members, m.2.Legal) :
    (ofMembers members).Legal :=
  .object (Record.canonical_ofList members) fun m hm => h m (Record.mem_of_mem_ofList hm)

/-- What the readers of values, items and members have read so far is legal. -/
structure ReadsLegal (fuel : Nat) : Prop where
  value : ∀ cs v rest, readValue fuel cs = some (v, rest) → v.Legal
  items : ∀ cs vs rest, readItems fuel cs = some (vs, rest) → ∀ v ∈ vs, v.Legal
  members : ∀ cs ms rest, readMembers fuel cs = some (ms, rest) → ∀ m ∈ ms, m.2.Legal

theorem ReadsLegal.readValue {fuel : Nat} (h : ReadsLegal fuel) {cs : List Char} {v : Json}
    {rest : List Char} (hread : readValue (fuel + 1) cs = some (v, rest)) : v.Legal := by
  unfold Json.readValue at hread
  split at hread
  · obtain ⟨_, -, heq⟩ := Option.map_eq_some_iff.1 hread
    cases heq
    exact .text _
  · split at hread
    · cases hread
      exact .array (List.forall_mem_nil _)
    · obtain ⟨_, hitems, heq⟩ := Option.map_eq_some_iff.1 hread
      cases heq
      exact .array (h.items _ _ _ hitems)
  · split at hread
    · cases hread
      exact .object List.Pairwise.nil (List.forall_mem_nil _)
    · obtain ⟨_, hmembers, heq⟩ := Option.map_eq_some_iff.1 hread
      cases heq
      exact legal_ofMembers (h.members _ _ _ hmembers)
  · obtain ⟨_, -, heq⟩ := Option.map_eq_some_iff.1 hread
    cases heq
    exact .bool true
  · obtain ⟨_, -, heq⟩ := Option.map_eq_some_iff.1 hread
    cases heq
    exact .bool false
  · obtain ⟨_, -, heq⟩ := Option.map_eq_some_iff.1 hread
    cases heq
    exact .null
  · obtain ⟨_, hnumber, heq⟩ := Option.map_eq_some_iff.1 hread
    cases heq
    exact .number (isBinary64_readNumber hnumber)

theorem ReadsLegal.readItems {fuel : Nat} (h : ReadsLegal fuel) {cs : List Char}
    {vs : List Json} {rest : List Char} (hread : readItems (fuel + 1) cs = some (vs, rest)) :
    ∀ v ∈ vs, v.Legal := by
  obtain ⟨⟨v, behind⟩, hvalue, hbehind⟩ := Option.bind_eq_some_iff.1 hread
  have hv := h.value _ _ _ hvalue
  dsimp only at hbehind
  split at hbehind
  · cases hbehind
    exact List.forall_mem_singleton.2 hv
  · obtain ⟨_, hitems, heq⟩ := Option.map_eq_some_iff.1 hbehind
    cases heq
    exact List.forall_mem_cons.2 ⟨hv, h.items _ _ _ hitems⟩
  · cases hbehind

theorem ReadsLegal.readMembers {fuel : Nat} (h : ReadsLegal fuel) {cs : List Char}
    {ms : List (String × Json)} {rest : List Char}
    (hread : readMembers (fuel + 1) cs = some (ms, rest)) : ∀ m ∈ ms, m.2.Legal := by
  unfold Json.readMembers at hread
  split at hread
  · obtain ⟨_, -, hkey⟩ := Option.bind_eq_some_iff.1 hread
    dsimp only at hkey
    split at hkey
    · obtain ⟨⟨v, behind⟩, hvalue, hbehind⟩ := Option.bind_eq_some_iff.1 hkey
      have hv := h.value _ _ _ hvalue
      dsimp only at hbehind
      split at hbehind
      · cases hbehind
        exact List.forall_mem_singleton.2 hv
      · obtain ⟨_, hmembers, heq⟩ := Option.map_eq_some_iff.1 hbehind
        cases heq
        exact List.forall_mem_cons.2 ⟨hv, h.members _ _ _ hmembers⟩
      · cases hbehind
    · cases hkey
  · cases hread

theorem readsLegal (fuel : Nat) : ReadsLegal fuel := by
  induction fuel with
  | zero => constructor <;> exact fun _ _ _ h => nomatch h
  | succ fuel ih =>
    exact ⟨fun _ _ _ => ih.readValue, fun _ _ _ => ih.readItems, fun _ _ _ => ih.readMembers⟩

/-- Whatever comes of reading a text is legal. -/
theorem legal_of_read? {s : String} {v : Json} (h : read? s = some v) : v.Legal := by
  simp only [read?] at h
  split at h
  · rename_i hread
    split at h
    · cases h
      exact (readsLegal _).value _ _ _ hread
    · cases h
  · cases h

end Json
end Rollout
