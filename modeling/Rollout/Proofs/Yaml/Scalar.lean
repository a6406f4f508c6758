import Rollout.Proofs.Json.Legal
import Rollout.Proofs.Number.Literal
import Rollout.Yaml.Value

/-
Scalars denote legal values. Whatever form a text has, its number is rounded by the time it is
read, and base 64 writes nothing but bytes.
-/
namespace Rollout

/-! ## Bytes -/

namespace Text

theorem lt_of_sextet? {c : Char} {n : Nat} (h : sextet? c = some n) : n < 64 := by
  unfold sextet? at h
  simp only [Bool.and_eq_true, decide_eq_true_iff, Char.le_def, UInt32.le_iff_toNat_le,
    Char.toNat] at h
  grind

theorem lt_of_mem_bytesOfSextets {sextets : List Nat} (h : ∀ n ∈ sextets, n < 64) :
    ∀ b ∈ bytesOfSextets sextets, b < 256 := by
  fun_induction bytesOfSextets sextets with
  | case1 a b c d rest ih =>
    simp only [List.forall_mem_cons] at h ⊢
    obtain ⟨ha, hb, hc, hd, hrest⟩ := h
    exact ⟨by omega, by omega, by omega, ih hrest⟩
  | case2 a b c =>
    simp only [List.forall_mem_cons] at h ⊢
    obtain ⟨ha, hb, hc, -⟩ := h
    exact ⟨by omega, by omega, List.forall_mem_nil _⟩
  | case3 a b =>
    simp only [List.forall_mem_cons] at h ⊢
    obtain ⟨ha, hb, -⟩ := h
    exact ⟨by omega, List.forall_mem_nil _⟩
  | case4 => exact List.forall_mem_nil _

theorem lt_of_mem_ofBase64 (s : String) : ∀ b ∈ ofBase64 s, b < 256 := by
  refine lt_of_mem_bytesOfSextets fun n hn => ?_
  obtain ⟨c, -, hc⟩ := List.mem_filterMap.1 hn
  exact lt_of_sextet? hc

end Text

namespace Yaml

/-! ## Numbers -/

theorem isBinary64_withSign {n : Number} (negative : Bool) (h : n.IsBinary64) :
    (withSign negative n).IsBinary64 := by
  cases negative
  · exact h
  · exact Decimal.isBinary64_negated h

theorem isBinary64_of_based? {base : Nat} {digits : List Char} {n : Number}
    (h : based? base digits = some n) : n.IsBinary64 := by
  unfold based? at h
  dsimp only at h
  split at h
  · cases h
  · split at h
    · cases h
      trivial
    · cases h
      exact Binary64.isBinary64_nearest _

theorem isBinary64_looseNumber (cs : List Char) : (looseNumber cs).IsBinary64 := by
  unfold looseNumber
  split
  · exact Decimal.isBinary64_read _
  · trivial

theorem isBinary64_sexagesimal (pieces : List (List Char)) : (sexagesimal pieces).IsBinary64 := by
  rw [sexagesimal]
  refine List.foldlRecOn pieces _ (Binary64.isBinary64_ofNat (Nat.zero_le _)) fun acc _ _ _ => ?_
  exact Binary64.isBinary64_rounded _

theorem isBinary64_of_readLiteral {s : String} {n : Number} (h : Decimal.readLiteral s = some n) :
    n.IsBinary64 := by
  obtain ⟨q, -, rfl⟩ := Decimal.readLiteral_eq_some_iff.1 h
  exact Binary64.isBinary64_nearest q

/-! ## Forms -/

/-- What is read denotes a legal value. -/
def Reading.Legal (r : Reading) : Prop := r.content.value.Legal

variable {s : String} {r : Reading}

theorem legal_of_map {o : Option Number} {reading : Number → Reading}
    (hreading : ∀ n, (reading n).content = .number n) (ho : ∀ n, o = some n → n.IsBinary64)
    (h : o.map reading = some r) : r.Legal := by
  obtain ⟨n, hn, rfl⟩ := Option.map_eq_some_iff.1 h
  rw [Reading.Legal, hreading]
  exact .number (ho n hn)

theorem legal_of_null? (h : null? s = some r) : r.Legal := by
  unfold null? at h
  split at h
  · cases h
    exact .null
  · cases h

theorem legal_of_wordOf {words : List String} {value : Bool} (h : wordOf words value s = some r) :
    r.Legal := by
  unfold wordOf at h
  split at h
  · cases h
    exact .bool value
  · cases h

theorem legal_of_bool? (h : bool? s = some r) : r.Legal := by
  rcases Option.or_eq_some_iff.1 h with h | ⟨-, h⟩
  · exact legal_of_wordOf h
  · exact legal_of_wordOf h

theorem legal_of_octal? (h : octal? s = some r) : r.Legal := by
  unfold octal? at h
  split at h
  · exact legal_of_map (fun _ => rfl) (fun _ => isBinary64_of_based?) h
  · cases h

theorem legal_of_hexadecimal? (h : hexadecimal? s = some r) : r.Legal := by
  unfold hexadecimal? at h
  split at h
  · exact legal_of_map (fun _ => rfl) (fun _ => isBinary64_of_based?) h
  · cases h

theorem legal_of_whole? (h : whole? s = some r) : r.Legal := by
  unfold whole? at h
  split at h
  · exact legal_of_map (fun _ => rfl) (fun _ => isBinary64_of_readLiteral) h
  · cases h

theorem legal_of_special? (h : special? s = some r) : r.Legal := by
  unfold special? at h
  dsimp only at h
  split at h
  · cases h
    exact .number trivial
  · split at h
    · cases h
      exact .number (by split <;> trivial)
    · cases h

theorem legal_of_exponential? (h : exponential? s = some r) : r.Legal := by
  unfold exponential? at h
  split at h
  · exact legal_of_map (fun _ => rfl) (fun _ => isBinary64_of_readLiteral) h
  · cases h

theorem legal_of_fractional? (h : fractional? s = some r) : r.Legal := by
  unfold fractional? at h
  split at h
  · cases h
  · exact legal_of_map (fun _ => rfl) (fun _ => isBinary64_of_readLiteral) h

theorem legal_of_oldBased? {base : Nat} {lead : List Char} {format : Format}
    (h : oldBased? base lead format s = some r) : r.Legal := by
  unfold oldBased? at h
  dsimp only at h
  split at h
  · obtain ⟨n, hn, rfl⟩ := Option.map_eq_some_iff.1 h
    exact .number (isBinary64_withSign _ (isBinary64_of_based? hn))
  · cases h

theorem legal_of_oldWhole? (h : oldWhole? s = some r) : r.Legal := by
  unfold oldWhole? at h
  dsimp only at h
  split at h
  · obtain ⟨n, -, rfl⟩ := Option.map_eq_some_iff.1 h
    exact .number (isBinary64_withSign _ (Decimal.isBinary64_read n))
  · cases h

theorem legal_of_oldExponential? (h : oldExponential? s = some r) : r.Legal := by
  unfold oldExponential? at h
  dsimp only at h
  split at h
  · split at h
    · cases h
      exact .number (isBinary64_withSign _ (isBinary64_looseNumber _))
    · cases h
  · cases h

theorem legal_of_oldFractional? (h : oldFractional? s = some r) : r.Legal := by
  unfold oldFractional? at h
  dsimp only at h
  split at h
  · cases h
    exact .number (isBinary64_withSign _ (isBinary64_looseNumber _))
  · cases h

theorem legal_of_sexagesimal? {fraction : Bool} (h : sexagesimal? fraction s = some r) :
    r.Legal := by
  unfold sexagesimal? at h
  dsimp only at h
  split at h
  · obtain ⟨-, heq⟩ := Option.ite_none_right_eq_some.1 h
    cases heq
    exact .number (isBinary64_withSign _ (isBinary64_sexagesimal _))
  · cases h

theorem legal_of_time (h : time s = some r) : r.Legal := by
  obtain ⟨i, -, rfl⟩ := Option.map_eq_some_iff.1 h
  exact .foreign (.text _) (by simp)

/-- Whatever a form reads is legal. -/
theorem legal_of_form {version : Version} {f : Form} (hf : f ∈ Form.ofVersion version)
    (h : f.read s = some r) : r.Legal := by
  cases version with
  | current =>
    simp only [Form.ofVersion, Form.current, List.mem_cons, List.not_mem_nil, or_false] at hf
    rcases hf with rfl | rfl | rfl | rfl | rfl | rfl | rfl | rfl
    · exact legal_of_null? h
    · exact legal_of_bool? h
    · exact legal_of_octal? h
    · exact legal_of_whole? h
    · exact legal_of_hexadecimal? h
    · exact legal_of_special? h
    · exact legal_of_exponential? h
    · exact legal_of_fractional? h
  | older =>
    simp only [Form.ofVersion, Form.older, List.mem_cons, List.not_mem_nil, or_false] at hf
    rcases hf with rfl | rfl | rfl | rfl | rfl | rfl | rfl | rfl | rfl | rfl | rfl | rfl | rfl
    · exact legal_of_null? h
    · exact legal_of_wordOf h
    · exact legal_of_wordOf h
    · exact legal_of_oldBased? h
    · exact legal_of_oldBased? h
    · exact legal_of_oldWhole? h
    · exact legal_of_oldBased? h
    · exact legal_of_special? h
    · exact legal_of_oldExponential? h
    · exact legal_of_oldFractional? h
    · exact legal_of_sexagesimal? h
    · exact legal_of_sexagesimal? h
    · exact legal_of_time h

theorem legal_of_findSome? {version : Version} {forms : List Form}
    (hforms : ∀ f ∈ forms, f ∈ Form.ofVersion version)
    (h : forms.findSome? (·.read s) = some r) : r.Legal := by
  obtain ⟨f, hf, hread⟩ := List.exists_of_findSome?_eq_some h
  exact legal_of_form (hforms f hf) hread

/-! ## Readings -/

theorem legal_plain (version : Version) (atKey : Bool) (s : String) :
    (Reading.plain version atKey s).Legal := by
  unfold Reading.plain
  split
  · exact .foreign .null (by simp)
  · cases hread : (Form.ofVersion version).findSome? (·.read s) with
    | none => exact .text s
    | some r => exact legal_of_findSome? (fun _ => id) hread

theorem legal_bytes (s : String) : (Content.bytes (Text.ofBase64 s)).value.Legal := by
  have hbytes := Text.lt_of_mem_ofBase64 s
  have hkeys : ["type", "data"].Pairwise Record.Precedes := by decide
  refine .foreign (.object hkeys ?_) fun values hvalues => ?_
  · simp only [List.forall_mem_cons]
    refine ⟨.text _, .array (List.forall_mem_map.2 fun b hb => ?_), List.forall_mem_nil _⟩
    exact .number (Binary64.isBinary64_ofNat (by have := hbytes b hb; omega))
  · obtain rfl : Text.ofBase64 s = values := by simpa using hvalues
    exact hbytes

theorem legal_of_tagged {version : Version} {tag : String} (h : Reading.tagged version tag s = .ok r) :
    r.Legal := by
  unfold Reading.tagged at h
  dsimp only at h
  split at h
  · cases h
    exact .text s
  · split at h
    · cases h
      exact legal_of_findSome? (fun _ hf => List.mem_of_mem_filter hf) ‹_›
    · split at h
      · cases h
        exact legal_bytes s
      · split at h
        · cases h
          exact .foreign .null (by simp)
        · split at h
          · split at h
            · cases h
              exact legal_of_time ‹_›
            · cases h
          · cases h
            exact .text s

end Yaml
end Rollout
