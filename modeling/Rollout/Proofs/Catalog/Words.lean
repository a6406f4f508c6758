import Rollout.Catalog.Edge
import Rollout.Catalog.Node

/-
The vocabularies are unambiguous: every member is listed, and no two members share a word,
so a word leads back to the member it was written for.
-/
namespace Rollout

theorem Worded.word_of_ofWord? {α : Type} [Worded α] {w : String} {a : α}
    (h : Worded.ofWord? w = some a) : Worded.word a = w :=
  of_decide_eq_true (List.find?_some (p := fun b => decide (Worded.word b = w)) h)

/-- A vocabulary in which the word of a member names that member. -/
class LawfulWorded (α : Type) [Worded α] : Prop where
  ofWord?_word : ∀ a : α, Worded.ofWord? (Worded.word a) = some a

namespace Catalog

instance : LawfulWorded DatabaseEngine := ⟨fun a => by cases a <;> rfl⟩

instance : LawfulWorded BusType := ⟨fun a => by cases a <;> rfl⟩

instance : LawfulWorded StorageType := ⟨fun a => by cases a <;> rfl⟩

instance : LawfulWorded AccessMode := ⟨fun a => by cases a <;> rfl⟩

instance : LawfulWorded BasicStrategy := ⟨fun a => by cases a <;> rfl⟩

instance : LawfulWorded Protocol := ⟨fun a => by cases a <;> rfl⟩

instance : LawfulWorded FlowDirection := ⟨fun a => by cases a <;> rfl⟩

instance : LawfulWorded DataFormat := ⟨fun a => by cases a <;> rfl⟩

instance : LawfulWorded Permission := ⟨fun a => by cases a <;> rfl⟩

instance : LawfulWorded NodeKind := ⟨fun a => by cases a <;> rfl⟩

instance : LawfulWorded EdgeKind := ⟨fun a => by cases a <;> rfl⟩

end Catalog
end Rollout
