import Rollout.Proofs.Yaml.Scalar
import Rollout.Yaml.Node.OfOutline

/-
The nodes of a text hold legal scalars. No scalar enters a node but through the reading of its
text, and the steps that put nodes together pass scalars on as they are.
-/
namespace Rollout
namespace Yaml

/-! ## Loops -/

/-- A way for computations to have the properties of their results that goes along with steps. -/
structure Lifts (m : Type → Type) [Monad m] (Holds : {α : Type} → (α → Prop) → m α → Prop) :
    Prop where
  pure : ∀ {α : Type} {P : α → Prop} {a : α}, P a → Holds P (Pure.pure a : m α)
  bind : ∀ {α β : Type} {P : α → Prop} {Q : β → Prop} {x : m α} {f : α → m β}, Holds P x →
    (∀ a, P a → Holds Q (f a)) → Holds Q (x >>= f)

namespace Lifts

variable {m : Type → Type} [Monad m]
  {Holds : {α : Type} → (α → Prop) → m α → Prop} {α β : Type} {Q : β → Prop}

theorem mapM [LawfulMonad m] (l : Lifts m Holds) {f : α → m β} {xs : List α}
    (h : ∀ a ∈ xs, Holds Q (f a)) : Holds (fun ys => ∀ b ∈ ys, Q b) (xs.mapM f) := by
  induction xs with
  | nil => exact l.pure (List.forall_mem_nil _)
  | cons a rest ih =>
    rw [List.mapM_cons]
    rw [List.forall_mem_cons] at h
    exact l.bind h.1 fun b hb =>
      l.bind (ih h.2) fun bs hbs => l.pure (List.forall_mem_cons.2 ⟨hb, hbs⟩)

theorem foldlM (l : Lifts m Holds) {f : β → α → m β} {xs : List α} {b : β} (hb : Q b)
    (h : ∀ b, Q b → ∀ a ∈ xs, Holds Q (f b a)) : Holds Q (xs.foldlM f b) := by
  induction xs generalizing b with
  | nil => exact l.pure hb
  | cons a rest ih =>
    rw [List.foldlM_cons]
    exact l.bind (h b hb a List.mem_cons_self) fun b' hb' =>
      ih hb' fun b hb a ha => h b hb a (List.mem_cons_of_mem _ ha)

end Lifts

/-! ## Results -/

/-- Whatever is computed has a property. There may be nothing. -/
def Yields {ε α : Type} (P : α → Prop) (x : Except ε α) : Prop := ∀ a, x = .ok a → P a

namespace Yields

variable {ε α β : Type} {P : α → Prop} {Q : β → Prop} {x : Except ε α} {f : α → Except ε β}

theorem pure {a : α} (h : P a) : Yields P (Pure.pure a : Except ε α) := by
  rintro _ ⟨⟩
  exact h

theorem error (e : ε) : Yields P (.error e) := by
  rintro _ ⟨⟩

theorem throw (e : ε) : Yields P (MonadExcept.throw e : Except ε α) := error e

theorem anything (x : Except ε α) : Yields (fun _ => True) x := fun _ _ => trivial

theorem bind (hx : Yields P x) (hf : ∀ a, P a → Yields Q (f a)) : Yields Q (x >>= f) := by
  cases x with
  | error e => exact error e
  | ok a => exact hf a (hx a rfl)

theorem map {g : α → β} (h : Yields (fun a => Q (g a)) x) : Yields Q (x.map g) := by
  cases x with
  | error e => exact error e
  | ok a => exact pure (h a rfl)

/-- A step of which nothing is known. -/
theorem step (hf : ∀ a, Yields Q (f a)) : Yields Q (x >>= f) :=
  bind (anything x) fun a _ => hf a

/-- A condition under which nothing comes. -/
theorem guarded {c : Prop} [Decidable c] {e : ε} {f : Unit → Except ε β} (h : Yields Q (f ())) :
    Yields Q (if c then MonadExcept.throw e >>= f else f ()) := by
  split
  · exact error e
  · exact h

/-- A condition under which a check is made. -/
theorem checked {c : Prop} [Decidable c] {x : Except ε Unit} {f : Unit → Except ε β}
    (h : Yields Q (f ())) : Yields Q (if c then x >>= f else f ()) := by
  split
  · exact step fun _ => h
  · exact h

theorem lifts : Lifts (Except ε) Yields := ⟨pure, bind⟩

theorem mapM {f : α → Except ε β} {xs : List α} (h : ∀ a ∈ xs, Yields Q (f a)) :
    Yields (fun ys => ∀ b ∈ ys, Q b) (xs.mapM f) :=
  lifts.mapM h

theorem foldlM {f : β → α → Except ε β} {xs : List α} {b : β} (hb : Q b)
    (h : ∀ b, Q b → ∀ a ∈ xs, Yields Q (f b a)) : Yields Q (xs.foldlM f b) :=
  lifts.foldlM hb h

end Yields

/-! ## Legal nodes -/

/-- Every scalar in a node denotes a legal value. -/
inductive Node.Legal : Node → Prop where
  | repetition (name : String) (offset : Nat) (notes : Notes) :
      Legal (.repetition name offset notes)
  | scalar {h : Head} {v : Scalar} (hv : v.reading.Legal) : Legal (.scalar h v)
  | sequence {h : Head} {items : List Node} (hitems : ∀ n ∈ items, Legal n) :
      Legal (.sequence h items)
  | mapping {h : Head} {sort : MappingSort} {entries : List (Node × Option Node)}
      (hkeys : ∀ e ∈ entries, Legal e.1) (hvalues : ∀ e ∈ entries, ∀ v, e.2 = some v → Legal v) :
      Legal (.mapping h sort entries)
  | pairs {h : Head} {sort : PairsSort} {entries : List (Node × Option Node)}
      (hkeys : ∀ e ∈ entries, Legal e.1) (hvalues : ∀ e ∈ entries, ∀ v, e.2 = some v → Legal v) :
      Legal (.pairs h sort entries)

/-- An entry whose key and value are legal. -/
structure LegalEntry (e : Node × Option Node) : Prop where
  key : e.1.Legal
  value : ∀ v, e.2 = some v → v.Legal

variable {n k v : Node} {entries : List (Node × Option Node)}

theorem LegalEntry.pair (hk : k.Legal) (hv : v.Legal) : LegalEntry (k, some v) :=
  ⟨hk, by rintro _ ⟨⟩; exact hv⟩

theorem LegalEntry.alone (hk : k.Legal) : LegalEntry (k, none) := ⟨hk, nofun⟩

namespace Node

theorem legal_mapping_iff {h : Head} {sort : MappingSort} :
    (mapping h sort entries).Legal ↔ ∀ e ∈ entries, LegalEntry e := by
  constructor
  · rintro (_ | _ | _ | ⟨hkeys, hvalues⟩) e he
    exact ⟨hkeys e he, hvalues e he⟩
  · exact fun h => .mapping (fun e he => (h e he).key) fun e he => (h e he).value

theorem legal_pairs_iff {h : Head} {sort : PairsSort} :
    (pairs h sort entries).Legal ↔ ∀ e ∈ entries, LegalEntry e := by
  constructor
  · rintro (_ | _ | _ | _ | ⟨hkeys, hvalues⟩) e he
    exact ⟨hkeys e he, hvalues e he⟩
  · exact fun h => .pairs (fun e he => (h e he).key) fun e he => (h e he).value

theorem Legal.withNotes {change : Notes → Notes} (h : n.Legal) : (n.withNotes change).Legal := by
  cases h with
  | repetition name offset notes => exact .repetition name offset _
  | scalar hv => exact .scalar hv
  | sequence hitems => exact .sequence hitems
  | mapping hkeys hvalues => exact .mapping hkeys hvalues
  | pairs hkeys hvalues => exact .pairs hkeys hvalues

theorem Legal.addAfter (h : n.Legal) (cs : List Char) : (n.addAfter cs).Legal := h.withNotes

theorem legal_nothing : nothing.Legal := .scalar .null

end Node

/-! ## Leaves -/

/-- A composed node is legal. -/
def LegalComposed (c : Composed) : Prop := c.node.Legal

namespace Node

variable {d : Directives} {props : Props} {atKey : Bool}

theorem legal_ofScalar {style : Style} {text : List Char} {notes : Notes} :
    Yields Legal (ofScalar d atKey style text props notes) := by
  unfold ofScalar
  refine .step fun anchor => .step fun tag => ?_
  refine Yields.bind (P := Reading.Legal) ?_ fun r hr => .pure (.scalar hr)
  split
  · split
    · exact .pure (.text _)
    · exact fun r hr => legal_of_tagged hr
  · refine .pure ?_
    split
    · exact legal_plain _ _ _
    · exact .text _

theorem legal_ofNothing {before : List Token} :
    Yields LegalComposed (ofNothing d atKey before props) :=
  .bind legal_ofScalar fun _ hn => .pure hn

theorem legal_ofLeaf {kind : Kind} {text : List Char} {offset : Nat} {tail : List Token} :
    Yields LegalComposed (ofLeaf d atKey kind text offset tail props) := by
  unfold ofLeaf
  refine .step fun after => ?_
  have hscalar (style : Style) (value : List Char) (notes : Notes) (finish : Nat) :
      Yields LegalComposed (do
        let n ← ofScalar d atKey style value props notes
        return ⟨n, finish⟩) := .bind legal_ofScalar fun _ hn => .pure hn
  split
  · split
    · exact .throw _
    · split
      · exact .throw _
      · exact .pure (.repetition _ _ _)
  · exact .step fun value => hscalar _ _ _ _
  · exact .step fun value => hscalar _ _ _ _
  · exact .step fun value => hscalar _ _ _ _

theorem legal_ofBlock {atRoot : Bool} {header : List Token} {text : List Char}
    {offset indent : Nat} :
    Yields LegalComposed (ofBlock d atRoot atKey header text offset indent props) := by
  unfold ofBlock
  split
  · exact .throw _
  · exact .step fun h => .step fun after => .step fun value =>
      .bind legal_ofScalar fun _ hn => .pure hn

/-! ## Entries -/

/-- Whatever stands inside is found to be legal. -/
def Sound (inner : Inner) : Prop := ∀ o props atKey, Yields LegalComposed (inner o props atKey)

variable {inner : Inner} {depth indent : Nat} {g : Gathering (Node × Option Node)}
  {s : Slot Outline}

/-- What is written at a place, or nothing. -/
theorem Sound.orNothing (hinner : Sound inner) {o : Option Outline} {before : List Token} :
    Yields LegalComposed (match o with
      | some o => inner o props atKey
      | none => ofNothing d atKey before props) := by
  split
  · exact hinner _ _ _
  · exact legal_ofNothing

/-- The entries that have been gathered are legal. -/
def LegalGathering (g : Gathering (Node × Option Node)) : Prop := ∀ e ∈ g.entries, LegalEntry e

theorem legal_addEntry (hinner : Sound inner) (hg : LegalGathering g) :
    Yields LegalGathering (addEntry inner d depth indent g s) := by
  unfold addEntry
  refine .step fun props => ?_
  extract_lets +lift implicit commented isBlockKey between entry
  have hcommented : Yields LegalGathering (commented ()) := .pure hg
  have hentry : Yields LegalGathering (entry ()) := by
    refine .bind hinner.orNothing fun key hkey => ?_
    extract_lets +lift keyed
    refine .guarded ?_
    refine .step fun valueProps => ?_
    extract_lets +lift valued node alone
    split
    · refine .checked ?_
      exact .bind hinner.orNothing fun value hvalue =>
        .pure (List.forall_mem_cons.2 ⟨.pair hkey hvalue, hg⟩)
    · refine .guarded ?_
      exact .pure (List.forall_mem_cons.2 ⟨.alone (hkey.addAfter _), hg⟩)
  split
  · split
    · exact .error _
    · exact .guarded hcommented
    · exact hcommented
  · split
    · exact .step fun _ => hentry
    · exact .guarded hentry

theorem legal_blockEntries (hinner : Sound inner) {offset : Nat} {slots : List (Slot Outline)} :
    Yields LegalGathering (blockEntries inner d depth offset indent slots) := by
  unfold blockEntries
  have hstart : LegalGathering (.start offset) := List.forall_mem_nil _
  refine .bind (.foldlM hstart fun g hg s _ => legal_addEntry hinner hg) fun g hg => ?_
  split
  · exact .throw _
  · exact .pure fun e he => hg e (List.mem_reverse.1 he)

/-- The items that have been gathered are legal. -/
def LegalItems (g : Gathering Node) : Prop := ∀ n ∈ g.entries, n.Legal

theorem legal_addItem (hinner : Sound inner) {g : Gathering Node} (hg : LegalItems g) :
    Yields LegalItems (addItem inner d indent g s) := by
  unfold addItem
  refine .step fun props => ?_
  split
  · split
    · exact .throw _
    · exact .pure hg
  · exact .bind hinner.orNothing fun item hitem => .pure (List.forall_mem_cons.2 ⟨hitem, hg⟩)

theorem legal_blockItems (hinner : Sound inner) {offset : Nat} {slots : List (Slot Outline)} :
    Yields LegalItems (blockItems inner d offset indent slots) := by
  unfold blockItems
  have hstart : LegalItems (.start offset) := List.forall_mem_nil _
  exact .bind (.foldlM hstart fun g hg s _ => legal_addItem hinner hg) fun g hg =>
    .pure fun n hn => hg n (List.mem_reverse.1 hn)

/-! ## Flow collections -/

theorem legal_noteEntry (cs : List Char) (h : ∀ e ∈ entries, LegalEntry e) :
    ∀ e ∈ noteEntry cs entries, LegalEntry e := by
  unfold noteEntry
  split
  · rw [List.forall_mem_cons] at h ⊢
    exact ⟨.pair h.1.key ((h.1.value _ rfl).addAfter cs), h.2⟩
  · rw [List.forall_mem_cons] at h ⊢
    exact ⟨.alone (h.1.key.addAfter cs), h.2⟩
  · exact h

theorem legal_flowPair (hinner : Sound inner) {isMapping : Bool} :
    Yields (fun r => LegalEntry r.1) (flowPair inner d isMapping props s) := by
  unfold flowPair
  extract_lets +lift between paired
  refine .guarded ?_
  refine .bind hinner.orNothing fun key hkey => .step fun valueProps => ?_
  cases valueProps.found with
  | none =>
    cases s.value with
    | none => exact .pure (.alone (hkey.addAfter _))
    | some o => exact .throw _
  | some colon =>
    cases s.value with
    | none => exact .checked (.bind legal_ofNothing fun v hv => .pure (.pair hkey hv))
    | some o => exact .checked (.bind (hinner o _ _) fun v hv => .pure (.pair hkey hv))

theorem legal_addFlowEntry (hinner : Sound inner) {isMapping : Bool} {p : Position}
    (hg : LegalGathering g) :
    Yields LegalGathering (addFlowEntry inner d depth isMapping p g s) := by
  unfold addFlowEntry
  refine .step fun props => ?_
  extract_lets +lift implicit early entries props' item entry
  have hentries : ∀ e ∈ entries, LegalEntry e := by
    unfold entries
    split
    · exact hg
    · exact legal_noteEntry _ hg
  have hitem : Yields LegalGathering (item ()) :=
    .bind hinner.orNothing fun item hitem =>
      .pure (List.forall_mem_cons.2 ⟨.alone hitem, hentries⟩)
  have hentry : Yields LegalGathering (entry ()) := by
    refine .step fun _ => ?_
    split
    · exact .guarded hitem
    · refine .bind (legal_flowPair hinner) fun r hr => ?_
      dsimp only
      split
      · exact .guarded (.pure (List.forall_mem_cons.2 ⟨hr, hentries⟩))
      · have hpair : (mapping {} .record [r.1]).Legal :=
          legal_mapping_iff.2 (List.forall_mem_singleton.2 hr)
        exact .pure (List.forall_mem_cons.2 ⟨.alone hpair, hentries⟩)
  split
  · split
    · exact .throw _
    · split
      · exact .throw _
      · exact .pure hg
  · exact .guarded hentry

theorem legal_addFlowEntries (hinner : Sound inner) {isMapping isFirst : Bool}
    (hg : LegalGathering g) (slots : List (Slot Outline)) :
    Yields LegalGathering (addFlowEntries inner d depth isMapping isFirst g slots) := by
  induction slots generalizing isFirst g with
  | nil => exact .pure fun e he => hg e (List.mem_reverse.1 he)
  | cons s rest ih =>
    rw [addFlowEntries]
    split
    case h_1 g' hentry => exact ih (legal_addFlowEntry hinner hg g' hentry)
    case h_2 f hentry => exact .error f

theorem legal_flowEntries (hinner : Sound inner) {opening : Token} {slots : List (Slot Outline)}
    {tail : List Token} :
    Yields LegalGathering (flowEntries inner d depth opening slots tail) := by
  unfold flowEntries
  have hstart : LegalGathering (.start opening.finish) := List.forall_mem_nil _
  refine .bind (legal_addFlowEntries hinner hstart _) fun g hg => ?_
  split
  · exact .throw _
  · exact .guarded (.step fun after => .pure hg)

/-! ## Collections -/

theorem legal_pairOf (hn : n.Legal) : Yields LegalEntry (pairOf n) := by
  unfold pairOf
  split
  case h_1 h sort entries =>
    split
    · exact .error _
    · cases entries with
      | nil => exact .pure (.alone legal_nothing.withNotes.withNotes)
      | cons e rest =>
        obtain ⟨k, v⟩ := e
        have hfirst := legal_mapping_iff.1 hn (k, v) List.mem_cons_self
        cases v with
        | none => exact .pure (.alone hfirst.key.withNotes.withNotes)
        | some v => exact .pure (.pair hfirst.key.withNotes (hfirst.value v rfl).withNotes)
  case h_2 => exact .pure (.alone hn)

theorem legal_taggedMapping {h : Head} (hentries : ∀ e ∈ entries, LegalEntry e) :
    Yields Legal (taggedMapping h entries) := by
  unfold taggedMapping
  split
  · split
    · exact .pure (legal_mapping_iff.2 hentries)
    · exact .error _
  · exact .pure (legal_mapping_iff.2 hentries)

theorem legal_taggedSequence {h : Head} {items : List Node} (hitems : ∀ n ∈ items, n.Legal) :
    Yields Legal (taggedSequence h items) := by
  unfold taggedSequence
  extract_lets +lift ordered
  split
  · refine .bind (.mapM fun n hn => legal_pairOf (hitems n hn)) fun entries hentries => ?_
    split
    · exact .throw _
    · exact .pure (legal_pairs_iff.2 hentries)
  · exact .pure (.sequence hitems)

/-! ## Documents -/

/-- The node of an outline is legal, by the depth to which it is gone through. -/
theorem sound_compose (d : Directives) (depth : Nat) (atRoot : Bool) :
    Sound (compose d depth atRoot) := by
  induction depth generalizing atRoot with
  | zero => exact fun _ _ _ => .error _
  | succ depth ih =>
    intro o props atKey
    have hinner := ih false
    cases o with
    | leaf kind text offset indent tail => exact legal_ofLeaf
    | block header text offset indent => exact legal_ofBlock
    | mapping offset indent slots =>
      exact .bind (legal_blockEntries hinner) fun g hg => .step fun h =>
        .bind (legal_taggedMapping hg) fun n hn => .pure hn
    | sequence offset indent slots =>
      exact .step fun _ => .bind (legal_blockItems hinner) fun g hg => .step fun h =>
        .bind (legal_taggedSequence hg) fun n hn => .pure hn
    | flow opening indent slots tail =>
      refine .bind (legal_flowEntries hinner) fun g hg => ?_
      split
      · exact .step fun h => .bind (legal_taggedMapping hg) fun n hn => .pure hn
      · have hitems : ∀ n ∈ g.entries.map (·.1), n.Legal :=
          List.forall_mem_map.2 fun e he => (hg e he).key
        exact .step fun h => .bind (legal_taggedSequence hitems) fun n hn => .pure hn

theorem legal_ofDocument {depth : Nat} {o : DocumentOutline} :
    Yields (fun r => r.1.Legal) (ofDocument d depth o) := by
  unfold ofDocument
  extract_lets +lift next
  refine .step fun props => .guarded ?_
  refine Yields.bind (P := LegalComposed) ?_ fun root hroot => .step fun _ => .pure hroot
  split
  · exact sound_compose d depth true _ _ _
  · exact legal_ofNothing

end Node

theorem legal_follow {depth : Nat} {r : Reached} {p : Part}
    (hr : ∀ d, r.document = some d → d.root.Legal) :
    Yields (fun r => ∀ d, r.document = some d → d.root.Legal) (r.follow depth p) := by
  unfold Reached.follow
  split
  · exact .step fun _ => .pure hr
  · refine .bind Node.legal_ofDocument fun root hroot => ?_
    dsimp only
    split
    · exact .throw _
    · split
      · exact .throw _
      · exact .pure (by rintro _ ⟨⟩; exact hroot)
  · exact .guarded (.step fun _ => .pure hr)

/-- The scalars of a document are legal. -/
theorem legal_documentOf {depth : Nat} {parts : List Part} :
    Yields (fun d => d.root.Legal) (documentOf depth parts) := by
  unfold documentOf
  refine .bind (.foldlM (Q := fun r => ∀ d, r.document = some d → d.root.Legal) nofun
    fun r hr p _ => legal_follow hr) fun r hr => ?_
  split
  · exact .pure (hr _ ‹_›)
  · split
    · exact .throw _
    · exact .pure Node.legal_nothing

end Yaml
end Rollout
