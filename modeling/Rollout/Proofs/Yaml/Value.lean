import Rollout.Proofs.Yaml.Node
import Rollout.Yaml.Reader

/-
Whatever a YAML text denotes is legal. The values that aliases repeat come from the table of
visits, which holds legal values only; this is kept by every step of finding a value.
-/
namespace Rollout
namespace Yaml

/-! ## Findings -/

/-- The values in a table of visits are legal. -/
def LegalVisits (t : Visits) : Prop := ∀ e ∈ t, ∀ v, e.2.value = some v → v.Legal

/-- What is found has a property, and the table stays legal. -/
def Finds {α : Type} (P : α → Prop) (m : Finding α) : Prop :=
  ∀ t, LegalVisits t → Yields (fun r => P r.1 ∧ LegalVisits r.2) (m t)

namespace Finds

variable {α β : Type} {P : α → Prop} {Q : β → Prop} {m : Finding α} {f : α → Finding β}

theorem pure {a : α} (h : P a) : Finds P (Pure.pure a : Finding α) :=
  fun _ ht => Yields.pure ⟨h, ht⟩

theorem refuse (fault : Fault) : Finds P (Yaml.refuse fault) := fun _ _ => Yields.error fault

theorem bind (hm : Finds P m) (hf : ∀ a, P a → Finds Q (f a)) : Finds Q (m >>= f) :=
  fun t ht => Yields.bind (hm t ht) fun r hr => hf r.1 hr.1 r.2 hr.2

/-- A step whose result does not matter. -/
theorem step (hm : Finds P m) (hf : ∀ a, Finds Q (f a)) : Finds Q (m >>= f) :=
  bind hm fun a _ => hf a

theorem lift {x : Except Fault α} (h : Yields P x) : Finds P (x : Finding α) :=
  fun _ ht => Yields.bind h fun _ ha => Yields.pure ⟨ha, ht⟩

theorem modify {change : Visits → Visits} (h : ∀ t, LegalVisits t → LegalVisits (change t)) :
    Finds (fun _ => True) (modify change : Finding PUnit) :=
  fun t ht => Yields.pure ⟨trivial, h t ht⟩

theorem get : Finds LegalVisits (get : Finding Visits) := fun _ ht => Yields.pure ⟨ht, ht⟩

theorem lifts : Lifts Finding Finds := ⟨pure, bind⟩

theorem mapM {f : α → Finding β} {xs : List α} (h : ∀ a ∈ xs, Finds Q (f a)) :
    Finds (fun ys => ∀ b ∈ ys, Q b) (xs.mapM f) :=
  lifts.mapM h

theorem foldlM {f : β → α → Finding β} {xs : List α} {b : β} (hb : Q b)
    (h : ∀ b, Q b → ∀ a ∈ xs, Finds Q (f b a)) : Finds Q (xs.foldlM f b) :=
  lifts.foldlM hb h

end Finds

/-! ## Visits -/

theorem legalVisits_change {place : Nat} {f : Visit → Visit} {t : Visits} (ht : LegalVisits t)
    (hf : ∀ visit v, (f visit).value = some v → visit.value = some v ∨ v.Legal) :
    LegalVisits (t.change place f) := by
  induction t with
  | nil => exact ht
  | cons e rest ih =>
    obtain ⟨o, visit⟩ := e
    rw [LegalVisits, List.forall_mem_cons] at ht
    rw [Visits.change]
    split
    · refine List.forall_mem_cons.2 ⟨fun v hv => ?_, ht.2⟩
      exact (hf visit v hv).elim (ht.1 v) id
    · exact List.forall_mem_cons.2 ⟨ht.1, ih ht.2⟩

theorem legalVisits_start {place : Nat} {t : Visits} (ht : LegalVisits t) :
    LegalVisits (t.start place) := by
  unfold Visits.start
  split
  · exact legalVisits_change ht (by simp)
  · exact List.forall_mem_cons.2 ⟨by simp, ht⟩

theorem legal_of_lookup {place : Nat} {t : Visits} {visit : Visit} {v : Json} (ht : LegalVisits t)
    (hvisit : t.lookup place = some visit) (hv : visit.value = some v) : v.Legal := by
  obtain ⟨l₁, l₂, rfl, -⟩ := List.lookup_eq_some_iff.1 hvisit
  exact ht (place, visit) (by simp) v hv

theorem finds_visiting {anchor : Option Anchor} {m : Finding Json} (hm : Finds Json.Legal m) :
    Finds Json.Legal (visiting anchor m) := by
  unfold visiting
  split
  · exact hm
  · refine .step (.modify fun t ht => legalVisits_start ht) fun _ => .bind hm fun v hv => ?_
    refine .step (.modify fun t ht => legalVisits_change ht fun visit w hw => ?_) fun _ => .pure hv
    cases hw
    exact .inr hv

/-! ## Scopes -/

/-- The nodes with an anchor are legal. -/
def LegalScope (s : Scope) : Prop := ∀ e ∈ s.anchored, e.2.Legal

theorem legal_of_source? {s : Scope} (hs : LegalScope s) {name : String} {offset : Nat}
    {e : Anchor × Node} (h : s.source? name offset = some e) : e.2.Legal :=
  hs e (List.mem_of_mem_filter (List.mem_of_getLast? h))

theorem legal_of_behind? {s : Scope} (hs : LegalScope s) {n m : Node} (hn : n.Legal)
    (h : s.behind? n = some m) : m.Legal := by
  unfold Scope.behind? at h
  split at h
  · obtain ⟨e, he, rfl⟩ := Option.map_eq_some_iff.1 h
    exact legal_of_source? hs he
  · cases h
    exact hn

theorem legal_stub (n : Node) : (stub n).Legal := by
  have hempty : (Json.object []).Legal := .object List.Pairwise.nil (List.forall_mem_nil _)
  unfold stub
  split
  · exact .array (List.forall_mem_nil _)
  · exact .array (List.forall_mem_nil _)
  · exact .foreign hempty nofun
  · exact .foreign hempty nofun
  · exact hempty

namespace Node

/-- The nodes with an anchor in a legal node are legal. -/
def LegalAnchored (es : List (Anchor × Node)) : Prop := ∀ e ∈ es, e.2.Legal

theorem legalAnchored_withOwn {n : Node} {inside : List (Anchor × Node)} (hn : n.Legal)
    (h : LegalAnchored inside) : LegalAnchored (withOwn n inside) := by
  unfold withOwn
  split
  · exact List.forall_mem_cons.2 ⟨hn, h⟩
  · exact h

theorem LegalAnchored.append {es es' : List (Anchor × Node)} (h : LegalAnchored es)
    (h' : LegalAnchored es') : LegalAnchored (es ++ es') :=
  fun e he => (List.mem_append.1 he).elim (h e) (h' e)

mutual

theorem legal_anchored : ∀ n : Node, n.Legal → LegalAnchored n.anchored
  | .repetition .., _ => List.forall_mem_nil _
  | .scalar .., hn => legalAnchored_withOwn hn (List.forall_mem_nil _)
  | .sequence _ items, hn => by
    cases hn with
    | sequence hitems =>
      exact legalAnchored_withOwn (.sequence hitems) (legal_anchoredItems items hitems)
  | .mapping _ _ entries, hn =>
    legalAnchored_withOwn hn (legal_anchoredEntries entries (legal_mapping_iff.1 hn))
  | .pairs _ _ entries, hn =>
    legalAnchored_withOwn hn (legal_anchoredEntries entries (legal_pairs_iff.1 hn))

theorem legal_anchoredItems :
    ∀ items : List Node, (∀ n ∈ items, n.Legal) → LegalAnchored (anchoredItems items)
  | [], _ => List.forall_mem_nil _
  | n :: rest, h =>
    (legal_anchored n (h n List.mem_cons_self)).append
      (legal_anchoredItems rest (List.forall_mem_cons.1 h).2)

theorem legal_anchoredEntries :
    ∀ entries : List (Node × Option Node), (∀ e ∈ entries, LegalEntry e) →
      LegalAnchored (anchoredEntries entries)
  | [], _ => List.forall_mem_nil _
  | (k, none) :: rest, h =>
    (legal_anchored k (h _ List.mem_cons_self).key).append
      (legal_anchoredEntries rest (List.forall_mem_cons.1 h).2)
  | (k, some v) :: rest, h =>
    (legal_anchored k (h _ List.mem_cons_self).key).append
      ((legal_anchored v ((h _ List.mem_cons_self).value v rfl)).append
        (legal_anchoredEntries rest (List.forall_mem_cons.1 h).2))

end

end Node

/-! ## Entries -/

/-- The keys and values of entries are legal. -/
def LegalEntries (es : Entries) : Prop := ∀ e ∈ es, e.1.Legal ∧ e.2.Legal

theorem legalEntries_put {key value : Json} {es : Entries} (hes : LegalEntries es)
    (hkey : key.Legal) (hvalue : value.Legal) : LegalEntries (es.put key value) := by
  induction es with
  | nil => exact List.forall_mem_singleton.2 ⟨hkey, hvalue⟩
  | cons e rest ih =>
    obtain ⟨k, v⟩ := e
    rw [LegalEntries, List.forall_mem_cons] at hes
    rw [Entries.put]
    split
    · exact List.forall_mem_cons.2 ⟨⟨hes.1.1, hvalue⟩, hes.2⟩
    · exact List.forall_mem_cons.2 ⟨hes.1, ih hes.2⟩

theorem legal_put {r : Record Json} {key : String} {value : Json} (hr : (Json.object r).Legal)
    (hvalue : value.Legal) : (Json.object (r.put key value)).Legal := by
  obtain ⟨hkeys, hvalues⟩ := Json.legal_object_iff.1 hr
  refine .object (Record.canonical_put hkeys key value) fun m hm => ?_
  rcases Record.mem_of_mem_put hm with rfl | hm
  · exact hvalue
  · exact hvalues m hm

theorem legal_entryOfKey? {k : Json} (hk : k.Legal) :
    Yields (fun o => ∀ e, o = some e → e.1.Legal ∧ e.2.Legal) (entryOfKey? k) := by
  unfold entryOfKey?
  split
  · split
    · exact .pure (by rintro _ ⟨⟩; exact ⟨.text _, .text _⟩)
    · exact .pure nofun
  · have hitems := Json.legal_array_iff.1 hk
    rw [List.forall_mem_cons, List.forall_mem_cons] at hitems
    exact .pure (by rintro _ ⟨⟩; exact ⟨hitems.1, hitems.2.1⟩)
  · exact .pure nofun
  · exact .error _

section Members

variable {s : Scope} {inner : Node → Finding Json} {merged : Node → Finding Entries}
  {e : Node × Option Node}

theorem finds_valueOf (hinner : ∀ n, n.Legal → Finds Json.Legal (inner n))
    (he : ∀ v, e.2 = some v → v.Legal) : Finds Json.Legal (valueOf inner e.2) := by
  unfold valueOf
  split
  case h_1 v hv => exact hinner v (he v hv)
  case h_2 => exact .pure .null

theorem finds_mergedEntries (hs : LegalScope s)
    (hmerged : ∀ n, n.Legal → Finds LegalEntries (merged n)) {value : Option Node}
    (hvalue : ∀ v, value = some v → v.Legal) :
    Finds LegalEntries (mergedEntries s merged value) := by
  unfold mergedEntries
  extract_lets ofMapping
  have hmapping (n : Node) (hn : n.Legal) : Finds LegalEntries (ofMapping n) := by
    unfold ofMapping
    split
    · exact hmerged _ (legal_of_behind? hs hn ‹_›)
    · exact .refuse _
  have hbehind (n : Node) (hn : value.bind s.behind? = some n) : n.Legal := by
    obtain ⟨v, hv, hn⟩ := Option.bind_eq_some_iff.1 hn
    exact legal_of_behind? hs (hvalue v hv) hn
  split
  · cases hbehind _ ‹_› with
    | sequence hitems =>
      refine .bind (.mapM fun n hn => hmapping n (hitems n hn)) fun ess hess => .pure ?_
      intro e he
      obtain ⟨es, hes, he⟩ := List.mem_flatten.1 he
      exact hess es hes e he
  · exact .pure (List.forall_mem_nil _)
  · exact hmapping _ (hbehind _ ‹_›)
  · exact .refuse _

theorem finds_addMember (hs : LegalScope s) (hinner : ∀ n, n.Legal → Finds Json.Legal (inner n))
    (hmerged : ∀ n, n.Legal → Finds LegalEntries (merged n)) (he : LegalEntry e) {r : Record Json}
    (hr : (Json.object r).Legal) :
    Finds (fun r => (Json.object r).Legal) (addMember s inner merged r e) := by
  unfold addMember
  split
  · refine .bind (finds_mergedEntries hs hmerged he.value) fun es hes => .pure ?_
    refine List.foldlRecOn (motive := fun r => (Json.object r).Legal) es _ hr fun r hr e he => ?_
    dsimp only
    split
    · exact hr
    · exact legal_put hr (hes e he).2
  · refine .bind (hinner _ he.key) fun k hk => .step (.lift (.anything _)) fun name => ?_
    exact .bind (finds_valueOf hinner he.value) fun v hv => .pure (legal_put hr hv)

theorem finds_addEntryOf (hs : LegalScope s) (hinner : ∀ n, n.Legal → Finds Json.Legal (inner n))
    (hmerged : ∀ n, n.Legal → Finds LegalEntries (merged n)) (he : LegalEntry e) {es : Entries}
    (hes : LegalEntries es) : Finds LegalEntries (addEntryOf s inner merged es e) := by
  unfold addEntryOf
  split
  · refine .bind (finds_mergedEntries hs hmerged he.value) fun new hnew => .pure ?_
    refine List.foldlRecOn new _ hes fun es hes e he => ?_
    dsimp only
    split
    · exact hes
    · exact legalEntries_put hes (hnew e he).1 (hnew e he).2
  · refine .bind (hinner _ he.key) fun k hk => ?_
    exact .bind (finds_valueOf hinner he.value) fun v hv => .pure (legalEntries_put hes hk hv)

theorem finds_findKey (hinner : ∀ n, n.Legal → Finds Json.Legal (inner n)) (he : LegalEntry e) :
    Finds Json.Legal (findKey s inner e) := by
  unfold findKey
  split
  · exact .refuse _
  · exact hinner _ he.key

/-- The value that an alias repeats is in the table, or it is laid out anew. -/
theorem finds_repeated (hs : LegalScope s) {again : Node → Finding Json}
    (hinner : ∀ n, n.Legal → Finds Json.Legal (inner n))
    (hagain : ∀ n, n.Legal → Finds Json.Legal (again n)) {name : String} {offset : Nat} :
    Finds Json.Legal (repeated s inner again name offset) := by
  unfold repeated
  split
  · exact .refuse _
  · rename_i a source hsource
    have hlegal : source.Legal := legal_of_source? hs hsource
    extract_lets +lift taken
    have hchange (f : Visit → Visit) (hf : ∀ visit, (f visit).value = visit.value) :
        ∀ t, LegalVisits t → LegalVisits (t.change a.offset f) :=
      fun t ht => legalVisits_change ht fun visit v hv => .inl ((hf visit).symm.trans hv)
    have htaken : Finds Json.Legal (taken ()) := by
      refine .step (.modify (hchange _ fun _ => rfl)) fun _ => .bind .get fun visits hvisits => ?_
      refine .step (.modify (hchange _ fun _ => rfl)) fun _ => .bind .get fun t ht => ?_
      split
      · exact .refuse _
      · split
        · exact .refuse _
        · split
          case h_1 v hv => exact .pure (legal_of_lookup ht ‹_› hv)
          case h_2 =>
            cases hfound : again source visits with
            | error fault => exact .pure (legal_stub source)
            | ok r => exact .pure (hagain source hlegal visits hvisits r hfound).1
    refine .bind .get fun t ht => ?_
    split
    · exact .step (hinner source hlegal) fun _ => htaken
    · exact htaken

end Members

/-! ## Nodes -/

/-- The values of legal nodes and the entries of legal mappings are found to be legal. -/
structure FindsLegal (s : Scope) (depth : Nat) : Prop where
  find : ∀ turns n, n.Legal → Finds Json.Legal (find s depth turns n)
  entriesOf : ∀ turns n, n.Legal → Finds LegalEntries (entriesOf s depth turns n)

theorem FindsLegal.find_succ {s : Scope} (hs : LegalScope s) {depth : Nat} (h : FindsLegal s depth)
    (turns : Nat) {n : Node} (hn : n.Legal) :
    Finds Json.Legal (Yaml.find s (depth + 1) turns n) := by
  have hinner := h.find turns
  have hmerged := h.entriesOf turns
  have hempty : (Json.object []).Legal := .object List.Pairwise.nil (List.forall_mem_nil _)
  unfold Yaml.find
  extract_lets inner merged again
  split
  · refine finds_repeated hs hinner fun source hsource => ?_
    unfold again
    split
    · exact .pure (legal_stub source)
    · exact h.find _ source hsource
  · cases hn with
    | scalar hv => exact finds_visiting (.pure hv)
  · cases hn with
    | sequence hitems =>
      exact finds_visiting (.bind (.mapM fun n hn => hinner n (hitems n hn)) fun vs hvs =>
        .pure (.array hvs))
  · have hentries := Node.legal_mapping_iff.1 hn
    exact finds_visiting (.bind
      (.foldlM hempty fun r hr e he => finds_addMember hs hinner hmerged (hentries e he) hr)
      fun r hr => .pure hr)
  · have hentries := Node.legal_mapping_iff.1 hn
    exact finds_visiting (.step (.mapM fun e he => finds_findKey hinner (hentries e he)) fun _ =>
      .pure (.foreign hempty nofun))
  · have hentries := Node.legal_pairs_iff.1 hn
    refine finds_visiting (.bind (Finds.mapM (Q := Json.Legal) fun e he => ?_) fun vs hvs =>
      .pure (.array hvs))
    exact .bind (finds_addMember hs hinner hmerged (hentries e he) hempty) fun r hr => .pure hr
  · have hentries := Node.legal_pairs_iff.1 hn
    refine finds_visiting (.step (Finds.mapM (Q := Json.Legal) fun e he => ?_) fun keys => ?_)
    · exact .bind (hinner _ (hentries e he).key) fun k hk =>
        .step (finds_valueOf hinner (hentries e he).value) fun _ => .pure hk
    · split
      · exact .pure (.foreign hempty nofun)
      · exact .refuse _

theorem FindsLegal.entriesOf_succ {s : Scope} (hs : LegalScope s) {depth : Nat}
    (h : FindsLegal s depth) (turns : Nat) {n : Node} (hn : n.Legal) :
    Finds LegalEntries (Yaml.entriesOf s (depth + 1) turns n) := by
  have hinner := h.find turns
  unfold Yaml.entriesOf
  extract_lets inner
  split
  · have hentries := Node.legal_mapping_iff.1 hn
    exact .foldlM (List.forall_mem_nil _) fun es hes e he =>
      finds_addEntryOf hs hinner (h.entriesOf turns) (hentries e he) hes
  · have hentries := Node.legal_mapping_iff.1 hn
    refine .bind (.mapM fun e he => finds_findKey hinner (hentries e he)) fun keys hkeys => ?_
    refine .bind (.mapM fun k hk => .lift (legal_entryOfKey? (hkeys k hk))) fun os hos => .pure ?_
    intro e he
    obtain ⟨o, ho, rfl⟩ := List.mem_filterMap.1 he
    exact hos _ ho e rfl
  · exact .refuse _

theorem findsLegal {s : Scope} (hs : LegalScope s) (depth : Nat) : FindsLegal s depth := by
  induction depth with
  | zero => exact ⟨fun _ _ _ => .refuse _, fun _ _ _ => .refuse _⟩
  | succ depth ih =>
    exact ⟨fun turns _ => ih.find_succ hs turns, fun turns _ => ih.entriesOf_succ hs turns⟩

/-! ## Texts -/

theorem legal_value {depth : Nat} {d : Document} (hd : d.root.Legal) :
    Yields Json.Legal (d.value depth) := by
  have hs : LegalScope ⟨d.directives, d.root.anchored⟩ := Node.legal_anchored d.root hd
  have hfind := (findsLegal hs (depth * depth)).find (turnsFor (aliases d.root)) d.root hd
  exact .map fun r hr => (hfind [] (List.forall_mem_nil _) r hr).1

/-- Whatever a YAML text denotes is legal. -/
theorem legal_of_read {text : String} {v : Json} (h : read text = .ok v) : v.Legal := by
  have hread : Yields Json.Legal (read text) :=
    .step fun ts => .step fun parts => .bind legal_documentOf fun d hd => legal_value hd
  exact hread v h

end Yaml
end Rollout
