import Mathlib.Data.List.Sort
import Rollout.Proofs.Validation.Conditions

/-
Mounts that are in conflict. The check groups the sources by path and drops repetitions,
so it sees of every path and of every source on it only where they first stand among the
edges. What it reports is said of these places here: of the paths with several writers the
one that is written to first, with all its writers in the order of their first mounts.
-/
namespace Rollout

open Rollout.Topology Rollout.Validation

/-- The edge mounts the path for writing. -/
def Link.Writes (l : Link) (path : String) : Prop := l.edge = .mountsVolume path false

instance (l : Link) (path : String) : Decidable (l.Writes path) :=
  inferInstanceAs (Decidable (_ = _))

namespace Topology

/-- Two sources mount the path for writing. -/
def Contested (t : Topology) (path : String) : Prop :=
  ∃ l ∈ t.links, ∃ m ∈ t.links, l.Writes path ∧ m.Writes path ∧ l.source ≠ m.source

/-- The place among the edges of the first mount of a path for writing. -/
def firstMount (t : Topology) (path : String) : Nat := t.links.findIdx fun l => l.Writes path

/-- The place among the edges of the first mount of a path for writing by a source. -/
def firstMountBy (t : Topology) (path source : String) : Nat :=
  t.links.findIdx fun l => l.Writes path ∧ l.source = source

end Topology

namespace Validation

/-! ## First occurrences -/

theorem mem_distinct {x : String} {xs : List String} : x ∈ distinct xs ↔ x ∈ xs := by
  induction xs with
  | nil => simp [distinct]
  | cons y rest ih =>
    by_cases h : x = y
    · simp [distinct, h]
    · simp [distinct, h, ih]

theorem nodup_distinct (xs : List String) : (distinct xs).Nodup := by
  induction xs with
  | nil => exact List.nodup_nil
  | cons y rest ih =>
    rw [distinct]
    exact List.nodup_cons.2 ⟨by simp, ih.filter _⟩

theorem distinct_append (xs ys : List String) :
    distinct (xs ++ ys) = distinct xs ++ (distinct ys).filter fun y => decide (y ∉ xs) := by
  induction xs with
  | nil => simp [distinct]
  | cons x rest ih =>
    have hseen : ∀ y, (y != x && decide (y ∉ rest)) = decide (y ∉ x :: rest) := by
      intro y
      by_cases hy : y = x <;> simp [hy]
    rw [List.cons_append, distinct, ih, List.filter_append, List.filter_filter, distinct,
      List.cons_append, List.filter_congr fun y _ => hseen y]

theorem distinct_of_mem {xs : List String} {x : String} (h : x ∈ xs) (ys : List String) :
    distinct (xs ++ x :: ys) = distinct (xs ++ ys) := by
  have hseen : ∀ y, (decide (y ∉ xs) && (y != x)) = decide (y ∉ xs) := by
    intro y
    by_cases hy : y ∈ xs
    · simp [hy]
    · have hne : y ≠ x := fun heq => hy (heq ▸ h)
      simp [hy, hne]
  rw [distinct_append, distinct_append, distinct, List.filter_cons_of_neg (by simpa using h),
    List.filter_filter, List.filter_congr fun y _ => hseen y]

section FilterMap

variable {α : Type} {f : α → Option String}

/-- A find that the first member does not settle goes on behind it. -/
theorem findIdx_cons_of_ne {x : α} {c : String} (h : f x ≠ some c) (rest : List α) :
    ((x :: rest).findIdx fun x => f x = some c) = (rest.findIdx fun x => f x = some c) + 1 := by
  rw [List.findIdx_cons, decide_eq_false h, cond_false]

/-- What is found in a list stands in the order in which it is first found. -/
theorem pairwise_distinct_filterMap (xs : List α) :
    (distinct (xs.filterMap f)).Pairwise fun a b =>
      (xs.findIdx fun x => f x = some a) < xs.findIdx fun x => f x = some b := by
  induction xs with
  | nil => exact List.Pairwise.nil
  | cons x rest ih =>
    cases hx : f x with
    | none =>
      have hnone : ∀ c, f x ≠ some c := Option.eq_none_iff_forall_ne_some.1 hx
      rw [List.filterMap_cons_none hx]
      refine ih.imp fun {a b} hab => ?_
      rw [findIdx_cons_of_ne (hnone a), findIdx_cons_of_ne (hnone b)]
      exact Nat.succ_lt_succ hab
    | some c =>
      have hother : ∀ {d}, d ∈ (distinct (rest.filterMap f)).filter (fun y => y != c) →
          f x ≠ some d := by
        intro d hd heq
        rw [hx, Option.some.injEq] at heq
        exact bne_iff_ne.1 (List.mem_filter.1 hd).2 heq.symm
      rw [List.filterMap_cons_some hx, distinct]
      refine List.pairwise_cons.2 ⟨fun b hb => ?_, ?_⟩
      · rw [findIdx_cons_of_ne (hother hb), List.findIdx_cons, decide_eq_true hx, cond_true]
        exact Nat.succ_pos _
      · refine (ih.filter _).imp_of_mem fun {a b} ha hb hab => ?_
        rw [findIdx_cons_of_ne (hother ha), findIdx_cons_of_ne (hother hb)]
        exact Nat.succ_lt_succ hab

/-- A member that brings nothing, or only what one before it has brought, can be left
out. -/
theorem distinct_filterMap_of_repeated {before after : List α} {a : α}
    (h : f a = none ∨ ∃ b ∈ before, f b = f a) :
    distinct ((before ++ a :: after).filterMap f) = distinct ((before ++ after).filterMap f) := by
  rw [List.filterMap_append, List.filterMap_append]
  cases ha : f a with
  | none => rw [List.filterMap_cons_none ha]
  | some c =>
    obtain ⟨b, hb, hfb⟩ := h.resolve_left (by rw [ha]; exact Option.some_ne_none c)
    rw [List.filterMap_cons_some ha]
    exact distinct_of_mem (List.mem_filterMap.2 ⟨b, hb, hfb.trans ha⟩) _

end FilterMap

theorem eq_or_rel_of_find? {α : Type} {R : α → α → Prop} {q : α → Bool} {xs : List α} {a b : α}
    (hxs : xs.Pairwise R) (ha : xs.find? q = some a) (hb : b ∈ xs) (hq : q b = true) :
    b = a ∨ R a b := by
  obtain ⟨-, before, after, rfl, hbefore⟩ := List.find?_eq_some_iff_append.1 ha
  rcases List.mem_append.1 hb with hb | hb
  · have hnot := hbefore b hb
    rw [hq] at hnot
    cases hnot
  · rcases List.mem_cons.1 hb with rfl | hb
    · exact .inl rfl
    · exact .inr ((List.pairwise_cons.1 (List.pairwise_append.1 hxs).2.1).1 b hb)

end Validation

/-! ## Keys of a grouping -/

namespace Grouping

variable {α : Type}

theorem keys_add (k : String) (a : α) (g : Grouping String α) :
    (add k a g).map (·.1) = if k ∈ g.map (·.1) then g.map (·.1) else g.map (·.1) ++ [k] := by
  induction g with
  | nil => rfl
  | cons entry rest ih =>
    obtain ⟨j, as⟩ := entry
    rw [add]
    by_cases hj : j = k
    · simp [hj]
    · have hk : k ≠ j := fun heq => hj heq.symm
      rw [if_neg hj, List.map_cons, ih]
      by_cases hmem : k ∈ rest.map (·.1) <;> simp [hk, hmem]

/-- The keys stand in the order of their first values. -/
theorem keys_ofList (pairs : List (String × α)) :
    (ofList pairs).map (·.1) = distinct (pairs.map (·.1)) := by
  induction pairs using List.reverseRecOn with
  | nil => rfl
  | append_singleton pairs p ih =>
    have hstep : ofList (pairs ++ [p]) = add p.1 p.2 (ofList pairs) := by
      rw [ofList, List.foldl_append]
      rfl
    rw [hstep, keys_add, ih, List.map_append, distinct_append, List.map_singleton]
    by_cases hmem : p.1 ∈ pairs.map (·.1)
    · have hseen : p.1 ∈ distinct (pairs.map (·.1)) := mem_distinct.2 hmem
      rw [if_pos hseen]
      simp [distinct, hmem]
    · have hnew : p.1 ∉ distinct (pairs.map (·.1)) := fun h => hmem (mem_distinct.1 h)
      rw [if_neg hnew]
      simp [distinct, hmem]

theorem ofList_eq_map (pairs : List (String × α)) :
    ofList pairs = (distinct (pairs.map (·.1))).map fun k => (k, scan k pairs) := by
  have hentry : ∀ entry ∈ ofList pairs, (entry.1, scan entry.1 pairs) = entry := by
    rintro ⟨k, as⟩ hmem
    rw [(mem_ofList_iff.1 hmem).1]
  rw [← keys_ofList, List.map_map]
  exact (List.map_id _).symm.trans (List.map_congr_left fun entry h => (hentry entry h).symm)

end Grouping

/-! ## Writers -/

theorem Link.writablePath?_eq_some_iff {l : Link} {path : String} :
    l.edge.writablePath? = some path ↔ l.Writes path := by
  rw [Writes]
  cases l.edge with
  | mountsVolume p readOnly => cases readOnly <;> simp [Catalog.Edge.writablePath?]
  | _ => simp [Catalog.Edge.writablePath?]

/-- The source of an edge that mounts the path for writing. -/
def Link.writer? (path : String) (l : Link) : Option String :=
  if l.Writes path then some l.source else none

theorem Link.writer?_eq_some_iff {path source : String} {l : Link} :
    l.writer? path = some source ↔ l.Writes path ∧ l.source = source := by
  rw [writer?, Option.ite_none_right_eq_some, Option.some.injEq]

namespace Topology

variable {t : Topology}

/-- The sources that mount a path for writing, by their first mounts. -/
def writersOf (t : Topology) (path : String) : List String :=
  distinct (t.links.filterMap (Link.writer? path))

/-- The paths that are mounted for writing, by their first mounts. -/
def writablePaths (t : Topology) : List String :=
  distinct (t.links.filterMap fun l => l.edge.writablePath?)

theorem mem_writersOf_iff {path source : String} :
    source ∈ t.writersOf path ↔ ∃ l ∈ t.links, l.Writes path ∧ l.source = source := by
  simp only [writersOf, mem_distinct, List.mem_filterMap, Link.writer?_eq_some_iff]

theorem pairwise_writersOf (path : String) :
    (t.writersOf path).Pairwise fun a b => t.firstMountBy path a < t.firstMountBy path b := by
  refine (pairwise_distinct_filterMap (f := Link.writer? path) t.links).imp fun {a b} hab => ?_
  simpa only [firstMountBy, Link.writer?_eq_some_iff] using hab

theorem contested_iff {path : String} : t.Contested path ↔ 1 < (t.writersOf path).length := by
  have hnodup : (t.writersOf path).Nodup := nodup_distinct _
  rw [one_lt_length_iff hnodup]
  simp only [mem_writersOf_iff]
  constructor
  · rintro ⟨l, hl, m, hm, hlw, hmw, hne⟩
    exact ⟨_, ⟨l, hl, hlw, rfl⟩, _, ⟨m, hm, hmw, rfl⟩, hne⟩
  · rintro ⟨_, ⟨l, hl, hlw, rfl⟩, _, ⟨m, hm, hmw, rfl⟩, hne⟩
    exact ⟨l, hl, m, hm, hlw, hmw, hne⟩

theorem mem_writablePaths_of_contested {path : String} (h : t.Contested path) :
    path ∈ t.writablePaths := by
  obtain ⟨l, hl, -, -, hwrites, -⟩ := h
  exact mem_distinct.2 (List.mem_filterMap.2 ⟨l, hl, Link.writablePath?_eq_some_iff.2 hwrites⟩)

theorem pairwise_writablePaths :
    t.writablePaths.Pairwise fun a b => t.firstMount a < t.firstMount b := by
  refine (pairwise_distinct_filterMap (f := fun l : Link => l.edge.writablePath?) t.links).imp
    fun {a b} hab => ?_
  simpa only [firstMount, Link.writablePath?_eq_some_iff] using hab

theorem mountsExclusive_iff : t.MountsExclusive ↔ ∀ path, ¬t.Contested path := by
  constructor
  · rintro h path ⟨l, hl, m, hm, hlw, hmw, hne⟩
    exact hne (h path l hl m hm hlw hmw)
  · intro h path l hl m hm hlw hmw
    by_contra hne
    exact h path ⟨l, hl, m, hm, hlw, hmw, hne⟩

theorem exists_link_firstMount {path : String} (h : t.Contested path) :
    ∃ l, t.links[t.firstMount path]? = some l ∧ l.Writes path := by
  obtain ⟨l, hl, -, -, hwrites, -⟩ := h
  have hlt : t.firstMount path < t.links.length :=
    List.findIdx_lt_length_of_exists ⟨l, hl, decide_eq_true hwrites⟩
  exact ⟨_, List.getElem?_eq_getElem hlt, of_decide_eq_true (List.findIdx_getElem (w := hlt))⟩

/-- Two paths are not mounted by one edge. -/
theorem eq_of_firstMount_eq {path other : String} (hpath : t.Contested path)
    (hother : t.Contested other) (h : t.firstMount path = t.firstMount other) : path = other := by
  obtain ⟨l, hl, hlw⟩ := exists_link_firstMount hpath
  obtain ⟨m, hm, hmw⟩ := exists_link_firstMount hother
  rw [h] at hl
  obtain rfl := Option.some.inj (hl.symm.trans hm)
  exact (Catalog.Edge.mountsVolume.inj (hlw.symm.trans hmw)).1

end Topology

/-! ## The conflict that is reported -/

namespace Validation

variable {t : Topology}

/-- The group of a path has its writers, as often as they mount it. -/
theorem scan_mounts (t : Topology) (path : String) :
    Grouping.scan path
        (t.links.filterMap fun l => l.edge.writablePath?.map fun path => (path, l.source)) =
      t.links.filterMap (Link.writer? path) := by
  rw [Grouping.scan, List.filter_filterMap, List.map_filterMap]
  refine List.filterMap_congr fun l _ => ?_
  cases hpath : l.edge.writablePath? with
  | none =>
    have hnot : ¬l.Writes path := fun h => by
      rw [Link.writablePath?_eq_some_iff.2 h] at hpath
      cases hpath
    rw [Link.writer?, if_neg hnot]
    rfl
  | some other =>
    have hwrites : l.Writes path ↔ other = path := by
      rw [← Link.writablePath?_eq_some_iff, hpath, Option.some.injEq]
    by_cases h : other = path
    · rw [Link.writer?, if_pos (hwrites.2 h)]
      simp [h]
    · rw [Link.writer?, if_neg fun hw => h (hwrites.1 hw)]
      simp [h]

/-- The check in terms of the paths and of their writers. -/
theorem mountFault_eq (t : Topology) :
    mountFault t =
      (t.writablePaths.find? fun path => decide (1 < (t.writersOf path).length)).map fun path =>
        .storageConflict path (t.writersOf path) := by
  have hkeys : List.map (·.1)
      (t.links.filterMap fun l => l.edge.writablePath?.map fun path => (path, l.source)) =
        t.links.filterMap fun l => l.edge.writablePath? := by
    rw [List.map_filterMap]
    refine List.filterMap_congr fun l _ => ?_
    rw [Option.map_map]
    exact Option.map_id'
  rw [mountFault, writers, Grouping.ofList_eq_map, hkeys, List.map_map, List.find?_map,
    Option.map_map]
  simp only [Function.comp_def, scan_mounts]
  rfl

theorem mountFault_eq_none_iff : mountFault t = none ↔ t.MountsExclusive := by
  rw [mountFault_eq, Option.map_eq_none_iff, List.find?_eq_none, mountsExclusive_iff]
  simp only [decide_eq_true_eq, ← contested_iff]
  exact ⟨fun h path hpath => h path (mem_writablePaths_of_contested hpath) hpath,
    fun h path _ => h path⟩

/-- The path that is reported is contested, and no other contested path is mounted for
writing before it. -/
theorem contested_of_mountFault {fault : Fault} (h : mountFault t = some fault) :
    ∃ path, fault = .storageConflict path (t.writersOf path) ∧ t.Contested path ∧
      ∀ other, t.Contested other → t.firstMount path ≤ t.firstMount other := by
  rw [mountFault_eq] at h
  obtain ⟨path, hfind, rfl⟩ := Option.map_eq_some_iff.1 h
  have hfound := List.find?_some hfind
  have hcontested : t.Contested path := contested_iff.2 (of_decide_eq_true hfound)
  refine ⟨path, rfl, hcontested, fun other hother => ?_⟩
  have hlong := decide_eq_true (contested_iff.1 hother)
  rcases eq_or_rel_of_find? pairwise_writablePaths hfind (mem_writablePaths_of_contested hother)
    hlong with rfl | hlt
  · exact Nat.le_refl _
  · exact Nat.le_of_lt hlt

/-- Each writer once, by the first mounts: this leaves one list. -/
theorem eq_writersOf {path : String} {writers : List String}
    (hmem : ∀ source, source ∈ writers ↔ ∃ l ∈ t.links, l.Writes path ∧ l.source = source)
    (hfirst : writers.Pairwise fun a b => t.firstMountBy path a < t.firstMountBy path b) :
    writers = t.writersOf path := by
  have hirrefl : Std.Irrefl fun a b => t.firstMountBy path a < t.firstMountBy path b :=
    ⟨fun _ => Nat.lt_irrefl _⟩
  have hantisymm : Std.Antisymm fun a b => t.firstMountBy path a < t.firstMountBy path b :=
    ⟨fun _ _ hab hba => absurd hab (Nat.lt_asymm hba)⟩
  exact hfirst.eq_of_mem_iff (pairwise_writersOf path) fun source =>
    (hmem source).trans mem_writersOf_iff.symm

/-- An edge that mounts nothing for writing changes no verdict, nor does one that repeats
a mount before it. -/
theorem mountFault_eq_of_repeated {t' : Topology} {before after : List Link} {l : Link}
    (hlinks : t.links = before ++ l :: after) (hlinks' : t'.links = before ++ after)
    (h : (∀ path, ¬l.Writes path) ∨ ∃ m ∈ before, m.edge = l.edge ∧ m.source = l.source) :
    mountFault t' = mountFault t := by
  have hpaths : t.writablePaths = t'.writablePaths := by
    rw [writablePaths, writablePaths, hlinks, hlinks']
    refine distinct_filterMap_of_repeated (h.imp (fun hnot => ?_) ?_)
    · exact Option.eq_none_iff_forall_ne_some.2 fun path hpath =>
        hnot path (Link.writablePath?_eq_some_iff.1 hpath)
    · rintro ⟨m, hm, hedge, -⟩
      exact ⟨m, hm, congrArg _ hedge⟩
  have hwriters : ∀ path, t.writersOf path = t'.writersOf path := by
    intro path
    rw [writersOf, writersOf, hlinks, hlinks']
    refine distinct_filterMap_of_repeated (h.imp (fun hnot => if_neg (hnot path)) ?_)
    rintro ⟨m, hm, hedge, hsource⟩
    have hwrites : m.Writes path ↔ l.Writes path := by rw [Link.Writes, Link.Writes, hedge]
    refine ⟨m, hm, ?_⟩
    simp only [Link.writer?, hwrites, hsource]
  rw [mountFault_eq, mountFault_eq, hpaths]
  simp only [hwriters]

/-- Nothing is found exactly where all who mount a path for writing are one. Otherwise the
contested path that is mounted for writing first is reported, with all its writers, each
once and by their first mounts. -/
theorem mountFault_exact (t : Topology) :
    (mountFault t = none ↔
        ∀ path, ∀ l ∈ t.links, ∀ m ∈ t.links, l.edge = .mountsVolume path false →
          m.edge = .mountsVolume path false → l.source = m.source) ∧
      (∀ fault, mountFault t = some fault ↔
        ∃ path writers, fault = .storageConflict path writers ∧ t.Contested path ∧
          (∀ other, t.Contested other → t.firstMount path ≤ t.firstMount other) ∧
          (∀ source, source ∈ writers ↔ ∃ l ∈ t.links, l.Writes path ∧ l.source = source) ∧
          writers.Pairwise fun a b => t.firstMountBy path a < t.firstMountBy path b) ∧
      ∀ (t' : Topology) (before after : List Link) (l : Link),
        t.links = before ++ l :: after → t'.links = before ++ after →
          ((∀ path, ¬l.Writes path) ∨ ∃ m ∈ before, m.edge = l.edge ∧ m.source = l.source) →
          mountFault t' = mountFault t := by
  refine ⟨mountFault_eq_none_iff, fun fault => ⟨fun h => ?_, ?_⟩,
    fun t' before after l hlinks hlinks' h => mountFault_eq_of_repeated hlinks hlinks' h⟩
  · obtain ⟨path, rfl, hcontested, hfirst⟩ := contested_of_mountFault h
    exact ⟨path, _, rfl, hcontested, hfirst, fun _ => mem_writersOf_iff, pairwise_writersOf path⟩
  · rintro ⟨path, writers, rfl, hcontested, hfirst, hmem, hwriters⟩
    cases hfound : mountFault t with
    | none =>
      exact absurd hcontested (mountsExclusive_iff.1 (mountFault_eq_none_iff.1 hfound) path)
    | some fault =>
      obtain ⟨path', rfl, hcontested', hfirst'⟩ := contested_of_mountFault hfound
      have hplace := Nat.le_antisymm (hfirst path' hcontested') (hfirst' path hcontested)
      obtain rfl := eq_of_firstMount_eq hcontested hcontested' hplace
      rw [eq_writersOf hmem hwriters]

/-- Two paths with two writers each. The second one has its writers before the first one
has both, and one mount is repeated. -/
def shelf : Topology where
  vertices := []
  links :=
    [⟨"api", "disk", .mountsVolume "/data" false⟩, ⟨"web", "logs", .mountsVolume "/log" false⟩,
      ⟨"job", "logs", .mountsVolume "/log" false⟩, ⟨"api", "spare", .mountsVolume "/data" false⟩,
      ⟨"cat", "disk", .mountsVolume "/data" true⟩, ⟨"job", "disk", .mountsVolume "/data" false⟩]
  nodup_ids := by decide

/-- The shelf without the repeated mount. -/
def tidyShelf : Topology where
  vertices := []
  links := shelf.links.take 3 ++ shelf.links.drop 4
  nodup_ids := by decide

theorem mountFault_shelf :
    mountFault shelf = some (.storageConflict "/data" ["api", "job"]) ∧
      shelf.Contested "/log" ∧ shelf.firstMount "/data" ≤ shelf.firstMount "/log" ∧
      mountFault tidyShelf = mountFault shelf := by
  have hfault : mountFault shelf = some (.storageConflict "/data" ["api", "job"]) := by decide
  have hlog : shelf.Contested "/log" :=
    ⟨⟨"web", "logs", .mountsVolume "/log" false⟩, by decide,
      ⟨"job", "logs", .mountsVolume "/log" false⟩, by decide, rfl, rfl, by decide⟩
  obtain ⟨-, hreported, hrepeated⟩ := mountFault_exact shelf
  obtain ⟨path, writers, heq, -, hfirst, -⟩ := (hreported _).1 hfault
  obtain ⟨rfl, -⟩ := Fault.storageConflict.inj heq
  refine ⟨hfault, hlog, hfirst "/log" hlog,
    hrepeated tidyShelf (shelf.links.take 3) (shelf.links.drop 4)
      ⟨"api", "spare", .mountsVolume "/data" false⟩ rfl rfl (.inr ?_)⟩
  exact ⟨⟨"api", "disk", .mountsVolume "/data" false⟩, by decide, rfl, rfl⟩

end Validation
end Rollout
