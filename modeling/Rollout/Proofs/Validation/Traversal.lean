import Mathlib.Data.Finset.Basic
import Mathlib.Data.List.Dedup
import Mathlib.Data.List.TakeWhile
import Rollout.Proofs.Validation.Descent

/-
The search for cycles with its collections kept one by one: the visited nodes, the nodes on
the stack, the path and the frames, each frame with all the edges of its node and the number
of those it has scanned. The collections stay in step with each other and with the search,
which has the frames alone. A record of what the search did shows that it enters no node
twice and scans no edge twice, so it ends, and that without a cycle it has entered every node.
-/
namespace Rollout
namespace Cycle

/-- A node under way with all its edges and the number of those that were scanned. -/
structure Cursor where
  id : String
  edges : List Link
  next : Nat

structure Traversal where
  /-- The nodes the traversal has not started from yet. -/
  roots : List String
  visited : Finset String
  onStack : Finset String
  /-- The nodes under way, from the root inwards. -/
  path : List String
  /-- The nodes under way, the innermost first. -/
  frames : List Cursor
  /-- The node of every entry so far, the last one first. -/
  entries : List String
  /-- Every scan so far, the last one first: the node that the edge leaves, and the place of
  the edge among those that leave it. -/
  scans : List (String × Nat)

namespace Traversal

def start (t : Topology) : Traversal := ⟨t.ids, ∅, ∅, [], [], [], []⟩

def enter (t : Topology) (s : Traversal) (id : String) : Traversal :=
  { s with
    visited := insert id s.visited
    onStack := insert id s.onStack
    path := s.path ++ [id]
    frames := ⟨id, t.edgesFrom id, 0⟩ :: s.frames
    entries := id :: s.entries }

/-- Leaves the innermost node. -/
def leave (s : Traversal) (c : Cursor) (outer : List Cursor) : Traversal :=
  { s with
    frames := outer
    onStack := s.onStack.erase c.id
    path := s.path.dropLast }

/-- Scans the next edge of the innermost node. -/
def scan (s : Traversal) (c : Cursor) (outer : List Cursor) : Traversal :=
  { s with
    frames := { c with next := c.next + 1 } :: outer
    scans := (c.id, c.next) :: s.scans }

end Traversal

/-- What a turn of the traversal leads to. -/
inductive Turn where
  | next (s : Traversal)
  | found (cycle : List String)
  | finished

/-- One turn. Each collection is asked for what it is kept for: the stack for an edge back to
the path, the visited nodes for an edge to a node that needs no second entry, and the path
for the cycle. -/
def turn (t : Topology) (s : Traversal) : Turn :=
  match s.frames with
  | [] =>
    match s.roots with
    | [] => .finished
    | root :: roots =>
      let s' := { s with roots }
      .next (if root ∈ s.visited then s' else s'.enter t root)
  | c :: outer =>
    match c.edges[c.next]? with
    | none => .next (s.leave c outer)
    | some l =>
      if follows t l = true then
        if l.target ∈ s.onStack then
          .found (s.path.drop (s.path.idxOf l.target) ++ [l.target])
        else if l.target ∈ s.visited then .next (s.scan c outer)
        else .next ((s.scan c outer).enter t l.target)
      else .next (s.scan c outer)

/-- The states that the traversal comes to, with the number of turns before each. -/
inductive Reached (t : Topology) : Nat → Traversal → Prop where
  | start : Reached t 0 (.start t)
  | next {n : Nat} {s s' : Traversal} (h : Reached t n s) (hturn : turn t s = .next s') :
      Reached t (n + 1) s'

/-! ## The search behind a traversal -/

def Cursor.frame (c : Cursor) : Frame := ⟨c.id, c.edges.drop c.next⟩

def Traversal.search (s : Traversal) : Search := ⟨s.roots, s.entries, s.frames.map Cursor.frame⟩

def Turn.progress : Turn → Progress
  | .next s => .next s.search
  | .found cycle => .found cycle
  | .finished => .finished

theorem map_id_frames (cs : List Cursor) : (cs.map Cursor.frame).map Frame.id = cs.map Cursor.id := by
  simp [Cursor.frame]

/-- The collections say the same about the nodes visited and under way. -/
structure Synchronised (t : Topology) (s : Traversal) : Prop where
  visited_eq : s.visited = s.entries.toFinset
  onStack_eq : s.onStack = s.path.toFinset
  path_eq : s.path = (s.frames.map Cursor.id).reverse
  edges_eq : ∀ c ∈ s.frames, c.edges = t.edgesFrom c.id

section Turns

variable {t : Topology} {s s' : Traversal} {c : Cursor} {outer : List Cursor} {l : Link}

theorem Synchronised.mem_visited (h : Synchronised t s) {id : String} :
    id ∈ s.visited ↔ id ∈ s.entries := by
  rw [h.visited_eq, List.mem_toFinset]

theorem Synchronised.mem_onStack (h : Synchronised t s) {id : String} :
    id ∈ s.onStack ↔ id ∈ s.frames.map Cursor.id := by
  rw [h.onStack_eq, List.mem_toFinset, h.path_eq, List.mem_reverse]

theorem frame_of_none (h : c.edges[c.next]? = none) : c.frame = ⟨c.id, []⟩ := by
  rw [Cursor.frame, List.drop_eq_nil_iff.2 (List.getElem?_eq_none_iff.1 h)]

theorem frame_of_some (h : c.edges[c.next]? = some l) :
    c.frame = ⟨c.id, l :: c.edges.drop (c.next + 1)⟩ := by
  obtain ⟨hlt, rfl⟩ := List.getElem?_eq_some_iff.1 h
  rw [Cursor.frame, List.drop_eq_getElem_cons hlt]

theorem drop_idxOf {xs : List String} {x : String} :
    xs.drop (xs.idxOf x) = xs.dropWhile (· != x) := by
  induction xs with
  | nil => rfl
  | cons y ys ih =>
    by_cases hy : y = x
    · subst hy
      simp
    · rw [List.idxOf_cons_ne _ hy, List.drop_succ_cons, ih,
        List.dropWhile_cons_of_pos (by simp [hy])]

/-- A turn of the traversal is a step of the search. -/
theorem Synchronised.progress_turn (h : Synchronised t s) :
    (turn t s).progress = step t s.search := by
  obtain ⟨roots, visited, onStack, path, frames, entries, scans⟩ := s
  have hvisited : ∀ id, id ∈ visited ↔ id ∈ entries := fun id => h.mem_visited
  have hstack : ∀ id, id ∈ onStack ↔ id ∈ frames.map Cursor.id := fun id => h.mem_onStack
  cases frames with
  | nil =>
    cases roots with
    | nil => rfl
    | cons root roots =>
      by_cases hroot : root ∈ entries
      · simp only [turn, if_pos ((hvisited root).2 hroot)]
        exact (step_dropRoot hroot).symm
      · simp only [turn, if_neg (mt (hvisited root).1 hroot)]
        exact (step_root hroot).symm
  | cons c outer =>
    have hids : ∀ id, id ∈ onStack ↔ id ∈ c.id :: (outer.map Cursor.frame).map Frame.id := by
      intro id
      rw [hstack, map_id_frames, List.map_cons]
    cases hlook : c.edges[c.next]? with
    | none =>
      simp only [turn, hlook, Turn.progress, Traversal.search, Traversal.leave, List.map_cons,
        frame_of_none hlook]
      rfl
    | some l =>
      simp only [turn, hlook, Traversal.search, List.map_cons, frame_of_some hlook]
      by_cases hfollows : follows t l = true
      · rw [if_pos hfollows]
        by_cases hpath : l.target ∈ onStack
        · have hwhole : path = (c.id :: (outer.map Cursor.frame).map Frame.id).reverse := by
            rw [map_id_frames]
            exact h.path_eq
          rw [if_pos hpath, step_close hfollows ((hids _).1 hpath), Turn.progress, drop_idxOf,
            hwhole]
        · rw [if_neg hpath]
          by_cases hentered : l.target ∈ entries
          · rw [if_pos ((hvisited _).2 hentered),
              step_pass hfollows (mt (hids _).2 hpath) hentered]
            rfl
          · rw [if_neg (mt (hvisited _).1 hentered),
              step_enter hfollows (mt (hids _).2 hpath) hentered]
            rfl
      · rw [if_neg hfollows, step_skip hfollows]
        rfl

/-! ## What a turn does -/

/-- The ways in which the traversal goes on. -/
inductive Moves (t : Topology) (s : Traversal) : Traversal → Prop where
  | passRoot {root : String} {roots : List String} (hframes : s.frames = [])
      (hroots : s.roots = root :: roots) : Moves t s { s with roots }
  | enterRoot {root : String} {roots : List String} (hframes : s.frames = [])
      (hroots : s.roots = root :: roots) (hnew : root ∉ s.visited) :
      Moves t s (({ s with roots } : Traversal).enter t root)
  | leave {c : Cursor} {outer : List Cursor} (hframes : s.frames = c :: outer)
      (hlook : c.edges[c.next]? = none) : Moves t s (s.leave c outer)
  | scan {c : Cursor} {outer : List Cursor} {l : Link} (hframes : s.frames = c :: outer)
      (hlook : c.edges[c.next]? = some l) : Moves t s (s.scan c outer)
  | follow {c : Cursor} {outer : List Cursor} {l : Link} (hframes : s.frames = c :: outer)
      (hlook : c.edges[c.next]? = some l) (hnew : l.target ∉ s.visited) :
      Moves t s ((s.scan c outer).enter t l.target)

theorem moves_of_turn (h : turn t s = .next s') : Moves t s s' := by
  unfold turn at h
  split at h
  case h_1 hframes =>
    split at h
    case h_1 => cases h
    case h_2 root roots hroots =>
      obtain rfl := Turn.next.inj h
      by_cases hroot : root ∈ s.visited
      · simp only [if_pos hroot]
        exact .passRoot hframes hroots
      · simp only [if_neg hroot]
        exact .enterRoot hframes hroots hroot
  case h_2 c outer hframes =>
    split at h
    case h_1 hlook =>
      obtain rfl := Turn.next.inj h
      exact .leave hframes hlook
    case h_2 l hlook =>
      split at h
      · split at h
        · cases h
        · split at h
          · obtain rfl := Turn.next.inj h
            exact .scan hframes hlook
          · rename_i hnew
            obtain rfl := Turn.next.inj h
            exact .follow hframes hlook hnew
      · obtain rfl := Turn.next.inj h
        exact .scan hframes hlook

/-! ## Collections in step -/

theorem synchronised_start (t : Topology) : Synchronised t (.start t) :=
  ⟨rfl, rfl, rfl, List.forall_mem_nil _⟩

theorem Synchronised.enter (h : Synchronised t s) (id : String) : Synchronised t (s.enter t id) := by
  refine ⟨?_, ?_, ?_, List.forall_mem_cons.2 ⟨rfl, h.edges_eq⟩⟩
  · simp only [Traversal.enter, h.visited_eq, List.toFinset_cons]
  · ext x
    simp [Traversal.enter, h.onStack_eq]
  · simp only [Traversal.enter, h.path_eq, List.map_cons, List.reverse_cons]

theorem Synchronised.leave (h : Synchronised t s) (hframes : s.frames = c :: outer)
    (hnodup : s.path.Nodup) : Synchronised t (s.leave c outer) := by
  have hpath : s.path = (outer.map Cursor.id).reverse ++ [c.id] := by
    rw [h.path_eq, hframes, List.map_cons, List.reverse_cons]
  have hinit : s.path.dropLast = (outer.map Cursor.id).reverse := by
    rw [hpath, List.dropLast_concat]
  refine ⟨h.visited_eq, ?_, hinit, fun x hx => h.edges_eq x ?_⟩
  · -- No second frame of the node is left, so its id leaves the stack for good.
    have hgone : c.id ∉ (outer.map Cursor.id).reverse := by
      rw [hpath, List.nodup_append_comm] at hnodup
      exact (List.nodup_cons.1 hnodup).1
    simp only [Traversal.leave, h.onStack_eq, hpath]
    ext x
    by_cases hx : x = c.id
    · subst hx
      simpa using hgone
    · simp [hx]
  · rw [hframes]
    exact List.mem_cons_of_mem c hx

theorem Synchronised.scan (h : Synchronised t s) (hframes : s.frames = c :: outer) :
    Synchronised t (s.scan c outer) := by
  obtain ⟨hc, houter⟩ := List.forall_mem_cons.1 (hframes ▸ h.edges_eq)
  refine ⟨h.visited_eq, h.onStack_eq, ?_, List.forall_mem_cons.2 ⟨hc, houter⟩⟩
  rw [Traversal.scan, h.path_eq, hframes]
  rfl

theorem Synchronised.move (h : Synchronised t s) (hnodup : s.path.Nodup) (hmove : Moves t s s') :
    Synchronised t s' := by
  cases hmove with
  | passRoot => exact ⟨h.visited_eq, h.onStack_eq, h.path_eq, h.edges_eq⟩
  | enterRoot =>
    refine Synchronised.enter ?_ _
    exact ⟨h.visited_eq, h.onStack_eq, h.path_eq, h.edges_eq⟩
  | leave hframes => exact h.leave hframes hnodup
  | scan hframes => exact h.scan hframes
  | follow hframes => exact (h.scan hframes).enter _

/-! ## Scans -/

/-- No edge is scanned twice, and what a frame has still to scan was not scanned. -/
structure Recorded (t : Topology) (s : Traversal) : Prop where
  nodup : s.scans.Nodup
  entered : ∀ p ∈ s.scans, p.1 ∈ s.entries ∧ p.2 < (t.edgesFrom p.1).length
  below : ∀ c ∈ s.frames, ∀ i, (c.id, i) ∈ s.scans → i < c.next

theorem recorded_start (t : Topology) : Recorded t (.start t) :=
  ⟨List.nodup_nil, List.forall_mem_nil _, List.forall_mem_nil _⟩

theorem Recorded.enter {id : String} (h : Recorded t s) (hnew : id ∉ s.entries) :
    Recorded t (s.enter t id) := by
  refine ⟨h.nodup, fun p hp => ?_, List.forall_mem_cons.2 ⟨fun i hi => ?_, h.below⟩⟩
  · exact (h.entered p hp).imp_left (List.mem_cons_of_mem id)
  · exact absurd (h.entered _ hi).1 hnew

theorem Recorded.leave (h : Recorded t s) (hframes : s.frames = c :: outer) :
    Recorded t (s.leave c outer) :=
  ⟨h.nodup, h.entered, (List.forall_mem_cons.1 (hframes ▸ h.below)).2⟩

theorem Recorded.scan (h : Recorded t s) (hframes : s.frames = c :: outer)
    (hnodup : (s.frames.map Cursor.id).Nodup) (hentered : c.id ∈ s.entries)
    (hlook : (t.edgesFrom c.id)[c.next]? = some l) : Recorded t (s.scan c outer) := by
  obtain ⟨hlt, -⟩ := List.getElem?_eq_some_iff.1 hlook
  obtain ⟨hc, houter⟩ := List.forall_mem_cons.1 (hframes ▸ h.below)
  rw [hframes, List.map_cons, List.nodup_cons] at hnodup
  refine ⟨List.nodup_cons.2 ⟨fun hin => ?_, h.nodup⟩,
    List.forall_mem_cons.2 ⟨⟨hentered, hlt⟩, h.entered⟩,
    List.forall_mem_cons.2 ⟨fun i hi => ?_, fun x hx i hi => ?_⟩⟩
  · exact Nat.lt_irrefl _ (hc _ hin)
  · rcases List.mem_cons.1 hi with heq | hi
    · have hi' : i = c.next := congrArg Prod.snd heq
      show i < c.next + 1
      omega
    · have hlt' := hc i hi
      show i < c.next + 1
      omega
  · rcases List.mem_cons.1 hi with heq | hi
    · have hid : x.id = c.id := congrArg Prod.fst heq
      exact absurd (hid ▸ List.mem_map_of_mem hx) hnodup.1
    · exact houter x hx i hi

end Turns

/-! ## States that are reached -/

structure Kept (t : Topology) (s : Traversal) : Prop where
  sound : Sound t s.search
  synchronised : Synchronised t s
  recorded : Recorded t s

section Kept

variable {t : Topology} {s s' : Traversal} {n : Nat}

theorem Kept.frames_nodup (h : Kept t s) : (s.frames.map Cursor.id).Nodup := by
  have hnodup := h.sound.walk.path_nodup
  rwa [Traversal.search, map_id_frames] at hnodup

theorem Kept.path_nodup (h : Kept t s) : s.path.Nodup := by
  rw [h.synchronised.path_eq, List.nodup_reverse]
  exact h.frames_nodup

theorem Kept.mem_path_iff (h : Kept t s) {id : String} :
    id ∈ s.path ↔ id ∈ s.search.frames.map Frame.id := by
  rw [h.synchronised.path_eq, List.mem_reverse, Traversal.search, map_id_frames]

/-- Nodes under way are entered. -/
theorem Kept.entered_of_frame (h : Kept t s) {c : Cursor} (hc : c ∈ s.frames) :
    c.id ∈ s.entries := by
  refine h.sound.walk.path_entered c.id ?_
  rw [Traversal.search, map_id_frames]
  exact List.mem_map_of_mem hc

theorem Kept.recorded_move (h : Kept t s) (hmove : Moves t s s') : Recorded t s' := by
  have hscan : ∀ {c outer l}, s.frames = c :: outer → c.edges[c.next]? = some l →
      Recorded t (s.scan c outer) := by
    intro c outer l hframes hlook
    have hc : c ∈ s.frames := hframes ▸ List.mem_cons_self
    rw [h.synchronised.edges_eq c hc] at hlook
    exact h.recorded.scan hframes h.frames_nodup (h.entered_of_frame hc) hlook
  cases hmove with
  | passRoot => exact ⟨h.recorded.nodup, h.recorded.entered, h.recorded.below⟩
  | enterRoot _ _ hnew =>
    refine Recorded.enter ?_ (mt h.synchronised.mem_visited.2 hnew)
    exact ⟨h.recorded.nodup, h.recorded.entered, h.recorded.below⟩
  | leave hframes => exact h.recorded.leave hframes
  | scan hframes hlook => exact hscan hframes hlook
  | follow hframes hlook hnew =>
    exact (hscan hframes hlook).enter (mt h.synchronised.mem_visited.2 hnew)

theorem Kept.step_of_turn (h : Kept t s) (hturn : turn t s = .next s') :
    step t s.search = .next s'.search := by
  rw [← h.synchronised.progress_turn, hturn, Turn.progress]

theorem Kept.next (h : Kept t s) (hturn : turn t s = .next s') : Kept t s' :=
  have hmove := moves_of_turn hturn
  ⟨(next_of_step h.sound (h.step_of_turn hturn)).1, h.synchronised.move h.path_nodup hmove,
    h.recorded_move hmove⟩

theorem Reached.kept (h : Reached t n s) : Kept t s := by
  induction h with
  | start => exact ⟨sound_start t, synchronised_start t, recorded_start t⟩
  | next _ hturn ih => exact ih.next hturn

theorem Kept.visited_iff (h : Kept t s) {id : String} : id ∈ s.visited ↔ id ∈ s.search.entered :=
  h.synchronised.mem_visited

theorem Settled.of_mem {entered : List String} {frames : List Frame} (h : Settled t entered frames)
    {f : Frame} (hf : f ∈ frames) :
    ∃ looked, t.edgesFrom f.id = looked ++ f.rest ∧
      ∀ l ∈ looked, follows t l = true → l.target ∈ entered := by
  induction frames with
  | nil => cases hf
  | cons g outer ih =>
    obtain ⟨⟨looked, heq, hlooked⟩, houter⟩ := h
    rcases List.mem_cons.1 hf with rfl | hf
    · exact ⟨looked, heq, fun l hl hl' => (hlooked l hl hl').1⟩
    · exact ih houter hf

/-- The targets that a frame has come by are visited. -/
theorem Kept.scanned (h : Kept t s) {c : Cursor} (hc : c ∈ s.frames) :
    ∀ l ∈ c.edges.take c.next, follows t l = true → l.target ∈ s.visited := by
  obtain ⟨looked, heq, hlooked⟩ := h.sound.settled.of_mem (List.mem_map_of_mem hc)
  have htake : c.edges.take c.next = looked := by
    refine List.append_cancel_right ((List.take_append_drop c.next c.edges).trans ?_)
    exact (h.synchronised.edges_eq c hc).trans heq
  intro l hl hfollows
  exact h.visited_iff.2 (hlooked l (htake ▸ hl) hfollows)

/-- There are no more scans than edges. -/
theorem Kept.length_scans_le (h : Kept t s) : s.scans.length ≤ t.links.length := by
  have hsub : s.scans ⊆ t.ids.flatMap fun id =>
      (List.range (t.edgesFrom id).length).map fun i => (id, i) := by
    rintro ⟨id, i⟩ hp
    obtain ⟨hentered, hlt⟩ := h.recorded.entered _ hp
    refine List.mem_flatMap.2 ⟨id, h.sound.walk.entered_mem id hentered, ?_⟩
    exact List.mem_map.2 ⟨i, List.mem_range.2 hlt, rfl⟩
  have hlength := (List.subperm_of_subset h.recorded.nodup hsub).length_le
  have hsum := sum_edgesFrom_le (show t.ids.Nodup from t.nodup_ids) t.links
  simp only [List.length_flatMap, List.length_map, List.length_range, Topology.edgesFrom_eq]
    at hlength
  rw [List.sum_map_add] at hsum
  simp only [List.map_const', List.sum_replicate_nat, Nat.mul_one] at hsum
  omega

end Kept

/-! ## The whole traversal -/

/-- What holds whenever the traversal takes a turn. -/
structure InStep (t : Topology) (s : Traversal) : Prop where
  path_eq : s.path = (s.frames.map Cursor.id).reverse
  path_nodup : s.path.Nodup
  onStack_eq : s.onStack = s.path.toFinset
  path_visited : ∀ id ∈ s.path, id ∈ s.visited
  joined : s.path.IsChain t.Waits
  closed : ∀ id ∈ s.visited, id ∉ s.path → ∀ l ∈ t.edgesFrom id, follows t l = true →
    l.target ∈ s.visited ∧ l.target ∉ s.path
  scanned : ∀ c ∈ s.frames, c.edges = t.edgesFrom c.id ∧
    ∀ l ∈ c.edges.take c.next, follows t l = true → l.target ∈ s.visited
  visited_eq : s.visited = s.entries.toFinset
  entries_nodup : s.entries.Nodup
  entries_mem : ∀ id ∈ s.entries, id ∈ t.ids
  scans_nodup : s.scans.Nodup
  scans_mem : ∀ p ∈ s.scans, p.2 < (t.edgesFrom p.1).length
  scans_le : s.scans.length ≤ t.links.length

theorem Kept.inStep {t : Topology} {s : Traversal} (h : Kept t s) : InStep t s where
  path_eq := h.synchronised.path_eq
  path_nodup := h.path_nodup
  onStack_eq := h.synchronised.onStack_eq
  path_visited := fun id hid => h.visited_iff.2 (h.sound.walk.path_entered id (h.mem_path_iff.1 hid))
  joined := by
    have hjoined := h.sound.walk.joined
    rw [Traversal.search, map_id_frames] at hjoined
    rw [h.synchronised.path_eq]
    exact List.isChain_reverse.2 hjoined
  closed := by
    intro id hid hpath l hl hfollows
    have hentered := h.visited_iff.1 hid
    have hwaits := waits_of_follows (h.sound.walk.entered_mem id hentered) hl hfollows
    obtain ⟨hin, hoff⟩ := h.sound.walk.closed id hentered (mt h.mem_path_iff.2 hpath) _ hwaits
    exact ⟨h.visited_iff.2 hin, mt h.mem_path_iff.1 hoff⟩
  scanned := fun c hc => ⟨h.synchronised.edges_eq c hc, h.scanned hc⟩
  visited_eq := h.synchronised.visited_eq
  entries_nodup := h.sound.walk.entered_nodup
  entries_mem := h.sound.walk.entered_mem
  scans_nodup := h.recorded.nodup
  scans_mem := fun p hp => (h.recorded.entered p hp).2
  scans_le := h.length_scans_le

/-- From every state the traversal comes to an end, and with it to what the search comes to. -/
theorem Reached.exists_end {t : Topology} {n : Nat} {s : Traversal} (h : Reached t n s) :
    ∃ m s', m ≤ n + remaining t s.search ∧ Reached t m s' ∧
      outcome t s.search = outcome t s'.search ∧
      (turn t s' = .finished ∨ ∃ cycle, turn t s' = .found cycle) := by
  generalize hk : remaining t s.search = k
  induction k using Nat.strong_induction_on generalizing n s with
  | _ k ih =>
    cases hturn : turn t s with
    | finished => exact ⟨n, s, by omega, h, rfl, .inl hturn⟩
    | found cycle => exact ⟨n, s, by omega, h, rfl, .inr ⟨cycle, hturn⟩⟩
    | next s' =>
      have hstep := h.kept.step_of_turn hturn
      cases hstep ▸ advances_step h.kept.sound with
      | next _ hlt =>
        obtain ⟨m, s'', hm, hreached, houtcome, hend⟩ := ih _ (hk ▸ hlt) (h.next hturn) rfl
        exact ⟨m, s'', by omega, hreached,
          (next_of_step h.kept.sound hstep).2.trans houtcome, hend⟩

theorem roots_eq_nil_of_finished {t : Topology} {s : Traversal} (h : turn t s = .finished) :
    s.roots = [] := by
  unfold turn at h
  split at h
  · split at h
    · assumption
    · cases h
  · repeat' split at h
    all_goals cases h

/-- A traversal that has no roots and no frames left has entered every node once. -/
theorem Kept.entries_perm {t : Topology} {s : Traversal} (h : Kept t s)
    (hturn : turn t s = .finished) : s.entries.Perm t.ids := by
  refine (List.perm_ext_iff_of_nodup h.sound.walk.entered_nodup t.nodup_ids).2 fun id => ?_
  refine ⟨h.sound.walk.entered_mem id, fun hid => ?_⟩
  refine (h.sound.walk.cover id hid).resolve_right fun hroot => ?_
  rw [Traversal.search, roots_eq_nil_of_finished hturn] at hroot
  exact List.not_mem_nil hroot

/-- The collections are in step at every turn, and each turn is a step of the search. The
traversal ends within the steps the search has, with the cycle that the check reports, or
without one and with every node entered once. -/
theorem collections_in_step (t : Topology) :
    (∀ n s, Reached t n s → InStep t s ∧ (turn t s).progress = step t s.search) ∧
    ∃ n s, n < stepBound t ∧ Reached t n s ∧
      ((turn t s = .finished ∧ Validation.cycleFault t = none ∧ s.entries.Perm t.ids) ∨
        ∃ cycle, turn t s = .found cycle ∧
          Validation.cycleFault t =
            some (.cyclicDependency (String.intercalate " -> " cycle) cycle)) := by
  refine ⟨fun n s h => ⟨h.kept.inStep, h.kept.synchronised.progress_turn⟩, ?_⟩
  obtain ⟨n, s, hn, hreached, houtcome, hend⟩ := (Reached.start (t := t)).exists_end
  have hfind : find? t = outcome t s.search := (find?_eq_outcome t).trans houtcome
  have hbound := remaining_start_lt t
  rw [Nat.zero_add] at hn
  refine ⟨n, s, Nat.lt_of_le_of_lt hn hbound, hreached, ?_⟩
  have hprogress := hreached.kept.synchronised.progress_turn
  rcases hend with hturn | ⟨cycle, hturn⟩
  · rw [hturn] at hprogress
    have hnone := hfind.trans (outcome_of_finished hprogress.symm)
    exact .inl ⟨hturn, by rw [Validation.cycleFault, hnone]; rfl, hreached.kept.entries_perm hturn⟩
  · rw [hturn] at hprogress
    have hsome := hfind.trans (outcome_of_found hprogress.symm)
    exact .inr ⟨cycle, hturn, by rw [Validation.cycleFault, hsome]; rfl⟩

/-- Two ways lead to the store, one of them twice, and edges that nothing waits for lead back
and out. -/
def diamond : Topology where
  vertices := ["web", "api", "auth", "db"].map fun id => ⟨id, .agent ⟨id, [], [], none, .empty⟩⟩
  links :=
    [⟨"web", "api", .dependsOn true none⟩, ⟨"web", "auth", .dependsOn true none⟩,
      ⟨"api", "db", .dependsOn true none⟩, ⟨"api", "db", .dependsOn true none⟩,
      ⟨"auth", "db", .dependsOn true none⟩, ⟨"db", "web", .dependsOn false none⟩,
      ⟨"db", "vault", .dependsOn true none⟩]
  nodup_ids := by decide

theorem collections_in_step_diamond :
    Validation.cycleFault diamond = none ∧ ∃ n s, n < 16 ∧ Reached diamond n s ∧
      InStep diamond s ∧ turn diamond s = .finished ∧
      s.entries.Perm ["web", "api", "auth", "db"] := by
  have hfault : Validation.cycleFault diamond = none := by decide +kernel
  obtain ⟨hall, n, s, hn, hreached, hend⟩ := collections_in_step diamond
  refine ⟨hfault, n, s, hn, hreached, (hall n s hreached).1, ?_⟩
  rcases hend with ⟨hturn, -, hperm⟩ | ⟨cycle, -, hsome⟩
  · exact ⟨hturn, hperm⟩
  · rw [hfault] at hsome
    cases hsome

end Cycle
end Rollout
