import Rollout.CommandLine.Run
import Rollout.Proofs.Plan.Document

/-
What answers say. As a JSON text an answer reads back to a document of what is answered, and the
document of a plan is one that says the plan. For people an answer is a verdict, the ids of an
order with their places, or the sections of a plan, in which every entry is a line of words.
-/
namespace Rollout
namespace CommandLine

/-- What can be answered. -/
inductive Answer where
  | deployable
  | order (ids : List String)
  | plan (p : Plan)

/-- A document says an answer. -/
def Answer.Document (a : Arguments) : Answer → Json → Prop
  | .deployable, v => v = .object [("file", .text a.file), ("ok", .bool true)]
  | .order ids, v => v = .object [("file", .text a.file), ("order", .texts ids)]
  | .plan p, v => Plan.ofDocument? v = some p

/-! ## Words -/

def portWord (port : Nat) : String := ":" ++ toString port

/-- A name, the port if there is one, and behind an arrow what the service waits for. -/
def serviceWords (s : PlannedService) : List String :=
  s.name :: ((s.port.map portWord).toList ++
    if s.dependencies = [] then [] else ["<-", String.intercalate ", " s.dependencies])

def databaseWords (d : PlannedDatabase) : List String :=
  [d.name, Worded.word d.engine ++ "@" ++ d.version, portWord d.port]

def agentWords (a : PlannedAgent) : List String := [a.name, "->", a.natsUrl]

def busWords (b : PlannedBus) : List String :=
  [b.name, Worded.word b.busType, "x" ++ (Number.ofNat b.clusterSize).text,
    ":" ++ String.intercalate "," (b.ports.map toString)]

def balancerWords (b : PlannedBalancer) : List String :=
  [b.name, b.strategy, "->",
    String.intercalate ", " (b.backends.map fun x => x.service ++ portWord x.port)]

def volumeWords (v : PlannedVolume) : List String :=
  [v.name, Worded.word v.storageType, v.size, "(" ++ toString v.mounts.length, "mounts)"]

def connectionWords (c : Connection) : List String :=
  [c.source, "->", c.target, Worded.word c.protocol ++ portWord c.port] ++
    if c.encrypted then ["(encrypted)"] else []

/-- Words on one line, with a blank between two of them. -/
def inline (words : List String) : String := String.intercalate " " words

theorem serviceLine_eq (s : PlannedService) : serviceLine s = inline (serviceWords s) := by
  refine String.toList_injective ?_
  unfold serviceLine serviceWords
  cases s.port <;> cases s.dependencies <;> simp [portMark, waitMark, inline, portWord]

theorem databaseLine_eq (d : PlannedDatabase) : databaseLine d = inline (databaseWords d) := by
  refine String.toList_injective ?_
  simp [databaseLine, databaseWords, inline, portWord]

theorem agentLine_eq (a : PlannedAgent) : agentLine a = inline (agentWords a) := by
  refine String.toList_injective ?_
  simp [agentLine, agentWords, inline]

theorem busLine_eq (b : PlannedBus) : busLine b = inline (busWords b) := by
  refine String.toList_injective ?_
  simp [busLine, busWords, inline]

theorem balancerLine_eq (b : PlannedBalancer) : balancerLine b = inline (balancerWords b) := by
  refine String.toList_injective ?_
  simp [balancerLine, balancerWords, inline, portWord, Function.comp_def]

theorem volumeLine_eq (v : PlannedVolume) : volumeLine v = inline (volumeWords v) := by
  refine String.toList_injective ?_
  simp [volumeLine, volumeWords, inline]

theorem connectionLine_eq (c : Connection) : connectionLine c = inline (connectionWords c) := by
  refine String.toList_injective ?_
  unfold connectionLine connectionWords
  cases c.encrypted <;> simp [inline, portWord]

/-! ## Lines -/

/-- The lines of an order that is not empty: a heading, and every id with its place, counted
from one. -/
structure OrderLines (ids lines : List String) : Prop where
  heading : lines.head? = some "Deployment order:"
  length : lines.length = ids.length + 1
  entry : ∀ i id, ids[i]? = some id →
    lines[i + 1]? = some ("  " ++ toString (i + 1) ++ ". " ++ id)

/-- A section of a plan: its title, and the words of its entries. -/
structure Section where
  title : String
  entries : List (List String)

/-- A heading with the number of the entries, and the entries, indented. -/
def Section.lines (s : Section) : List String :=
  ("# " ++ s.title ++ " (" ++ toString s.entries.length ++ ")") ::
    s.entries.map fun words => "  " ++ inline words

def sections (p : Plan) : List Section :=
  [⟨"services", p.services.map serviceWords⟩,
    ⟨"databases", p.databases.map databaseWords⟩,
    ⟨"agents", p.agents.map agentWords⟩,
    ⟨"message buses", p.messageBuses.map busWords⟩,
    ⟨"load balancers", p.loadBalancers.map balancerWords⟩,
    ⟨"storage volumes", p.storageVolumes.map volumeWords⟩,
    ⟨"connections", p.network.connections.map connectionWords⟩]

/-- The lines in which people read an answer. -/
def Answer.Lines : Answer → List String → Prop
  | .deployable, lines => lines = ["Topology is deployable"]
  | .order [], lines => lines = ["Deployment order: (empty topology)"]
  | .order ids, lines => OrderLines ids lines
  | .plan p, lines => lines = (sections p).flatMap Section.lines

theorem getElem?_numbered (start i : Nat) (ids : List String) :
    (numbered start ids)[i]? = ids[i]?.map fun id => "  " ++ toString (start + i) ++ ". " ++ id := by
  induction ids generalizing start i with
  | nil => rfl
  | cons id rest ih =>
    cases i with
    | zero => rfl
    | succ i =>
      rw [numbered, List.getElem?_cons_succ, ih, List.getElem?_cons_succ, Nat.succ_add_eq_add_succ]

theorem length_numbered (start : Nat) (ids : List String) :
    (numbered start ids).length = ids.length := by
  induction ids generalizing start with
  | nil => rfl
  | cons id rest ih => rw [numbered, List.length_cons, ih, List.length_cons]

theorem orderLines_numbered (ids : List String) :
    OrderLines ids ("Deployment order:" :: numbered 1 ids) where
  heading := rfl
  length := by rw [List.length_cons, length_numbered]
  entry := by
    intro i id hid
    rw [List.getElem?_cons_succ, getElem?_numbered, hid, Nat.add_comm]
    rfl

theorem titled_map_eq {α : Type} (title : String) (items : List α) {line : α → String}
    {words : α → List String} (h : ∀ x, line x = inline (words x)) :
    titled title (items.map line) = (Section.mk title (items.map words)).lines := by
  simp only [titled, Section.lines, List.length_map, List.map_map]
  congr 2
  funext x
  exact congrArg ("  " ++ ·) (h x)

theorem planText_eq (p : Plan) :
    planText p = String.intercalate "\n" ((sections p).flatMap Section.lines) := by
  simp only [planText, lines, sections, List.flatMap_cons, List.flatMap_nil, List.append_nil,
    titled_map_eq _ _ serviceLine_eq, titled_map_eq _ _ databaseLine_eq,
    titled_map_eq _ _ agentLine_eq, titled_map_eq _ _ busLine_eq,
    titled_map_eq _ _ balancerLine_eq, titled_map_eq _ _ volumeLine_eq,
    titled_map_eq _ _ connectionLine_eq, List.append_assoc]

/-! ## Texts -/

/-- A text says what is answered, in the format that is asked for. What is read back from a JSON
text is what texts can denote of the document: null stands for a number that is not finite. -/
def Says (a : Arguments) (text : String) (answer : Answer) : Prop :=
  match a.format with
  | .json => ∃ v, answer.Document a v ∧ Json.read? text = some v.written
  | .text => ∃ lines, answer.Lines lines ∧ text = String.intercalate "\n" lines

/-- The text of an answer, as it is put out. -/
def Answer.text (a : Arguments) : Answer → String
  | .deployable => validAnswer a
  | .order ids => orderAnswer a ids
  | .plan p => planAnswer a p

theorem says_deployable (a : Arguments) : Says a (validAnswer a) .deployable := by
  have hkeys : ["file", "ok"].Pairwise Record.Precedes := by decide
  have hlegal : (Json.object [("file", .text a.file), ("ok", .bool true)]).Legal := by
    refine .object hkeys ?_
    simp only [List.forall_mem_cons]
    exact ⟨.text _, .bool _, List.forall_mem_nil _⟩
  unfold Says validAnswer
  cases a.format with
  | text => exact ⟨_, rfl, String.intercalate_singleton.symm⟩
  | json => exact ⟨_, rfl, Json.read?_pretty hlegal⟩

theorem says_order (a : Arguments) (ids : List String) :
    Says a (orderAnswer a ids) (.order ids) := by
  have hkeys : ["file", "order"].Pairwise Record.Precedes := by decide
  have hlegal : (Json.object [("file", .text a.file), ("order", .texts ids)]).Legal := by
    refine .object hkeys ?_
    simp only [List.forall_mem_cons]
    exact ⟨.text _, Json.legal_texts ids, List.forall_mem_nil _⟩
  unfold Says orderAnswer
  cases a.format with
  | text =>
    cases ids with
    | nil => exact ⟨_, rfl, String.intercalate_singleton.symm⟩
    | cons id rest => exact ⟨_, orderLines_numbered (id :: rest), rfl⟩
  | json => exact ⟨_, rfl, Json.read?_pretty hlegal⟩

theorem says_plan (a : Arguments) {p : Plan} (h : p.toJson.Legal) :
    Says a (planAnswer a p) (.plan p) := by
  unfold Says planAnswer
  cases a.format with
  | text => exact ⟨_, rfl, planText_eq p⟩
  | json => exact ⟨_, Plan.ofDocument?_toJson p, Json.read?_pretty h⟩

end CommandLine
end Rollout
