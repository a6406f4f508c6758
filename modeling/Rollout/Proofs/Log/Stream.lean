import Rollout.Proofs.Catalog.Words
import Rollout.Proofs.Json.RoundTrip
import Rollout.Proofs.Log.Line
import Rollout.Proofs.Log.Places

/-
The text that a logger writes, over runs of calls. A call whose level reaches the threshold
adds one line and one notice and any other call adds nothing, so the line breaks of the text
are the ends of its lines: cut there, it falls into the entries that were passed on, in the
order of the calls, and each piece is read back as the entry it was written for.
-/
namespace Rollout

/-! ## Redacted payloads -/

namespace Log

/-- A value under a key as redaction leaves it. -/
def redactMember (m : String × Json) : Json :=
  if isSensitive m.1 then .text redactionMark else redact m.2

theorem redactMembers_eq_map (members : List (String × Json)) :
    redactMembers members = (members.filter fun m => decide (m.1 ≠ Record.droppedKey)).map
      fun m => (m.1, redactMember m) := by
  induction members with
  | nil => rfl
  | cons m rest ih =>
    by_cases hdropped : m.1 = Record.droppedKey
    · simp [redactMembers, hdropped, ih]
    · by_cases hkey : isSensitive m.1 = true
      · simp [redactMembers, hdropped, hkey, ih, redactMember]
      · simp [redactMembers, hdropped, hkey, ih, redactMember]

end Log

namespace Json

open Log

variable {v : Json}

theorem Legal.redact (h : v.Legal) : (redact v).Legal := by
  induction h with
  | null => exact .null
  | bool b => exact .bool b
  | number h => exact .number h
  | text s => exact .text s
  | array h ih =>
    rw [Log.redact, redactItems_eq_map]
    exact .array (List.forall_mem_map.2 ih)
  | object hkeys h ih =>
    rw [Log.redact, redactMembers_eq_map]
    refine .object ((Record.canonical_map_iff _).2 (hkeys.filter _)) ?_
    refine List.forall_mem_map.2 fun m hm => ?_
    show (redactMember m).Legal
    unfold redactMember
    split
    · exact .text _
    · exact ih m (List.mem_of_mem_filter hm)
  | @foreign sort shown h hbytes ih =>
    cases sort with
    | bytes values => exact legal_byteMembers (hbytes values rfl)
    | mark => exact .foreign h hbytes
    | _ => exact .object List.Pairwise.nil (List.forall_mem_nil _)

theorem Lossless.redact (h : v.Lossless) : (redact v).Lossless := by
  induction h with
  | null => exact .null
  | bool b => exact .bool b
  | number h => exact .number h
  | text s => exact .text s
  | array h ih =>
    rw [Log.redact, redactItems_eq_map]
    exact .array (List.forall_mem_map.2 ih)
  | object h ih =>
    rw [Log.redact, redactMembers_eq_map]
    refine .object (List.forall_mem_map.2 fun m hm => ?_)
    show (redactMember m).Lossless
    unfold redactMember
    split
    · exact .text _
    · exact ih m (List.mem_of_mem_filter hm)

end Json

namespace Log

instance : LawfulWorded Level := ⟨fun a => by cases a <;> rfl⟩

/-! ## Calls and their lines -/

namespace Call

variable {c : Call}

/-- The document that a call is written as. -/
def document (c : Call) : Json := .object (c.entry.members c.time)

def line (c : Call) : String := c.entry.line c.time

/-- The line of a call without its end. -/
def body (c : Call) : List Char := c.document.chars

theorem toList_line (c : Call) : c.line.toList = c.body ++ ['\n'] := by
  rw [line, Entry.line, String.toList_ofList]
  rfl

theorem newline_not_mem_body (c : Call) : '\n' ∉ c.body := Json.newline_not_mem_chars _

/-- The call with what the text of its payload denotes. -/
def written (c : Call) : Call :=
  ⟨c.time, { c.entry with payload := c.entry.payload.map Json.written }⟩

def textAt? (v : Json) (key : String) : Option String :=
  match v.member? key with
  | some (.text s) => some s
  | _ => none

/-- The call that a document was written for. -/
def ofDocument? (v : Json) : Option Call :=
  (textAt? v "timestamp").bind fun time =>
    ((textAt? v "level").bind Worded.ofWord?).bind fun level =>
      (textAt? v "message").map fun message => ⟨time, level, message, v.member? "payload"⟩

/-- The call that the text of a line says, its end taken off. -/
def ofBody? (cs : List Char) : Option Call := (Json.read? (String.ofList cs)).bind ofDocument?

theorem ofDocument?_document (c : Call) : ofDocument? c.document = some c := by
  obtain ⟨time, level, message, payload⟩ := c
  have hlevel : Worded.ofWord? (Worded.word level) = some level := LawfulWorded.ofWord?_word level
  cases payload <;>
    simp [ofDocument?, textAt?, document, Entry.members, Json.member?, Record.get?, hlevel]

theorem written_document (c : Call) : c.document.written = c.written.document := by
  obtain ⟨time, level, message, payload⟩ := c
  cases payload <;> simp [document, written, Entry.members, Json.written, Json.writtenMembers]

theorem legal_document (h : ∀ p, c.entry.payload = some p → p.Legal) : c.document.Legal := by
  obtain ⟨time, level, message, payload⟩ := c
  have hkeys : ["timestamp", "level", "message", "payload"].Pairwise Record.Precedes := by decide
  refine Json.legal_object_iff.2 ⟨?_, ?_⟩
  · cases payload with
    | none => exact hkeys.sublist (List.sublist_append_left ["timestamp", "level", "message"] _)
    | some p => exact hkeys
  · simp only [Entry.members, List.forall_mem_append, List.forall_mem_cons, Option.mem_toList,
      Option.map_eq_some_iff]
    refine ⟨⟨.text _, .text _, .text _, List.forall_mem_nil _⟩, ?_⟩
    intro m hm
    obtain ⟨p, hp, rfl⟩ := hm
    exact h p hp

theorem ofBody?_body (h : ∀ p, c.entry.payload = some p → p.Legal) :
    ofBody? c.body = some c.written := by
  rw [ofBody?, body, Json.read?_chars (legal_document h), Option.bind_some, written_document,
    ofDocument?_document]

theorem ofBody?_nil : ofBody? [] = none := rfl

theorem written_eq_self (h : ∀ p, c.entry.payload = some p → p.Lossless) : c.written = c := by
  obtain ⟨time, level, message, payload⟩ := c
  cases payload with
  | none => rfl
  | some p =>
    have hp : p.written = p := (h p rfl).written_eq
    simp [written, hp]

end Call

/-! ## Runs -/

/-- All that has been written, cut at its line breaks. -/
def Journal.pieces (j : Journal) : List (List Char) := (String.join j.chunks).toList.splitOn '\n'

theorem splitOn_join_lines (cs : List Call) :
    (String.join (cs.map Call.line)).toList.splitOn '\n' = cs.map Call.body ++ [[]] := by
  induction cs with
  | nil => rfl
  | cons c rest ih =>
    rw [List.map_cons, String.join_cons, String.toList_append, Call.toList_line, List.append_assoc,
      List.singleton_append, List.splitOn_append_cons_self_of_not_mem c.newline_not_mem_body, ih]
    rfl

namespace Logger

variable {l : Logger} {c : Call} {j : Journal}

/-- Whether a call is passed on. -/
def Keeps (l : Logger) (c : Call) : Prop := l.threshold.rank ≤ c.entry.level.rank

instance (l : Logger) (c : Call) : Decidable (l.Keeps c) := inferInstanceAs (Decidable (_ ≤ _))

/-- A call as it is passed on. -/
def notice (l : Logger) (c : Call) : Call :=
  ⟨c.time, { c.entry with payload := c.entry.payload.map l.safe }⟩

def notices (l : Logger) (calls : List Call) : List Call :=
  (calls.filter fun c => decide (l.Keeps c)).map l.notice

theorem log_of_keeps (h : l.Keeps c) :
    l.log j c = ⟨j.chunks ++ [(l.notice c).line], j.notices ++ [l.notice c]⟩ := by
  have hadmits : l.threshold.admits c.entry.level = true := decide_eq_true h
  rw [log, emit, if_pos hadmits]
  rfl

theorem log_of_not_keeps (h : ¬ l.Keeps c) : l.log j c = j := by
  have hadmits : l.threshold.admits c.entry.level ≠ true :=
    fun htrue => h (of_decide_eq_true htrue)
  rw [log, emit, if_neg hadmits]

theorem logAll_eq (l : Logger) (calls : List Call) (j : Journal) :
    l.logAll j calls =
      ⟨j.chunks ++ (l.notices calls).map Call.line, j.notices ++ l.notices calls⟩ := by
  induction calls generalizing j with
  | nil => simp [logAll, notices]
  | cons c rest ih =>
    show l.logAll (l.log j c) rest = _
    rw [ih]
    by_cases h : l.Keeps c
    · simp [log_of_keeps h, notices, h]
    · simp [log_of_not_keeps h, notices, h]

theorem chunks_logAll (l : Logger) (calls : List Call) :
    (l.logAll {} calls).chunks = (l.notices calls).map Call.line := by
  simp only [logAll_eq, List.nil_append]

theorem notices_logAll (l : Logger) (calls : List Call) :
    (l.logAll {} calls).notices = l.notices calls := by
  simp only [logAll_eq, List.nil_append]

theorem pieces_logAll (l : Logger) (calls : List Call) :
    (l.logAll {} calls).pieces = (l.notices calls).map Call.body ++ [[]] := by
  rw [Journal.pieces, chunks_logAll, splitOn_join_lines]

theorem entries_logAll (l : Logger) (calls : List Call) :
    (l.logAll {} calls).notices.map Call.entry = l.emitAll (calls.map Call.entry) := by
  rw [notices_logAll]
  induction calls with
  | nil => rfl
  | cons c rest ih =>
    rw [List.map_cons, emitAll, List.filterMap_cons, ← emitAll, ← ih]
    by_cases h : l.Keeps c
    · have hadmits : l.threshold.admits c.entry.level = true := decide_eq_true h
      simp [notices, emit, hadmits, h, notice]
    · have hadmits : l.threshold.admits c.entry.level = false := decide_eq_false h
      simp [notices, emit, hadmits, h]

theorem payload_of_mem_notices {P : Json → Prop} (hredact : ∀ v, P v → P (redact v))
    {calls : List Call} (h : ∀ c ∈ calls, ∀ p, c.entry.payload = some p → P p) :
    ∀ c ∈ l.notices calls, ∀ p, c.entry.payload = some p → P p := by
  intro c hc p hp
  obtain ⟨call, hcall, rfl⟩ := List.mem_map.1 hc
  obtain ⟨given, hgiven, rfl⟩ := Option.map_eq_some_iff.1 hp
  have hholds := h call (List.mem_of_mem_filter hcall) given hgiven
  unfold safe
  split
  · exact hredact given hholds
  · exact hholds

/-- Each piece is read back as the call it was written for, and nothing behind the last line
is read. -/
theorem ofBody?_pieces {calls : List Call}
    (h : ∀ c ∈ calls, ∀ p, c.entry.payload = some p → p.Legal) :
    (l.logAll {} calls).pieces.map Call.ofBody? =
      (l.notices calls).map (fun c => some c.written) ++ [none] := by
  have hlegal := payload_of_mem_notices (P := Json.Legal) (l := l) (fun _ => Json.Legal.redact) h
  have hbodies : (l.notices calls).map (Call.ofBody? ∘ Call.body) =
      (l.notices calls).map fun c => some c.written := by
    refine List.map_congr_left fun c hc => ?_
    rw [Function.comp_apply, Call.ofBody?_body (hlegal c hc)]
  rw [pieces_logAll, List.map_append, List.map_map, hbodies, List.map_cons, List.map_nil,
    Call.ofBody?_nil]

/-- One entry is one line. Each call writes one chunk and gives one notice of what stands in it
where its level reaches the threshold, and does nothing otherwise; the only line break of a
chunk is its end; and the pieces between the line breaks of all that is written are read back
as the notices, in the order of the calls, where the payloads are values that texts can say. A
negative zero and zero are one number here, of which the text says zero, so that a payload is
read back up to the sign of its zeros. -/
theorem one_line_per_entry (l : Logger) (calls : List Call) :
    (∀ j c, l.threshold.rank ≤ c.entry.level.rank →
      l.log j c = ⟨j.chunks ++ [(l.notice c).line], j.notices ++ [l.notice c]⟩) ∧
    (∀ j c, c.entry.level.rank < l.threshold.rank → l.log j c = j) ∧
    (∀ chunk ∈ (l.logAll {} calls).chunks,
      ∃ body, chunk.toList = body ++ ['\n'] ∧ '\n' ∉ body) ∧
    (l.logAll {} calls).notices =
      (calls.filter fun c => decide (l.threshold.rank ≤ c.entry.level.rank)).map l.notice ∧
    (l.logAll {} calls).notices.map Call.entry = l.emitAll (calls.map Call.entry) ∧
    (l.logAll {} calls).chunks = (l.logAll {} calls).notices.map Call.line ∧
    (l.logAll {} calls).pieces = (l.logAll {} calls).notices.map Call.body ++ [[]] ∧
    ((∀ c ∈ calls, ∀ p, c.entry.payload = some p → p.Legal) →
      (l.logAll {} calls).pieces.map Call.ofBody? =
        (l.logAll {} calls).notices.map (fun c => some c.written) ++ [none]) ∧
    ((∀ c ∈ calls, ∀ p, c.entry.payload = some p → p.Legal ∧ p.Lossless) →
      (l.logAll {} calls).pieces.map Call.ofBody? =
        (l.logAll {} calls).notices.map some ++ [none]) := by
  refine ⟨fun _ _ h => log_of_keeps h, fun _ _ h => log_of_not_keeps (Nat.not_le.2 h), ?_,
    notices_logAll l calls, entries_logAll l calls, ?_, ?_, ?_, ?_⟩
  · intro chunk hchunk
    rw [chunks_logAll] at hchunk
    obtain ⟨c, -, rfl⟩ := List.mem_map.1 hchunk
    exact ⟨c.body, c.toList_line, c.newline_not_mem_body⟩
  · rw [chunks_logAll, notices_logAll]
  · rw [pieces_logAll, notices_logAll]
  · intro h
    rw [ofBody?_pieces h, notices_logAll]
  · intro h
    have hlossless := payload_of_mem_notices (P := Json.Lossless) (l := l)
      (fun _ => Json.Lossless.redact) fun c hc p hp => (h c hc p hp).2
    have hwritten : (l.notices calls).map (fun c => some c.written) =
        (l.notices calls).map some :=
      List.map_congr_left fun c hc => congrArg some (Call.written_eq_self (hlossless c hc))
    rw [ofBody?_pieces fun c hc p hp => (h c hc p hp).1, notices_logAll, hwritten]

/-- Calls with line breaks in a message, a key and a value, between calls that a threshold
stops. -/
def brokenCalls : List Call :=
  [⟨"00:00", .info, "ready", none⟩,
    ⟨"00:01", .warn, "skipped\n\"api\"",
      some (.object [("line\nbreak", .text "a\r\n\u0001"), ("DB_PASSWORD", .text "pass\nword")])⟩,
    ⟨"00:02", .debug, "\n", some .null⟩, ⟨"00:03", .error, "stopped", none⟩]

theorem payload_brokenCalls : ∀ c ∈ brokenCalls, ∀ p, c.entry.payload = some p →
    p.Legal ∧ p.Lossless := by
  have hpayload : (Json.object [("line\nbreak", .text "a\r\n\u0001"),
      ("DB_PASSWORD", .text "pass\nword")]).Legal := by
    have hkeys : ["line\nbreak", "DB_PASSWORD"].Pairwise Record.Precedes := by decide
    refine .object hkeys ?_
    simp only [List.forall_mem_cons]
    exact ⟨.text _, .text _, List.forall_mem_nil _⟩
  simp [brokenCalls, hpayload, Json.Legal.null]

theorem one_line_per_entry_brokenCalls :
    (∀ c ∈ brokenCalls, ∀ p, c.entry.payload = some p → p.Legal ∧ p.Lossless) ∧
    ((standard .warn).logAll {} brokenCalls).chunks.length = 2 ∧
    ((standard .warn).logAll {} brokenCalls).pieces.map Call.ofBody? =
      [some ⟨"00:01", .warn, "skipped\n\"api\"",
        some (.object [("line\nbreak", .text "a\r\n\u0001"),
          ("DB_PASSWORD", .text redactionMark)])⟩,
        some ⟨"00:03", .error, "stopped", none⟩, none] := by
  obtain ⟨-, -, -, hnotices, -, -, -, -, hread⟩ :=
    one_line_per_entry (standard .warn) brokenCalls
  refine ⟨payload_brokenCalls, by rfl, ?_⟩
  rw [hread payload_brokenCalls, hnotices]
  rfl

end Logger
end Log
end Rollout
