import Rollout.Log.Logger

/-
Redaction as a barrier. What stands under sensitive keys does not show in what a logger
passes on: two values that differ only there, however deep, are redacted to one value, so
their entries and the lines these are written as are the same.
-/
namespace Rollout
namespace Log

/-! ## Sensitive keys -/

/-- Lower-cased, the key is one of the sensitive ones or has one of the sensitive endings. -/
def Sensitive (key : String) : Prop :=
  Text.lowerCase key ∈ sensitiveKeys ∨
    ∃ ending ∈ sensitiveEndings, ending.toList <:+ (Text.lowerCase key).toList

theorem isSensitive_iff {key : String} : isSensitive key = true ↔ Sensitive key := by
  simp only [isSensitive, Sensitive, Bool.or_eq_true, List.contains_iff_mem, List.any_eq_true,
    List.isSuffixOf_iff_suffix]

instance (key : String) : Decidable (Sensitive key) := decidable_of_iff _ isSensitive_iff

/-! ## Values that differ where they are hidden -/

mutual

/-- Two values with one structure, one set of keys and the same values, those under
sensitive keys aside, which may be anything. -/
inductive Alike : Json → Json → Prop
  | null : Alike .null .null
  | bool (b : Bool) : Alike (.bool b) (.bool b)
  | number (n : Number) : Alike (.number n) (.number n)
  | text (s : String) : Alike (.text s) (.text s)
  | foreign (sort : Foreign) (shown : Json) : Alike (.foreign sort shown) (.foreign sort shown)
  | array {items items' : List Json} (h : AlikeItems items items') :
      Alike (.array items) (.array items')
  | object {members members' : List (String × Json)} (h : AlikeMembers members members') :
      Alike (.object members) (.object members')

inductive AlikeItems : List Json → List Json → Prop
  | nil : AlikeItems [] []
  | cons {v w : Json} {items items' : List Json} (hv : Alike v w) (h : AlikeItems items items') :
      AlikeItems (v :: items) (w :: items')

inductive AlikeMembers : List (String × Json) → List (String × Json) → Prop
  | nil : AlikeMembers [] []
  | hidden {key : String} (v w : Json) {members members' : List (String × Json)}
      (hkey : Sensitive key) (h : AlikeMembers members members') :
      AlikeMembers ((key, v) :: members) ((key, w) :: members')
  | shown (key : String) {v w : Json} {members members' : List (String × Json)}
      (hv : Alike v w) (h : AlikeMembers members members') :
      AlikeMembers ((key, v) :: members) ((key, w) :: members')

end

/-! ## One redaction -/

theorem redactMembers_cons_hidden {key : String} (hkey : Sensitive key) {v w : Json}
    {members members' : List (String × Json)} (h : redactMembers members = redactMembers members') :
    redactMembers ((key, v) :: members) = redactMembers ((key, w) :: members') := by
  -- Were the key the dropped one, both members would be left out.
  simp only [redactMembers, isSensitive_iff.2 hkey, if_true, h]

theorem redactMembers_cons_shown (key : String) {v w : Json} (hv : redact v = redact w)
    {members members' : List (String × Json)} (h : redactMembers members = redactMembers members') :
    redactMembers ((key, v) :: members) = redactMembers ((key, w) :: members') := by
  simp only [redactMembers, hv, h]

mutual

theorem redact_eq_of_alike : ∀ {v w : Json}, Alike v w → redact v = redact w
  | _, _, .null | _, _, .bool _ | _, _, .number _ | _, _, .text _ | _, _, .foreign .. => rfl
  | _, _, .array h => by rw [redact, redact, redactItems_eq_of_alike h]
  | _, _, .object h => by rw [redact, redact, redactMembers_eq_of_alike h]

theorem redactItems_eq_of_alike : ∀ {items items' : List Json}, AlikeItems items items' →
    redactItems items = redactItems items'
  | _, _, .nil => rfl
  | _, _, .cons hv h => by
    rw [redactItems, redactItems, redact_eq_of_alike hv, redactItems_eq_of_alike h]

theorem redactMembers_eq_of_alike : ∀ {members members' : List (String × Json)},
    AlikeMembers members members' → redactMembers members = redactMembers members'
  | _, _, .nil => rfl
  | _, _, .hidden _ _ hkey h => redactMembers_cons_hidden hkey (redactMembers_eq_of_alike h)
  | _, _, .shown key hv h =>
    redactMembers_cons_shown key (redact_eq_of_alike hv) (redactMembers_eq_of_alike h)

end

/-! ## The barrier -/

namespace Logger

/-- Payloads that differ only under sensitive keys come out as one entry, and on one line. -/
theorem emit_hides_sensitive (l : Logger) (hl : l.redacting = true) (level : Level)
    (message : String) {v w : Json} (h : Alike v w) :
    l.emit ⟨level, message, some v⟩ = l.emit ⟨level, message, some w⟩ ∧
      ∀ time, (l.emit ⟨level, message, some v⟩).map (Entry.line · time) =
        (l.emit ⟨level, message, some w⟩).map (Entry.line · time) := by
  have hemit : l.emit ⟨level, message, some v⟩ = l.emit ⟨level, message, some w⟩ := by
    simp only [emit, Option.map_some, safe, hl, if_true, redact_eq_of_alike h]
  exact ⟨hemit, fun time => by rw [hemit]⟩

/-- Credentials in an environment and in headers, and a member that no redaction keeps. The
second sensitive key spells a letter with the sign of the kelvin. -/
def credentials (value header : Json) : Json :=
  .object
    [("environment", .object [("DB_PASSWORD", value), ("PORT", .nat 8080)]),
      ("headers", .array [.null, .object [("To\u212Aen", header), ("Via", .text "proxy")]]),
      (Record.droppedKey, .object [("cookie", header), ("size", .nat 1)])]

theorem alike_credentials (value value' header header' : Json) :
    Alike (credentials value header) (credentials value' header') := by
  have hpassword : Sensitive "DB_PASSWORD" := by decide +kernel
  have htoken : Sensitive "To\u212Aen" := by decide +kernel
  have hcookie : Sensitive "cookie" := by decide +kernel
  have henvironment : Alike (.object [("DB_PASSWORD", value), ("PORT", .nat 8080)])
      (.object [("DB_PASSWORD", value'), ("PORT", .nat 8080)]) :=
    .object (.hidden _ _ hpassword (.shown _ (.number _) .nil))
  have hheader : Alike (.object [("To\u212Aen", header), ("Via", .text "proxy")])
      (.object [("To\u212Aen", header'), ("Via", .text "proxy")]) :=
    .object (.hidden _ _ htoken (.shown _ (.text _) .nil))
  have hdropped : Alike (.object [("cookie", header), ("size", .nat 1)])
      (.object [("cookie", header'), ("size", .nat 1)]) :=
    .object (.hidden _ _ hcookie (.shown _ (.number _) .nil))
  exact .object (.shown _ henvironment
    (.shown _ (.array (.cons .null (.cons hheader .nil))) (.shown _ hdropped .nil)))

def exposed : Json := credentials (.text "hunter2") (.text "Bearer abc")

def replaced : Json := credentials (.object [("password", .array [.nat 1])]) .null

theorem emit_hides_sensitive_credentials :
    (standard .info).redacting = true ∧ Alike exposed replaced ∧
      ((standard .info).emit ⟨.warn, "started", some exposed⟩ =
          (standard .info).emit ⟨.warn, "started", some replaced⟩ ∧
        ∀ time, ((standard .info).emit ⟨.warn, "started", some exposed⟩).map (Entry.line · time) =
          ((standard .info).emit ⟨.warn, "started", some replaced⟩).map (Entry.line · time)) ∧
      ((standard .info).emit ⟨.warn, "started", some exposed⟩).map (Entry.line · "noon") =
        some ("\x7b\"timestamp\":\"noon\",\"level\":\"warn\",\"message\":\"started\"," ++
          "\"payload\":\x7b" ++
          "\"environment\":\x7b\"DB_PASSWORD\":\"[REDACTED]\",\"PORT\":8080\x7d," ++
          "\"headers\":[null,\x7b\"To\u212Aen\":\"[REDACTED]\",\"Via\":\"proxy\"\x7d]\x7d\x7d\n") := by
  have halike : Alike exposed replaced := alike_credentials _ _ _ _
  exact ⟨rfl, halike, emit_hides_sensitive (standard .info) rfl .warn "started" halike,
    by decide +kernel⟩

end Logger
end Log
end Rollout
