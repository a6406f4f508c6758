import Rollout.Proofs.Json.Legal
import Rollout.Proofs.Json.Reader
import Rollout.Schema.Issue

/-
Reading back the text of a value, on one line or laid out. What is read is the value itself
but for two things that no text can say: a number that is not finite comes back as null, and
a value that JSON lacks as the value that is written in its place. Numbers have one zero, so
the sign of a zero, which no text says either, makes no difference here.
-/
namespace Rollout
namespace Json

/-! ## Values that texts denote -/

mutual

/-- The value that the text of a value denotes. -/
def written : Json → Json
  | .null => .null
  | .bool b => .bool b
  | .number n => if n.isFinite then .number n else .null
  | .text s => .text s
  | .array items => .array (writtenItems items)
  | .object members => .object (writtenMembers members)
  | .foreign _ shown => written shown

def writtenItems : List Json → List Json
  | [] => []
  | v :: rest => written v :: writtenItems rest

def writtenMembers : List (String × Json) → List (String × Json)
  | [] => []
  | (k, v) :: rest => (k, written v) :: writtenMembers rest

end

theorem writtenItems_eq_map (items : List Json) : writtenItems items = items.map written := by
  induction items with
  | nil => rfl
  | cons v rest ih => rw [writtenItems, ih, List.map_cons]

theorem writtenMembers_eq_map (members : List (String × Json)) :
    writtenMembers members = members.map fun m => (m.1, written m.2) := by
  induction members with
  | nil => rfl
  | cons m rest ih => rw [writtenMembers, ih, List.map_cons]

/-! ## Layouts -/

/-- The gaps that a text has between its parts: before an item and before the end of a list, by
their level, and behind a colon. -/
structure Layout where
  line : Nat → List Char
  colon : List Char
  line_gaps : ∀ level, ∀ c ∈ line level, isGap c = true
  colon_gaps : ∀ c ∈ colon, isGap c = true

/-- No gaps at all. -/
def Layout.dense : Layout where
  line := fun _ => []
  colon := []
  line_gaps := fun _ => List.forall_mem_nil _
  colon_gaps := List.forall_mem_nil _

/-- Every item on a line of its own. -/
def Layout.indented : Layout where
  line := newLine
  colon := [' ']
  line_gaps := by
    intro level c hc
    rcases List.mem_cons.1 hc with rfl | hc
    · rfl
    · rw [List.eq_of_mem_replicate hc]
      rfl
  colon_gaps := List.forall_mem_singleton.2 rfl

@[simp] theorem Layout.line_dense (level : Nat) : dense.line level = [] := rfl

@[simp] theorem Layout.colon_dense : dense.colon = [] := rfl

@[simp] theorem Layout.line_indented (level : Nat) : indented.line level = newLine level := rfl

@[simp] theorem Layout.colon_indented : indented.colon = [' '] := rfl

mutual

/-- The text of a value on a level, with the gaps of a layout. -/
def spread (g : Layout) (level : Nat) : Json → List Char
  | .array [] => ['[', ']']
  | .object [] => ['\x7b', '\x7d']
  | .array items => '[' :: (spreadItems g (level + 1) items ++ g.line level ++ [']'])
  | .object members =>
    '\x7b' :: (spreadMembers g (level + 1) members ++ g.line level ++ ['\x7d'])
  | .null => "null".toList
  | .bool true => "true".toList
  | .bool false => "false".toList
  | .number n => numberChars n
  | .text s => quoted s
  | .foreign _ shown => spread g level shown

def spreadItems (g : Layout) (level : Nat) : List Json → List Char
  | [] => []
  | [v] => g.line level ++ spread g level v
  | v :: rest => g.line level ++ spread g level v ++ ',' :: spreadItems g level rest

def spreadMembers (g : Layout) (level : Nat) : List (String × Json) → List Char
  | [] => []
  | [(k, v)] => g.line level ++ quoted k ++ ':' :: (g.colon ++ spread g level v)
  | (k, v) :: rest =>
    g.line level ++ quoted k ++
      ':' :: (g.colon ++ (spread g level v ++ ',' :: spreadMembers g level rest))

end

mutual

theorem spread_indented (level : Nat) : ∀ v, spread .indented level v = laidOut level v
  | .null | .bool true | .bool false | .number _ | .text _ | .array [] | .object [] => rfl
  | .array (v :: rest) => by
    rw [spread, laidOut, spreadItems_indented (level + 1) (v :: rest)]
    all_goals simp
  | .object (m :: rest) => by
    rw [spread, laidOut, spreadMembers_indented (level + 1) (m :: rest)]
    all_goals simp
  | .foreign _ shown => spread_indented level shown

theorem spreadItems_indented (level : Nat) :
    ∀ items, spreadItems .indented level items = laidOutItems level items
  | [] => rfl
  | [v] => by simp [spreadItems, laidOutItems, spread_indented level v]
  | v :: w :: rest => by
    simp [spreadItems, laidOutItems, spread_indented level v,
      spreadItems_indented level (w :: rest)]

theorem spreadMembers_indented (level : Nat) :
    ∀ members, spreadMembers .indented level members = laidOutMembers level members
  | [] => rfl
  | [(k, v)] => by simp [spreadMembers, laidOutMembers, spread_indented level v]
  | (k, v) :: m :: rest => by
    simp [spreadMembers, laidOutMembers, spread_indented level v,
      spreadMembers_indented level (m :: rest)]

end

mutual

theorem spread_dense (level : Nat) : ∀ v, spread .dense level v = chars v
  | .null | .bool true | .bool false | .number _ | .text _ | .array [] | .object [] => rfl
  | .array (v :: rest) => by
    rw [spread, chars, spreadItems_dense (level + 1) (v :: rest)]
    all_goals simp
  | .object (m :: rest) => by
    rw [spread, chars, spreadMembers_dense (level + 1) (m :: rest)]
    all_goals simp
  | .foreign _ shown => spread_dense level shown

theorem spreadItems_dense (level : Nat) :
    ∀ items, spreadItems .dense level items = itemChars items
  | [] => rfl
  | [v] => by simp [spreadItems, itemChars, spread_dense level v]
  | v :: w :: rest => by
    simp [spreadItems, itemChars, spread_dense level v, spreadItems_dense level (w :: rest)]

theorem spreadMembers_dense (level : Nat) :
    ∀ members, spreadMembers .dense level members = memberChars members
  | [] => rfl
  | [(k, v)] => by simp [spreadMembers, memberChars, spread_dense level v]
  | (k, v) :: m :: rest => by
    simp [spreadMembers, memberChars, spread_dense level v, spreadMembers_dense level (m :: rest)]

end

/-! ## Gaps -/

variable {g : Layout} {cs gap rest tail : List Char} {level fuel : Nat} {v : Json}

/-- How the text of a value begins: with a character that is no gap and ends no array. -/
def Opens (cs : List Char) : Prop := ∃ c more, cs = c :: more ∧ isGap c = false ∧ c ≠ ']'

theorem skipGap_of_opens (h : Opens cs) (tail : List Char) : skipGap (cs ++ tail) = cs ++ tail := by
  obtain ⟨c, more, rfl, hc, -⟩ := h
  simp [skipGap, hc]

theorem skipGap_append (h : ∀ c ∈ gap, isGap c = true) (cs : List Char) :
    skipGap (gap ++ cs) = skipGap cs := List.dropWhile_append_of_pos h

theorem endsNumber_cons {c : Char}
    (h : Decimal.isDigit c = false ∧ c ≠ '.' ∧ c ≠ 'e' ∧ c ≠ 'E') (cs : List Char) :
    EndsNumber (c :: cs) := by
  intro d hd
  obtain rfl := Option.some.inj hd
  exact h

theorem endsNumber_comma (cs : List Char) : EndsNumber (',' :: cs) :=
  endsNumber_cons (by decide) cs

/-- A gap ends a number, and where there is none what follows has to. -/
theorem endsNumber_append (hgap : ∀ c ∈ gap, isGap c = true) (h : EndsNumber tail) :
    EndsNumber (gap ++ tail) := by
  cases gap with
  | nil => exact h
  | cons c more =>
    refine endsNumber_cons ?_ _
    have hc := hgap c List.mem_cons_self
    simp only [isGap, Bool.or_eq_true, decide_eq_true_eq] at hc
    rcases hc with ((rfl | rfl) | rfl) | rfl <;> decide

/-! ## Numbers among values -/

theorem head_of_readNumber {c : Char} {x : Number × List Char}
    (h : readNumber (c :: cs) = some x) : c = '-' ∨ Decimal.isDigit c = true := by
  by_cases hminus : c = '-'
  · exact .inl hminus
  by_cases hdigit : Decimal.isDigit c = true
  · exact .inr hdigit
  · rw [readNumber] at h
    · rw [readUnsigned_eq_none (Bool.eq_false_iff.2 hdigit)] at h
      cases h
    · intro _ heq
      exact hminus (List.cons.inj heq).1

/-- No character that a number begins with begins another value. -/
theorem ne_of_head {c : Char} (h : c = '-' ∨ Decimal.isDigit c = true) :
    c ≠ '"' ∧ c ≠ '[' ∧ c ≠ '\x7b' ∧ c ≠ 't' ∧ c ≠ 'f' ∧ c ≠ 'n' ∧ c ≠ ']' ∧ isGap c = false := by
  have hne : ∀ d : Char, (d ≠ '-' ∧ Decimal.isDigit d = false) → c ≠ d := by
    rintro _ ⟨hminus, hdigit⟩ rfl
    rcases h with h | h
    · exact hminus h
    · rw [hdigit] at h
      cases h
  refine ⟨hne _ (by decide), hne _ (by decide), hne _ (by decide), hne _ (by decide),
    hne _ (by decide), hne _ (by decide), hne _ (by decide), ?_⟩
  simp [isGap, hne ' ' (by decide), hne '\t' (by decide), hne '\n' (by decide),
    hne '\r' (by decide)]

theorem readValue_of_readNumber {n : Number} (h : readNumber cs = some (n, rest)) (fuel : Nat) :
    readValue (fuel + 1) cs = some (.number n, rest) := by
  cases cs with
  | nil => cases h
  | cons c more =>
    obtain ⟨hquote, hbracket, hbrace, ht, hf, hn, -⟩ := ne_of_head (head_of_readNumber h)
    rw [readValue]
    · rw [h, Option.map_some]
    all_goals
      intro _ heq
      have hc := (List.cons.inj heq).1
      contradiction

theorem opens_of_readNumber {x : Number × List Char} (h : readNumber cs = some x) : Opens cs := by
  cases cs with
  | nil => cases h
  | cons c more =>
    obtain ⟨-, -, -, -, -, -, hclose, hgap⟩ := ne_of_head (head_of_readNumber h)
    exact ⟨c, more, rfl, hgap, hclose⟩

theorem readNumber_alone {q : Rat} (hq : (Number.finite q).IsBinary64) :
    readNumber (numberChars (.finite q)) = some (.finite q, []) := by
  have hend : EndsNumber [] := fun _ h => nomatch h
  have hread := readNumber_numberChars hq hend
  rwa [List.append_nil] at hread

/-! ## Values -/

theorem opens_spread (g : Layout) (h : v.Legal) (level : Nat) : Opens (spread g level v) := by
  induction h generalizing level with
  | null => exact ⟨'n', _, rfl, by decide, by decide⟩
  | bool b => cases b <;> exact ⟨_, _, rfl, by decide, by decide⟩
  | @number n h =>
    rw [spread]
    cases n with
    | finite q => exact opens_of_readNumber (readNumber_alone h)
    | infinity => exact ⟨'n', _, rfl, by decide, by decide⟩
    | negInfinity => exact ⟨'n', _, rfl, by decide, by decide⟩
    | notANumber => exact ⟨'n', _, rfl, by decide, by decide⟩
  | text s => exact ⟨'"', _, rfl, by decide, by decide⟩
  | @array items h =>
    cases items <;> exact ⟨'[', _, rfl, by decide, by decide⟩
  | @object members hkeys h =>
    cases members <;> exact ⟨'\x7b', _, rfl, by decide, by decide⟩
  | foreign h hbytes ih =>
    rw [spread]
    exact ih level

theorem exists_fuel (h : Opens cs) (hfuel : 2 * cs.length ≤ fuel) : ∃ n, fuel = n + 1 := by
  obtain ⟨c, more, rfl, -⟩ := h
  rw [List.length_cons] at hfuel
  exact ⟨fuel - 1, by omega⟩

/-- The text of a value is read back, whatever stands behind it. -/
def ReadsBack (g : Layout) (v : Json) : Prop :=
  ∀ fuel level rest, 2 * (spread g level v).length ≤ fuel → EndsNumber rest →
    readValue fuel (spread g level v ++ rest) = some (v.written, rest)

theorem readsBack_number {n : Number} (h : n.IsBinary64) : ReadsBack g (.number n) := by
  intro fuel level rest hfuel hrest
  obtain ⟨fuel, rfl⟩ := exists_fuel (opens_spread g (.number h) level) hfuel
  cases n with
  | finite q => exact readValue_of_readNumber (readNumber_numberChars h hrest) fuel
  | infinity => rfl
  | negInfinity => rfl
  | notANumber => rfl

/-! ## Items and members -/

/-- What stands between a value of a list and the end of the list. -/
def spreadBehind (g : Layout) (level : Nat) : List Json → List Char
  | [] => []
  | v :: rest => ',' :: spreadItems g level (v :: rest)

theorem spreadItems_cons (g : Layout) (level : Nat) (v : Json) (items : List Json) :
    spreadItems g level (v :: items) =
      g.line level ++ (spread g level v ++ spreadBehind g level items) := by
  cases items <;> simp [spreadItems, spreadBehind]

theorem endsNumber_spreadBehind (g : Layout) (level : Nat) (items : List Json)
    (h : EndsNumber tail) : EndsNumber (spreadBehind g level items ++ tail) := by
  cases items with
  | nil => exact h
  | cons v rest => exact endsNumber_comma _

theorem readItems_spreadItems {items : List Json} (hne : items ≠ [])
    (hlegal : ∀ v ∈ items, v.Legal) (hread : ∀ v ∈ items, ReadsBack g v)
    (hfuel : 2 * (spreadItems g level items).length + 1 ≤ fuel) (htail : EndsNumber tail)
    (hend : skipGap tail = ']' :: rest) :
    readItems fuel (skipGap (spreadItems g level items ++ tail)) =
      some (items.map written, rest) := by
  induction items generalizing fuel with
  | nil => exact absurd rfl hne
  | cons v more ih =>
    have hopen := opens_spread g (hlegal v List.mem_cons_self) level
    rw [spreadItems_cons] at hfuel ⊢
    simp only [List.length_append] at hfuel
    obtain ⟨fuel, rfl⟩ : ∃ n, fuel = n + 1 := ⟨fuel - 1, by omega⟩
    have hvalue := hread v List.mem_cons_self fuel level _ (by omega)
      (endsNumber_spreadBehind g level more htail)
    rw [List.append_assoc, skipGap_append (g.line_gaps level), List.append_assoc,
      skipGap_of_opens hopen, readItems, hvalue, Option.bind_some]
    cases more with
    | nil =>
      simp only [spreadBehind, List.nil_append, hend]
      rfl
    | cons w others =>
      have hcomma : skipGap (spreadBehind g level (w :: others) ++ tail) =
          ',' :: (spreadItems g level (w :: others) ++ tail) := rfl
      have hmore : 2 * (spreadItems g level (w :: others)).length + 1 ≤ fuel := by
        simp only [spreadBehind, List.length_cons] at hfuel
        omega
      have hothers := ih (by simp) (fun x hx => hlegal x (List.mem_cons_of_mem _ hx))
        (fun x hx => hread x (List.mem_cons_of_mem _ hx)) hmore
      simp only [hcomma, hothers, Option.map_some, List.map_cons]

/-- What stands between a member of an object and the end of the object. -/
def spreadMembersBehind (g : Layout) (level : Nat) : List (String × Json) → List Char
  | [] => []
  | m :: rest => ',' :: spreadMembers g level (m :: rest)

theorem spreadMembers_cons (g : Layout) (level : Nat) (m : String × Json)
    (members : List (String × Json)) :
    spreadMembers g level (m :: members) =
      g.line level ++ (quoted m.1 ++
        ':' :: (g.colon ++ (spread g level m.2 ++ spreadMembersBehind g level members))) := by
  cases members <;> simp [spreadMembers, spreadMembersBehind]

theorem endsNumber_spreadMembersBehind (g : Layout) (level : Nat)
    (members : List (String × Json)) (h : EndsNumber tail) :
    EndsNumber (spreadMembersBehind g level members ++ tail) := by
  cases members with
  | nil => exact h
  | cons m rest => exact endsNumber_comma _

theorem skipGap_member (g : Layout) (level : Nat) (k : String) (cs : List Char) :
    skipGap (g.line level ++ (quoted k ++ ':' :: cs)) =
      '"' :: (k.toList.flatMap escapeChar ++ '"' :: ':' :: cs) := by
  rw [skipGap_append (g.line_gaps level)]
  simp [quoted, skipGap, isGap]

theorem readMembers_spreadMembers {members : List (String × Json)} (hne : members ≠ [])
    (hlegal : ∀ m ∈ members, m.2.Legal) (hread : ∀ m ∈ members, ReadsBack g m.2)
    (hfuel : 2 * (spreadMembers g level members).length + 1 ≤ fuel) (htail : EndsNumber tail)
    (hend : skipGap tail = '\x7d' :: rest) :
    readMembers fuel (skipGap (spreadMembers g level members ++ tail)) =
      some (members.map fun m => (m.1, m.2.written), rest) := by
  induction members generalizing fuel with
  | nil => exact absurd rfl hne
  | cons m more ih =>
    obtain ⟨k, v⟩ := m
    have hopen := opens_spread g (hlegal (k, v) List.mem_cons_self) level
    rw [spreadMembers_cons] at hfuel ⊢
    simp only [List.length_append, List.length_cons] at hfuel
    obtain ⟨fuel, rfl⟩ : ∃ n, fuel = n + 1 := ⟨fuel - 1, by omega⟩
    have hvalue := hread (k, v) List.mem_cons_self fuel level _ (by simp only; omega)
      (endsNumber_spreadMembersBehind g level more htail)
    have hkey := readString_quoted k.toList
      (':' :: (g.colon ++ (spread g level v ++ (spreadMembersBehind g level more ++ tail))))
    have hblank :
        skipGap (g.colon ++ (spread g level v ++ (spreadMembersBehind g level more ++ tail))) =
          spread g level v ++ (spreadMembersBehind g level more ++ tail) := by
      rw [skipGap_append g.colon_gaps, skipGap_of_opens hopen]
    have hcolon : ∀ cs, skipGap (':' :: cs) = ':' :: cs := fun _ => rfl
    simp only [List.append_assoc, List.cons_append]
    rw [skipGap_member, readMembers, hkey, Option.bind_some]
    simp only [hcolon, hblank, hvalue, Option.bind_some, String.ofList_toList]
    cases more with
    | nil =>
      simp only [spreadMembersBehind, List.nil_append, hend]
      rfl
    | cons n others =>
      have hcomma : skipGap (spreadMembersBehind g level (n :: others) ++ tail) =
          ',' :: (spreadMembers g level (n :: others) ++ tail) := rfl
      have hmore : 2 * (spreadMembers g level (n :: others)).length + 1 ≤ fuel := by
        simp only [spreadMembersBehind, List.length_cons] at hfuel
        omega
      have hothers := ih (by simp) (fun x hx => hlegal x (List.mem_cons_of_mem _ hx))
        (fun x hx => hread x (List.mem_cons_of_mem _ hx)) hmore
      simp only [hcomma, hothers, Option.map_some, List.map_cons]

/-! ## Texts -/

theorem readValue_array {inside : List Char} (h : ∀ r, skipGap inside ≠ ']' :: r) :
    readValue (fuel + 1) ('[' :: inside) =
      (readItems fuel (skipGap inside)).map fun (items, r) => (.array items, r) := by
  rw [readValue]
  split
  · rename_i r hr
    exact absurd hr (h r)
  · rfl

theorem readValue_object {inside : List Char} (h : ∀ r, skipGap inside ≠ '\x7d' :: r) :
    readValue (fuel + 1) ('\x7b' :: inside) =
      (readMembers fuel (skipGap inside)).map fun (members, r) => (ofMembers members, r) := by
  rw [readValue]
  split
  · rename_i r hr
    exact absurd hr (h r)
  · rfl

theorem readsBack_array {items : List Json} (h : ∀ v ∈ items, v.Legal)
    (hread : ∀ v ∈ items, ReadsBack g v) : ReadsBack g (.array items) := by
  intro fuel level rest hfuel _
  obtain ⟨fuel, rfl⟩ := exists_fuel (opens_spread g (.array h) level) hfuel
  cases items with
  | nil => rfl
  | cons w more =>
    have hopen := opens_spread g (h w List.mem_cons_self) (level + 1)
    have hshape : spread g level (.array (w :: more)) ++ rest =
        '[' :: (spreadItems g (level + 1) (w :: more) ++ (g.line level ++ ']' :: rest)) := by
      simp [spread]
    have hend : skipGap (g.line level ++ ']' :: rest) = ']' :: rest :=
      skipGap_append (g.line_gaps level) _
    have hinner : 2 * (spreadItems g (level + 1) (w :: more)).length + 1 ≤ fuel := by
      simp only [spread, List.length_cons, List.length_append] at hfuel
      omega
    have hbehind : EndsNumber (g.line level ++ ']' :: rest) :=
      endsNumber_append (g.line_gaps level) (endsNumber_cons (by decide) _)
    have hitems := readItems_spreadItems (by simp) h hread hinner hbehind hend
    have hinside : ∀ r,
        skipGap (spreadItems g (level + 1) (w :: more) ++ (g.line level ++ ']' :: rest)) ≠
          ']' :: r := by
      intro r hr
      rw [spreadItems_cons, List.append_assoc, skipGap_append (g.line_gaps _), List.append_assoc,
        skipGap_of_opens hopen] at hr
      obtain ⟨c, cs, hc, -, hne⟩ := hopen
      rw [hc] at hr
      exact hne (List.cons.inj hr).1
    rw [hshape, readValue_array hinside, hitems, Option.map_some, written, writtenItems_eq_map]

theorem readsBack_object {members : List (String × Json)} (hkeys : Record.Canonical members)
    (h : ∀ m ∈ members, m.2.Legal) (hread : ∀ m ∈ members, ReadsBack g m.2) :
    ReadsBack g (.object members) := by
  intro fuel level rest hfuel _
  obtain ⟨fuel, rfl⟩ := exists_fuel (opens_spread g (.object hkeys h) level) hfuel
  cases members with
  | nil => rfl
  | cons m more =>
    have hshape : spread g level (.object (m :: more)) ++ rest =
        '\x7b' :: (spreadMembers g (level + 1) (m :: more) ++ (g.line level ++ '\x7d' :: rest)) := by
      simp [spread]
    have hend : skipGap (g.line level ++ '\x7d' :: rest) = '\x7d' :: rest :=
      skipGap_append (g.line_gaps level) _
    have hinner : 2 * (spreadMembers g (level + 1) (m :: more)).length + 1 ≤ fuel := by
      simp only [spread, List.length_cons, List.length_append] at hfuel
      omega
    have hbehind : EndsNumber (g.line level ++ '\x7d' :: rest) :=
      endsNumber_append (g.line_gaps level) (endsNumber_cons (by decide) _)
    have hmembers := readMembers_spreadMembers (by simp) h hread hinner hbehind hend
    have hinside : ∀ r,
        skipGap (spreadMembers g (level + 1) (m :: more) ++ (g.line level ++ '\x7d' :: rest)) ≠
          '\x7d' :: r := by
      intro r hr
      rw [spreadMembers_cons, List.append_assoc, skipGap_append (g.line_gaps _)] at hr
      exact absurd (List.cons.inj hr).1 (by decide)
    have hcanonical : Record.Canonical ((m :: more).map fun m => (m.1, m.2.written)) :=
      (Record.canonical_map_iff _).2 hkeys
    rw [hshape, readValue_object hinside, hmembers, Option.map_some, written,
      writtenMembers_eq_map]
    simp only [ofMembers, Record.ofList_of_canonical hcanonical]

theorem readsBack_of_legal (g : Layout) (h : v.Legal) : ReadsBack g v := by
  induction h with
  | null =>
    intro fuel level rest hfuel _
    obtain ⟨fuel, rfl⟩ := exists_fuel (opens_spread g .null level) hfuel
    rfl
  | bool b =>
    intro fuel level rest hfuel _
    obtain ⟨fuel, rfl⟩ := exists_fuel (opens_spread g (.bool b) level) hfuel
    cases b <;> rfl
  | number h => exact readsBack_number h
  | text s =>
    intro fuel level rest hfuel _
    obtain ⟨fuel, rfl⟩ := exists_fuel (opens_spread g (.text s) level) hfuel
    have hshape : spread g level (.text s) ++ rest =
        '"' :: (s.toList.flatMap escapeChar ++ '"' :: rest) := by
      simp [spread, quoted]
    rw [hshape, readValue, readString_quoted, Option.map_some, written]
    simp only [String.ofList_toList]
  | array h ih => exact readsBack_array h ih
  | object hkeys h ih => exact readsBack_object hkeys h ih
  | foreign h hbytes ih =>
    intro fuel level rest hfuel hrest
    exact ih fuel level rest hfuel hrest

/-- Whatever its layout, the text of a value is read as what the text denotes, and so it is with
a gap behind it. -/
theorem read?_spread_append {s : String} (g : Layout) (h : v.Legal)
    (hgap : ∀ c ∈ gap, isGap c = true) (hs : s.toList = spread g 0 v ++ gap) :
    read? s = some v.written := by
  have hends : EndsNumber gap := by
    rw [← List.append_nil gap]
    exact endsNumber_append hgap fun _ hnil => nomatch hnil
  have hread := readsBack_of_legal g h (2 * (spread g 0 v ++ gap).length + 2) 0 gap
    (by rw [List.length_append]; omega) hends
  have hend : skipGap gap = [] := List.dropWhile_eq_nil_iff.2 hgap
  rw [read?]
  simp only [hs, skipGap_of_opens (opens_spread g h 0), hread, hend, List.isEmpty_nil, if_true]

/-- The text of a value on one line is read as what the text denotes. -/
theorem read?_chars (h : v.Legal) : read? (String.ofList (chars v)) = some v.written := by
  refine read?_spread_append .dense h (List.forall_mem_nil _) ?_
  rw [String.toList_ofList, spread_dense, List.append_nil]

/-- The laid-out text of a value is read as what the text denotes, whatever gap stands behind
it. -/
theorem read?_pretty_append {gap : String} (h : v.Legal) (hgap : ∀ c ∈ gap.toList, isGap c = true) :
    read? (v.pretty ++ gap) = some v.written := by
  refine read?_spread_append .indented h hgap ?_
  rw [String.toList_append, pretty, String.toList_ofList, spread_indented]

theorem read?_pretty (h : v.Legal) : read? v.pretty = some v.written := by
  have hread : read? (v.pretty ++ "") = some v.written := read?_pretty_append h (by simp)
  rwa [String.append_empty] at hread

/-! ## Values that lose nothing -/

/-- A value that its text says in full: all its numbers are finite, and nothing in it is
lacking in JSON. -/
inductive Lossless : Json → Prop where
  | null : Lossless .null
  | bool (b : Bool) : Lossless (.bool b)
  | number {n : Number} (h : n.isFinite = true) : Lossless (.number n)
  | text (s : String) : Lossless (.text s)
  | array {items : List Json} (h : ∀ v ∈ items, Lossless v) : Lossless (.array items)
  | object {members : List (String × Json)} (h : ∀ m ∈ members, Lossless m.2) :
      Lossless (.object members)

theorem Lossless.written_eq (h : v.Lossless) : v.written = v := by
  induction h with
  | null => rfl
  | bool b => rfl
  | number h => rw [written, if_pos h]
  | text s => rfl
  | array h ih => rw [written, writtenItems_eq_map, List.map_congr_left ih, List.map_id']
  | @object members h ih =>
    have hmembers : ∀ m ∈ members, (m.1, m.2.written) = m := fun m hm => by rw [ih m hm]
    rw [written, writtenMembers_eq_map, List.map_congr_left hmembers, List.map_id']

theorem Legal.lossless_written (h : v.Legal) : v.written.Lossless := by
  induction h with
  | null => exact .null
  | bool b => exact .bool b
  | number h =>
    rw [written]
    split
    case isTrue hfinite => exact .number hfinite
    case isFalse => exact .null
  | text s => exact .text s
  | array h ih =>
    rw [written, writtenItems_eq_map]
    exact .array (List.forall_mem_map.2 ih)
  | object hkeys h ih =>
    rw [written, writtenMembers_eq_map]
    exact .object (List.forall_mem_map.2 ih)
  | foreign h hbytes ih => exact ih

theorem Legal.lossless_of_written_eq (h : v.Legal) (heq : v.written = v) : v.Lossless :=
  heq ▸ h.lossless_written

/-- What is read back is the value itself where the text says it in full, and nowhere
else. -/
theorem read?_pretty_eq_self_iff (h : v.Legal) : read? v.pretty = some v ↔ v.Lossless := by
  rw [read?_pretty h, Option.some.injEq]
  exact ⟨h.lossless_of_written_eq, Lossless.written_eq⟩

/-! ## Documents that are put together -/

@[simp] theorem lossless_null : null.Lossless := .null

@[simp] theorem lossless_bool (b : Bool) : (bool b).Lossless := .bool b

@[simp] theorem lossless_text (s : String) : (text s).Lossless := .text s

@[simp] theorem lossless_number_iff {n : Number} : (number n).Lossless ↔ n.isFinite = true :=
  ⟨fun | .number h => h, .number⟩

@[simp] theorem lossless_nat (n : Nat) : (nat n).Lossless := .number rfl

@[simp] theorem lossless_array_iff {items : List Json} :
    (array items).Lossless ↔ ∀ v ∈ items, v.Lossless :=
  ⟨fun | .array h => h, .array⟩

@[simp] theorem lossless_object_iff {members : List (String × Json)} :
    (object members).Lossless ↔ ∀ m ∈ members, m.2.Lossless :=
  ⟨fun | .object h => h, .object⟩

@[simp] theorem lossless_orNull_iff {α : Type} {encode : α → Json} {o : Option α} :
    (orNull encode o).Lossless ↔ ∀ a, o = some a → (encode a).Lossless := by
  cases o with
  | none => simp [orNull]
  | some a => simp [orNull]

@[simp] theorem lossless_texts (items : List String) : (texts items).Lossless := by
  simp [texts]

/-! ## Where numbers stand -/

/-- A number stands in a value at the end of a path. -/
inductive NumberAt : Json → List Schema.Step → Number → Prop where
  | here (n : Number) : NumberAt (.number n) [] n
  | item {items : List Json} {i : Nat} {v : Json} {path : List Schema.Step} {n : Number}
      (hi : items[i]? = some v) (h : NumberAt v path n) :
      NumberAt (.array items) (.item i :: path) n
  | member {members : List (String × Json)} {k : String} {v : Json} {path : List Schema.Step}
      {n : Number} (hk : (k, v) ∈ members) (h : NumberAt v path n) :
      NumberAt (.object members) (.key k :: path) n

theorem numberAt_array_iff {items : List Json} {path : List Schema.Step} {n : Number} :
    (array items).NumberAt path n ↔
      ∃ i v rest, items[i]? = some v ∧ path = .item i :: rest ∧ v.NumberAt rest n := by
  constructor
  · rintro (_ | ⟨hi, h⟩)
    exact ⟨_, _, _, hi, rfl, h⟩
  · rintro ⟨i, v, rest, hi, rfl, h⟩
    exact .item hi h

theorem numberAt_object_iff {members : List (String × Json)} {path : List Schema.Step}
    {n : Number} :
    (object members).NumberAt path n ↔
      ∃ m ∈ members, ∃ rest, path = .key m.1 :: rest ∧ m.2.NumberAt rest n := by
  constructor
  · rintro (_ | _ | ⟨hk, h⟩)
    exact ⟨_, hk, _, rfl, h⟩
  · rintro ⟨m, hm, rest, rfl, h⟩
    exact .member hm h

theorem Lossless.isFinite {path : List Schema.Step} {n : Number} (hv : v.Lossless)
    (h : v.NumberAt path n) : n.isFinite = true := by
  induction h with
  | here n =>
    cases hv with
    | number hn => exact hn
  | item hi _ ih =>
    cases hv with
    | array hitems => exact ih (hitems _ (List.mem_of_getElem? hi))
  | member hk _ ih =>
    cases hv with
    | object hmembers => exact ih (hmembers _ hk)

end Json
end Rollout
