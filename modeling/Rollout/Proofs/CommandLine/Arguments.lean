import Rollout.CommandLine.Arguments
import Rollout.Proofs.Catalog.Words

/-
The grammar of the arguments: a file, then items in any order, each written as one argument
or as two. Just these lists are accepted, and the items say what is asked for. In any other
list there is a first argument that continues no such list, and the message is about it.
-/
namespace Rollout
namespace CommandLine

/-! ## Items -/

/-- An option, with its value if it has one. -/
inductive Item where
  | format (form : Format)
  | orderOnly
  | validateOnly
  | strict
  deriving DecidableEq

namespace Item

/-- The arguments that an item is written as. -/
def tokens : Item → List String
  | .format .json => ["--format", "json"]
  | .format .text => ["--format", "text"]
  | .orderOnly => ["--order-only"]
  | .validateOnly => ["--validate-only"]
  | .strict => ["--strict"]

def format? : Item → Option Format
  | .format form => some form
  | _ => none

def mode? : Item → Option Mode
  | .orderOnly => some .order
  | .validateOnly => some .validate
  | _ => none

/-- What a list of items is written as. -/
def written (items : List Item) : List String := items.flatMap tokens

end Item

namespace Arguments

/-- Whether a first argument can be a file. -/
def NamesFile (file : String) : Prop := file ≠ "" ∧ ¬"--".toList <+: file.toList

/-- What items ask for. The last format and the last mode count. -/
def ofItems (file : String) (items : List Item) : Arguments where
  file := file
  format := (items.filterMap Item.format?).getLast?.getD .text
  mode := (items.filterMap Item.mode?).getLast?.getD .plan
  strict := decide (.strict ∈ items)

/-- Arguments that begin with no item, and the message about the first of them. -/
inductive BeginsNoItem : List String → String → Prop where
  | format {rest : List String} (h : ∀ word, rest.head? = some word → word ≠ "json" ∧ word ≠ "text") :
      BeginsNoItem ("--format" :: rest) "--format must be 'json' or 'text'"
  | unknown {token : String} {rest : List String}
      (h : token ∉ ["--format", "--order-only", "--validate-only", "--strict"]) :
      BeginsNoItem (token :: rest) ("Unknown argument '" ++ token ++ "'")

/-- Arguments that are refused, and the message about the first of them that is at fault. -/
inductive Refused : List String → String → Prop where
  | file {argv : List String} (h : ∀ file, argv.head? = some file → ¬NamesFile file) :
      Refused argv "First positional argument must be the path to a topology file"
  | option {file : String} {items : List Item} {rest : List String} {text : String}
      (hfile : NamesFile file) (h : BeginsNoItem rest text) :
      Refused (file :: (Item.written items ++ rest)) text

/-! ## Items one by one -/

/-- Further options are applied to what the first ones give. -/
theorem withOptions_append {a b : Arguments} {options : List String} (more : List String)
    (h : a.withOptions options = .ok b) : a.withOptions (options ++ more) = b.withOptions more := by
  fun_induction withOptions a options with
  | case1 a => rw [List.nil_append, Except.ok.inj h]
  | case2 a => cases h
  | case3 a word rest format hword ih => simpa [withOptions, hword] using ih h
  | case4 a word rest hword => cases h
  | case5 a rest hformat ih =>
    rw [List.cons_append, withOptions.eq_def]
    simp only [hformat, if_false, if_true]
    exact ih h
  | case6 a rest hformat horder ih =>
    rw [List.cons_append, withOptions.eq_def]
    simp only [hformat, horder, if_false, if_true]
    exact ih h
  | case7 a rest hformat horder hvalidate ih =>
    rw [List.cons_append, withOptions.eq_def]
    simp only [hformat, horder, hvalidate, if_false, if_true]
    exact ih h
  | case8 a token rest => cases h

/-- What one item changes. -/
def apply (a : Arguments) : Item → Arguments
  | .format format => { a with format }
  | .orderOnly => { a with mode := .order }
  | .validateOnly => { a with mode := .validate }
  | .strict => { a with strict := true }

theorem withOptions_tokens (a : Arguments) (i : Item) :
    a.withOptions i.tokens = .ok (a.apply i) := by
  cases i with
  | format form => cases form <;> rfl
  | _ => rfl

theorem withOptions_written (a : Arguments) (items : List Item) :
    a.withOptions (Item.written items) = .ok (items.foldl apply a) := by
  induction items generalizing a with
  | nil => rfl
  | cons i rest ih =>
    rw [Item.written, List.flatMap_cons, withOptions_append _ (withOptions_tokens a i)]
    exact ih (a.apply i)

theorem foldl_apply (a : Arguments) (items : List Item) :
    items.foldl apply a =
      { file := a.file
        format := (items.filterMap Item.format?).getLast?.getD a.format
        mode := (items.filterMap Item.mode?).getLast?.getD a.mode
        strict := a.strict || decide (.strict ∈ items) } := by
  induction items generalizing a with
  | nil => simp
  | cons i rest ih =>
    rw [List.foldl_cons, ih]
    cases i with
    | strict => simp [apply, Item.format?, Item.mode?]
    | _ => simp [apply, Item.format?, Item.mode?, List.getLast?_cons]

/-! ## The first argument at fault -/

/-- A list of options is written by items, up to its end or to arguments that begin with no
item. -/
def Splits (options : List String) : Prop :=
  ∃ items rest, options = Item.written items ++ rest ∧
    (rest = [] ∨ ∃ text, BeginsNoItem rest text)

theorem Splits.of_beginsNoItem {rest : List String} {text : String} (h : BeginsNoItem rest text) :
    Splits rest := ⟨[], rest, rfl, .inr ⟨text, h⟩⟩

theorem Splits.tokens_append {rest : List String} (i : Item) (h : Splits rest) :
    Splits (i.tokens ++ rest) := by
  obtain ⟨items, last, rfl, hlast⟩ := h
  exact ⟨i :: items, last, by simp [Item.written], hlast⟩

theorem eq_of_ofWord?_eq_some {word : String} {format : Format}
    (h : (Worded.ofWord? word : Option Format) = some format) :
    Item.tokens (.format format) = ["--format", word] := by
  rw [← Worded.word_of_ofWord? h]
  cases format <;> rfl

theorem ne_of_ofWord?_eq_none {word : String} (h : (Worded.ofWord? word : Option Format) = none) :
    word ≠ "json" ∧ word ≠ "text" := by
  constructor <;> (rintro rfl; cases h)

theorem splits (a : Arguments) (options : List String) : Splits options := by
  -- Reading goes by items too: each of its cases has read one, or stops where none begins.
  fun_induction withOptions a options with
  | case1 a => exact ⟨[], [], rfl, .inl rfl⟩
  | case2 a => exact .of_beginsNoItem (.format (by simp))
  | case3 a word rest format hword ih =>
    have h := ih.tokens_append (.format format)
    rwa [eq_of_ofWord?_eq_some hword] at h
  | case4 a word rest hword =>
    refine .of_beginsNoItem (.format fun word' hword' => ?_)
    obtain rfl := Option.some.inj hword'
    exact ne_of_ofWord?_eq_none hword
  | case5 a rest _ ih => exact ih.tokens_append .orderOnly
  | case6 a rest _ _ ih => exact ih.tokens_append .validateOnly
  | case7 a rest _ _ _ ih => exact ih.tokens_append .strict
  | case8 a token rest hformat horder hvalidate hstrict =>
    exact .of_beginsNoItem (.unknown (by simp [hformat, horder, hvalidate, hstrict]))

theorem withOptions_of_beginsNoItem (a : Arguments) {rest : List String} {text : String}
    (h : BeginsNoItem rest text) :
    ∃ fault, a.withOptions rest = .error fault ∧ fault.message = text := by
  cases h with
  | @format rest h =>
    refine ⟨.badFormat, ?_, rfl⟩
    cases rest with
    | nil => rfl
    | cons word rest =>
      rw [withOptions, if_pos rfl]
      cases hword : (Worded.ofWord? word : Option Format) with
      | none => rfl
      | some format =>
        obtain ⟨hjson, htext⟩ := h word rfl
        have hword := Worded.word_of_ofWord? hword
        cases format with
        | json => exact absurd hword.symm hjson
        | text => exact absurd hword.symm htext
  | @unknown token rest h =>
    simp only [List.mem_cons, List.not_mem_nil, or_false, not_or] at h
    obtain ⟨hformat, horder, hvalidate, hstrict⟩ := h
    refine ⟨.unknown token, ?_, rfl⟩
    rw [withOptions.eq_def]
    simp only [hformat, horder, hvalidate, hstrict, if_false]

/-! ## The grammar -/

theorem namesFile_iff {file : String} :
    (file.isEmpty || looksLikeOption file) = false ↔ NamesFile file := by
  rw [Bool.or_eq_false_iff, NamesFile, looksLikeOption]
  refine and_congr ?_ ?_
  · rw [← Bool.not_eq_true, String.isEmpty_iff]
  · rw [← Bool.not_eq_true, List.isPrefixOf_iff_prefix]
    rfl

theorem parse_written {file : String} (h : NamesFile file) (items : List Item) :
    parse (file :: Item.written items) = .ok (ofItems file items) := by
  rw [parse, namesFile_iff.2 h, if_neg Bool.false_ne_true, withOptions_written, foldl_apply]
  simp [ofItems, ofFile]

theorem exists_fault_of_refused {argv : List String} {text : String} (h : Refused argv text) :
    ∃ fault, parse argv = .error fault ∧ fault.message = text := by
  cases h with
  | file h =>
    refine ⟨.noFile, ?_, rfl⟩
    cases argv with
    | nil => rfl
    | cons file options =>
      rw [parse, if_pos]
      exact Bool.of_not_eq_false (mt namesFile_iff.1 (h file rfl))
  | @option file items rest _ hfile h =>
    obtain ⟨fault, hfault, htext⟩ :=
      withOptions_of_beginsNoItem (items.foldl apply (ofFile file)) h
    refine ⟨fault, ?_, htext⟩
    rw [parse, namesFile_iff.2 hfile, if_neg Bool.false_ne_true,
      withOptions_append _ (withOptions_written _ items), hfault]

theorem written_or_refused (argv : List String) :
    (∃ file items, NamesFile file ∧ argv = file :: Item.written items) ∨
      ∃ text, Refused argv text := by
  cases argv with
  | nil => exact .inr ⟨_, .file (by simp)⟩
  | cons file options =>
    by_cases hfile : NamesFile file
    · obtain ⟨items, rest, rfl, hrest⟩ := splits (ofFile file) options
      rcases hrest with rfl | ⟨text, h⟩
      · exact .inl ⟨file, items, hfile, by rw [List.append_nil]⟩
      · exact .inr ⟨text, .option hfile h⟩
    · refine .inr ⟨_, .file fun file' hfile' => ?_⟩
      rwa [← Option.some.inj hfile']

/-- Arguments are read exactly where they are a file and items, as what these ask for; any
others are refused, with the message about the first of them that is at fault. -/
theorem parse_accepts_items (argv : List String) :
    (∀ a, parse argv = .ok a ↔
      ∃ file items, NamesFile file ∧ argv = file :: Item.written items ∧
        a = ofItems file items) ∧
    ∀ text, (∃ fault, parse argv = .error fault ∧ fault.message = text) ↔ Refused argv text := by
  rcases written_or_refused argv with ⟨file, items, hfile, rfl⟩ | ⟨message, hrefused⟩
  · have hparse := parse_written hfile items
    refine ⟨fun a => ⟨fun h => ?_, ?_⟩, fun text => ⟨?_, exists_fault_of_refused⟩⟩
    · exact ⟨file, items, hfile, rfl, Except.ok.inj (h.symm.trans hparse)⟩
    · rintro ⟨file', items', hfile', hargv, rfl⟩
      rw [hargv, parse_written hfile']
    · rintro ⟨fault, hfault, -⟩
      cases hparse.symm.trans hfault
  · obtain ⟨fault, hfault, hmessage⟩ := exists_fault_of_refused hrefused
    refine ⟨fun a => ⟨fun h => ?_, ?_⟩, fun text => ⟨?_, exists_fault_of_refused⟩⟩
    · cases hfault.symm.trans h
    · rintro ⟨file, items, hfile, rfl, rfl⟩
      exact parse_written hfile items
    · rintro ⟨fault', hfault', rfl⟩
      rwa [← Except.error.inj (hfault.symm.trans hfault'), hmessage]

end Arguments
end CommandLine
end Rollout
