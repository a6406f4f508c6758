import Rollout.Text.CaseTable

/-
Lower-casing of whole texts. Every character but one lowers by itself; a capital
sigma lowers to its final form where a word ends.
-/
namespace Rollout
namespace Text

def isCased (c : Char) : Bool := casedRanges.any (·.holds c.toNat)

def isCaseIgnorable (c : Char) : Bool := caseIgnorableRanges.any (·.holds c.toNat)

/-- The lower case of a character outside any word. A capital I with a dot becomes
two characters; every other capital becomes one. -/
def lowerChar (c : Char) : List Char :=
  if c.toNat = 0x130 then ['i', Char.ofNat 0x307]
  else
    match caseRuns.find? (·.holds c.toNat) with
    | some run => [Char.ofNat (Int.toNat (Int.ofNat c.toNat + run.shift))]
    | none => [c]

/-- Whether the next character that is not looked through is a cased letter. -/
def casedFollows (rest : List Char) : Bool :=
  match rest.dropWhile isCaseIgnorable with
  | c :: _ => isCased c
  | [] => false

/-- Lowers the rest of a text. `inWord` tells whether a cased letter stands before
it, with nothing but looked-through characters in between. -/
def lowerFrom (inWord : Bool) : List Char → List Char
  | [] => []
  | c :: rest =>
    let lowered :=
      if c.toNat = 0x3A3 && inWord && !casedFollows rest then [Char.ofNat 0x3C2]
      else lowerChar c
    let inWord' := if isCaseIgnorable c then inWord else isCased c
    lowered ++ lowerFrom inWord' rest

def lowerCase (s : String) : String := String.ofList (lowerFrom false s.toList)

end Text
end Rollout
