import Rollout.Number.Decimal
import Rollout.Record
import Rollout.Text.Blank
import Rollout.Text.LowerCase

/-
Settings from environment variables. A blank value counts as unset, and so does a value
that a reader does not understand: every reader then gives nothing, and its caller
falls back on a default.
-/
namespace Rollout
namespace Settings

/-- The variables that are set, with their values. -/
abbrev Environment := Record String

/-- The value of a variable without the blanks around it, unless nothing is left. -/
def trimmed (raw : Option String) : Option String :=
  raw.bind fun s => if (Text.trim s).isEmpty then none else some (Text.trim s)

def trueWords : List String := ["1", "true", "yes", "on"]

def falseWords : List String := ["0", "false", "no", "off"]

/-- A truth value, written as one of the accepted words in any case. -/
def readFlag (raw : Option String) : Option Bool :=
  (trimmed raw).bind fun s =>
    let lower := Text.lowerCase s
    if trueWords.contains lower then some true
    else if falseWords.contains lower then some false
    else none

/-- Bounds of a number, both included. -/
structure Bounds where
  least : Option Number
  greatest : Option Number

def Bounds.open : Bounds := ⟨none, none⟩

/-- Whether a number is finite and within bounds. -/
def Bounds.hold (b : Bounds) (n : Number) : Bool :=
  n.isFinite && b.least.all (fun least => !n.lt least)
    && b.greatest.all fun greatest => !greatest.lt n

/-- A finite number within bounds, written as a decimal literal in full. -/
def readNumber (b : Bounds) (raw : Option String) : Option Number :=
  ((trimmed raw).bind Decimal.readLiteral).filter b.hold

/-- One of the allowed choices, written in any case. Of choices that differ only in
case the last one is meant. -/
def readChoice {α : Type} (word : α → String) (allowed : List α) (raw : Option String) :
    Option α :=
  (trimmed raw).bind fun s =>
    allowed.reverse.find? fun a => Text.lowerCase (word a) = Text.lowerCase s

end Settings
end Rollout
