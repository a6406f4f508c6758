import Rollout.Json.Basic

/-
Issues of a payload: where in it something is wrong and what. A payload that is
refused has at least one issue, and all of them are reported, in the order of the
schema.
-/
namespace Rollout
namespace Schema

/-- One step into a payload. -/
inductive Step where
  | key (name : String)
  | item (index : Nat)
  deriving DecidableEq

def Step.text : Step → String
  | .key name => name
  | .item index => toString index

inductive Cause where
  /-- The value is missing. -/
  | required
  | wrongType (expected received : String)
  /-- The text is none of the words allowed here. -/
  | notAllowed (allowed : List String) (received : String)
  /-- The value is no text, where one of the words is asked for. -/
  | noWord (allowed : List String) (received : String)
  /-- The kind is none of those known. -/
  | unknownKind (known : List String)
  /-- The value fits no form of a field that has several. -/
  | noForm
  | notWhole
  | below (least : Nat)
  | notPositive
  | above (greatest : Nat)
  | emptyText
  deriving DecidableEq

/-- The words as messages list them. -/
def listed (allowed : List String) : String :=
  String.intercalate " | " (allowed.map fun w => "'" ++ w ++ "'")

def Cause.text : Cause → String
  | .required => "Required"
  | .wrongType expected received => "Expected " ++ expected ++ ", received " ++ received
  | .notAllowed allowed received =>
    "Invalid enum value. Expected " ++ listed allowed ++ ", received '" ++ received ++ "'"
  | .noWord allowed received => "Expected " ++ listed allowed ++ ", received " ++ received
  | .unknownKind known => "Invalid discriminator value. Expected " ++ listed known
  | .noForm => "Invalid input"
  | .notWhole => "Expected integer, received float"
  | .below least => "Number must be greater than or equal to " ++ toString least
  | .notPositive => "Number must be greater than 0"
  | .above greatest => "Number must be less than or equal to " ++ toString greatest
  | .emptyText => "String must contain at least 1 character(s)"

/-- Whether the value has the right type and only lies outside the range. -/
def Cause.isRange : Cause → Bool
  | .notWhole | .below _ | .notPositive | .above _ | .emptyText => true
  | _ => false

structure Issue where
  path : List Step
  cause : Cause
  deriving DecidableEq

def Issue.text (i : Issue) : String :=
  let path := String.intercalate "." (i.path.map Step.text)
  (if path.isEmpty then "<root>" else path) ++ ": " ++ i.cause.text

/-- The issue seen from one step further out. -/
def Issue.under (s : Step) (i : Issue) : Issue := ⟨s :: i.path, i.cause⟩

/-- One issue or more. -/
structure Issues where
  first : Issue
  more : List Issue
  deriving DecidableEq

namespace Issues

def toList (is : Issues) : List Issue := is.first :: is.more

def single (c : Cause) : Issues := ⟨⟨[], c⟩, []⟩

def append (a b : Issues) : Issues := ⟨a.first, a.more ++ b.toList⟩

def under (s : Step) (is : Issues) : Issues := ⟨is.first.under s, is.more.map (Issue.under s)⟩

/-- The reason a payload is refused, all its issues in one line. -/
def text (is : Issues) : String := String.intercalate "; " (is.toList.map Issue.text)

end Issues
end Schema
end Rollout
