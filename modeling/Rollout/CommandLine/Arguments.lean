import Rollout.Catalog.Words

/-
Arguments of the command line: the path of a topology file, then options in any order.
Of options that exclude each other the last one counts.
-/
namespace Rollout
namespace CommandLine

/-- What is asked for. -/
inductive Mode where
  | plan | order | validate
  deriving DecidableEq

instance : Worded Mode where
  members := [.plan, .order, .validate]
  word
    | .plan => "plan"
    | .order => "order"
    | .validate => "validate"

/-- The form of the answer. -/
inductive Format where
  | text | json
  deriving DecidableEq

instance : Worded Format where
  members := [.text, .json]
  word
    | .text => "text"
    | .json => "json"

structure Arguments where
  file : String
  format : Format
  mode : Mode
  /-- Whether a record that cannot be read is a fault. -/
  strict : Bool
  deriving DecidableEq

inductive ArgumentFault where
  | noFile
  | badFormat
  | unknown (token : String)
  deriving DecidableEq

def ArgumentFault.message : ArgumentFault → String
  | .noFile => "First positional argument must be the path to a topology file"
  | .badFormat => "--format must be 'json' or 'text'"
  | .unknown token => "Unknown argument '" ++ token ++ "'"

namespace Arguments

/-- Plans of a file as text. -/
def ofFile (file : String) : Arguments := ⟨file, .text, .plan, false⟩

/-- Whether an argument looks like an option. -/
def looksLikeOption (token : String) : Bool := ['-', '-'].isPrefixOf token.toList

/-- Applies options from left to right. -/
def withOptions (a : Arguments) : List String → Except ArgumentFault Arguments
  | [] => .ok a
  | token :: rest =>
    if token = "--format" then
      match rest with
      | [] => .error .badFormat
      | word :: rest' =>
        match (Worded.ofWord? word : Option Format) with
        | some format => withOptions { a with format } rest'
        | none => .error .badFormat
    else if token = "--order-only" then withOptions { a with mode := .order } rest
    else if token = "--validate-only" then withOptions { a with mode := .validate } rest
    else if token = "--strict" then withOptions { a with strict := true } rest
    else .error (.unknown token)

def parse : List String → Except ArgumentFault Arguments
  | [] => .error .noFile
  | file :: options =>
    if file.isEmpty || looksLikeOption file then .error .noFile
    else withOptions (.ofFile file) options

end Arguments
end CommandLine
end Rollout
