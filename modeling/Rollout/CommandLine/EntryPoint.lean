import Rollout.Source.FileUrl

/-
Whether a program was started as itself: whether the path that was run is that of the
module at a URL, if need be after both are resolved to the one path of their place.
-/
namespace Rollout
namespace CommandLine

/-- Compares a module and the path that was run. Without such a path the module is not
looked at, and places that do not exist are never the same. -/
def isEntryPoint (resolve : String → Option String) (moduleUrl : String)
    (executed : Option String) : Except Source.UrlFault Bool :=
  match executed with
  | none => .ok false
  | some path =>
    if path.isEmpty then .ok false
    else
      (Source.FileUrl.path moduleUrl).map fun modulePath =>
        modulePath = path
          || ((resolve modulePath).isSome && resolve modulePath = resolve path)

end CommandLine
end Rollout
