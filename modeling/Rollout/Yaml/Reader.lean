import Rollout.Yaml.Outline.Build
import Rollout.Yaml.Token.Scan
import Rollout.Yaml.Value

/-
Reading YAML texts: tokens are put together to outlines, outlines to nodes, and the nodes of
the one document to its value.
-/
namespace Rollout
namespace Yaml

/-- The value a YAML text denotes. Nothing is nested more deeply than there are tokens. -/
def read (text : String) : Except Fault Json := do
  let ts ← tokens text.toList
  let depth := ts.length + 2
  (← documentOf depth (← partsOf ts)).value depth

end Yaml
end Rollout
