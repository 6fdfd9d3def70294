import Dataflow.Config
import Dataflow.Text.Yaml.Document
import Dataflow.Text.Yaml.Number

namespace Dataflow

/-!
# Configurations in YAML

A configuration is a mapping from the names of settings.  Missing settings keep their defaults and
unknown names are ignored; a setting that occurs twice or has a value of another kind is refused.
-/

/-- The value of a setting that may be missing but may not be repeated. -/
def setting?
    {Item : Type}
    (settings : List (String × Text.Yaml))
    (name : String)
    (default : Item)
    (read : Text.Yaml → Option Item) :
    Option Item :=
  match settings.filter fun setting => setting.1 == name with
  | [] => some default
  | [setting] => read setting.2
  | _ => none

namespace Weights

/-- Weights from a mapping of their names within a document. -/
def ofYaml? (root value : Text.Yaml) : Option (Weights Float) := do
  let settings ← root.settings? value
  let weights : Weights Float := .default
  return {
    network := ← setting? settings "network" weights.network Text.Yaml.number?
    disk := ← setting? settings "disk" weights.disk Text.Yaml.number?
    cpu := ← setting? settings "cpu" weights.cpu Text.Yaml.number? }

end Weights

namespace Config

/-- The largest number of partitions that can be configured. -/
def maxParallelism : Nat := UInt32.size - 1

/-- The number of partitions of a setting. -/
def parallelism? (value : Text.Yaml) : Option Nat :=
  value.natural?.filter fun count => decide (count ≤ maxParallelism)

/-- A configuration from a text, whether or not its values are valid. -/
def ofYaml? (text : String) : Option (Config Float) := do
  let root ← Text.Yaml.parse? text
  let settings ← root.settings? root
  let config : Config Float := .default
  let costs := config.costs
  return {
    defaultParallelism :=
      ← setting? settings "default_parallelism" config.defaultParallelism parallelism?
    costs := {
      weights := ← setting? settings "cost_weights" costs.weights (Weights.ofYaml? root)
      assumedRecords :=
        ← setting? settings "heuristic_record_count" costs.assumedRecords
          Text.Yaml.number?
      assumedWidth :=
        ← setting? settings "heuristic_record_width" costs.assumedWidth
          Text.Yaml.number? } }

end Config

end Dataflow
