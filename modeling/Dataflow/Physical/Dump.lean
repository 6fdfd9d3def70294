import Dataflow.Physical.Basic
import Dataflow.Text.Document

namespace Dataflow

/-!
# Dumps of physical plans

The document form of a physical plan and of the properties and strategies in it.
-/

open Text (Document)

namespace SortOrder

/-- A sort order as a document. -/
def toDocument (order : SortOrder) : Document :=
  let column (column : SortColumn) : Document :=
    .record
      [("field", .natural column.field),
        ("order", .text (if column.direction = .ascending then "Ascending" else "Descending"))]
  .record [("orders", .list (order.columns.map column))]

end SortOrder

namespace FieldList

/-- A field list as a document. -/
def toDocument (fields : FieldList) : Document := .list (fields.map .natural)

end FieldList

namespace FieldSet

/-- A field set as a document. -/
def toDocument (fields : FieldSet) : Document := fields.toFieldList.toDocument

end FieldSet

namespace FieldSets

/-- A collection of field sets as a document. -/
def toDocument (sets : FieldSets) : Document := .list (sets.toList.map FieldSet.toDocument)

end FieldSets

namespace Histogram

/-- A histogram as a document. -/
def toDocument (histogram : Histogram) : Document :=
  .record [("name", .text histogram.name), ("num_buckets", .natural histogram.buckets)]

end Histogram

/-- A range partitioning, or shipping that establishes it, under its name. -/
def rangeDocument (name : String) (order : SortOrder) (histogram : Option Histogram) : Document :=
  .record
    [(name, .record
      [("ordering", order.toDocument),
        ("distribution", .ofOption Histogram.toDocument histogram)])]

namespace Partitioning

/-- The name of the kind of partitioning. -/
def kindName : Partitioning → String
  | .random => "Random"
  | .hash _ => "HashPartitioned"
  | .range _ _ => "RangePartitioned"
  | .replicated => "FullyReplicated"
  | .any _ => "AnyPartitioning"

/-- A partitioning as a document. -/
def toDocument (partitioning : Partitioning) : Document :=
  match partitioning with
  | .hash fields => .record [(partitioning.kindName, fields.toDocument)]
  | .any fields => .record [(partitioning.kindName, fields.toDocument)]
  | .range order histogram => rangeDocument partitioning.kindName order histogram
  | _ => .text partitioning.kindName

end Partitioning

namespace GlobalProperties

/-- Global properties as a document. -/
def toDocument (properties : GlobalProperties) : Document :=
  .record
    [("partitioning", properties.partitioning.toDocument),
      ("unique_field_combinations", properties.uniqueSets.toDocument)]

end GlobalProperties

namespace LocalProperties

/-- Local properties as a document. -/
def toDocument (properties : LocalProperties) : Document :=
  .record
    [("ordering", .ofOption SortOrder.toDocument properties.order),
      ("grouped_fields", .ofOption FieldSet.toDocument properties.grouped),
      ("unique_fields", properties.uniqueSets.toDocument)]

end LocalProperties

namespace ShipStrategy

/-- A ship strategy as a document. -/
def toDocument (strategy : ShipStrategy) : Document :=
  match strategy with
  | .partitionHash fields => .record [(strategy.kind.name, fields.toDocument)]
  | .partitionRange order histogram => rangeDocument strategy.kind.name order histogram
  | _ => .text strategy.kind.name

end ShipStrategy

namespace LocalStrategy

/-- A local strategy as a document. -/
def toDocument : LocalStrategy → Document
  | .none => .text "None"
  | .sort order => .record [("Sort", order.toDocument)]
  | .combiningSort order => .record [("CombiningSort", order.toDocument)]

end LocalStrategy

namespace Estimate

/-- An estimate as a document. -/
def toDocument : Estimate Float → Document
  | .unknown => .text "Unknown"
  | .known value => .record [("Known", .double value)]

end Estimate

namespace Cost

/-- A cost as a document. -/
def toDocument (cost : Cost Float) : Document :=
  .record
    [("network", .double cost.network), ("disk", .double cost.disk), ("cpu", .double cost.cpu)]

end Cost

namespace PhysicalChannel

/-- A channel as a document. -/
def toDocument (channel : PhysicalChannel Float) : Document :=
  .record
    [("source", .natural channel.source),
      ("ship_strategy", channel.ship.toDocument),
      ("local_strategy", channel.preparation.toDocument),
      ("replication_factor", .natural channel.replication),
      ("cost", channel.cost.toDocument)]

end PhysicalChannel

namespace PhysicalNode

/-- A node as a document. -/
def toDocument (node : PhysicalNode Float) : Document :=
  .record
    [("id", .natural node.identifier),
      ("name", .text node.name),
      ("operator", .text node.operator),
      ("driver", .text node.driver.kind.name),
      ("parallelism", .natural node.parallelism),
      ("global_props", node.globally.toDocument),
      ("local_props", node.locally.toDocument),
      ("statistics", .record
        [("records", node.statistics.records.toDocument),
          ("bytes", node.statistics.bytes.toDocument)]),
      ("node_cost", node.nodeCost.toDocument),
      ("cumulative_cost", node.cumulativeCost.toDocument),
      ("inputs", .list (node.inputs.map PhysicalChannel.toDocument))]

end PhysicalNode

namespace PhysicalPlan

/-- A physical plan as a document. -/
def toDocument (plan : PhysicalPlan Float) : Document :=
  .record
    [("job_name", .text plan.job.name),
      ("nodes", .list (plan.nodes.map PhysicalNode.toDocument)),
      ("sinks", .list (plan.sinks.map .natural)),
      ("max_machines", .ofOption .natural plan.job.maxMachines),
      ("cache_files", .record
        (plan.job.cacheFiles.entries.map fun file => (file.1, .text file.2)))]

end PhysicalPlan

end Dataflow
