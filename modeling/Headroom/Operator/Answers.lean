import Headroom.Schema.Node

/-!
# Answers as an operator sees them

The documents that an operator sends and receives.  Categories, stages and
conditions are plain words here, so that an operator can show what a service of
another version says.  Every answer is written back with the members it was read
from.
-/

namespace Headroom.Operator

/-- One node among many. -/
structure NodeSummary where
  id : String
  name : String
  scores : Scores Float
  category : String

/-- Everything about one node. -/
structure NodeDetail where
  id : String
  name : String
  scores : Scores Float
  category : String
  lifecycle : String
  stale : Bool
  createdAt : Int64
  lastUpdated : Int64
  lastSampleAt : Option Int64
  sampleCount : UInt64
  usage : Usage Float
  container : Option Container

/-- One container among many. -/
structure ContainerSummary where
  id : String
  name : String
  image : String
  state : String
  ports : Dictionary String (List String)
  cpuUsage : Float
  memoryUsage : Float
  uptime : String

/-- A change of category. -/
structure CategoryChange where
  id : String
  source : String
  target : String
  triggeringScore : Option Float
  timestamp : Int64

/-- A request to track a node. -/
structure NewNode where
  id : String
  name : Option String
  container : Option Container

/-- What a decommission led to. -/
structure Decommissioned where
  id : String
  category : String
  transition : Option CategoryChange

/-- The figures of a service. -/
structure Figures where
  nodesTracked : UInt64
  capacity : Option UInt64
  samplesAccepted : UInt64
  samplesRejected : Dictionary String UInt64
  transitions : UInt64
  nodesCollected : UInt64
  staleNodes : UInt64
  nodesByCategory : Dictionary String UInt64

/-- The health of one component. -/
structure ComponentHealth where
  status : String
  message : Option String
  checkedAt : Int64

/-- The health of a service. -/
structure ServiceHealth where
  status : String
  components : Dictionary String ComponentHealth

/-- Why a service refused. -/
structure Complaint where
  error : String
  code : String

namespace NodeSummary

def toJson (node : NodeSummary) : Json :=
  .object [("id", .string node.id), ("name", .string node.name),
    ("cpu_score", .float node.scores.cpu), ("memory_score", .float node.scores.memory),
    ("network_score", .float node.scores.network),
    ("availability_score", .float node.scores.availability),
    ("overall_score", .float node.scores.overall),
    ("utilization_category", .string node.category)]

/-- A summary of the values in the order in which they are written. -/
def of (id name : String) (cpu memory network availability overall : Float)
    (category : String) : NodeSummary :=
  ⟨id, name, ⟨cpu, memory, network, availability, overall⟩, category⟩

def reader : Reader NodeSummary :=
  (RecordReader.nothing of
    |>.field (.required "id" Reader.string)
    |>.field (.required "name" Reader.string)
    |>.field (.required "cpu_score" Reader.float)
    |>.field (.required "memory_score" Reader.float)
    |>.field (.required "network_score" Reader.float)
    |>.field (.required "availability_score" Reader.float)
    |>.field (.required "overall_score" Reader.float)
    |>.field (.required "utilization_category" Reader.string)).read

end NodeSummary

namespace NodeDetail

def toJson (node : NodeDetail) : Json :=
  .object ([("node_id", .string node.id), ("name", .string node.name),
    ("scores", node.scores.toJson), ("category", .string node.category),
    ("lifecycle", .string node.lifecycle), ("stale", .bool node.stale),
    ("created_at", .time node.createdAt), ("last_updated", .time node.lastUpdated),
    ("last_sample_at", .nullable .time node.lastSampleAt),
    ("sample_count", .natural node.sampleCount), ("usage", node.usage.toJson)] ++
    Json.given "container" Container.toJson node.container)

def reader : Reader NodeDetail :=
  (RecordReader.nothing NodeDetail.mk
    |>.field (.required "node_id" Reader.string)
    |>.field (.required "name" Reader.string)
    |>.field (.required "scores" Scores.reader)
    |>.field (.required "category" Reader.string)
    |>.field (.required "lifecycle" Reader.string)
    |>.field (.withDefault "stale" Reader.bool false)
    |>.field (.required "created_at" Reader.int64)
    |>.field (.required "last_updated" Reader.int64)
    |>.field (.optional "last_sample_at" Reader.int64)
    |>.field (.withDefault "sample_count" Reader.uint64 0)
    |>.field (.withDefault "usage" Usage.reader Usage.none)
    |>.field (.optional "container" Container.reader)).read

end NodeDetail

namespace ContainerSummary

def toJson (container : ContainerSummary) : Json :=
  .object [("id", .string container.id), ("name", .string container.name),
    ("image", .string container.image), ("state", .string container.state),
    ("ports", .ofDictionary .texts container.ports), ("cpu_usage", .float container.cpuUsage),
    ("memory_usage", .float container.memoryUsage), ("uptime", .string container.uptime)]

def reader : Reader ContainerSummary :=
  (RecordReader.nothing ContainerSummary.mk
    |>.field (.required "id" Reader.string)
    |>.field (.required "name" Reader.string)
    |>.field (.required "image" Reader.string)
    |>.field (.required "state" Reader.string)
    |>.field (.required "ports" (Reader.textDictionary (Reader.list Reader.string)))
    |>.field (.required "cpu_usage" Reader.float)
    |>.field (.required "memory_usage" Reader.float)
    |>.field (.required "uptime" Reader.string)).read

end ContainerSummary

namespace CategoryChange

def toJson (change : CategoryChange) : Json :=
  .object [("node_id", .string change.id), ("from", .string change.source),
    ("to", .string change.target),
    ("triggering_score", .nullable .float change.triggeringScore),
    ("timestamp", .time change.timestamp)]

def reader : Reader CategoryChange :=
  (RecordReader.nothing CategoryChange.mk
    |>.field (.required "node_id" Reader.string)
    |>.field (.required "from" Reader.string)
    |>.field (.required "to" Reader.string)
    |>.field (.nullable "triggering_score" Reader.float)
    |>.field (.required "timestamp" Reader.int64)).read

end CategoryChange

namespace NewNode

def toJson (request : NewNode) : Json :=
  .object ([("node_id", .string request.id)] ++ Json.given "name" .string request.name ++
    Json.given "container" Container.toJson request.container)

end NewNode

namespace Decommissioned

def toJson (answer : Decommissioned) : Json :=
  .object ([("node_id", .string answer.id), ("category", .string answer.category)] ++
    Json.given "transition" CategoryChange.toJson answer.transition)

def reader : Reader Decommissioned :=
  (RecordReader.nothing Decommissioned.mk
    |>.field (.required "node_id" Reader.string)
    |>.field (.required "category" Reader.string)
    |>.field (.optional "transition" CategoryChange.reader)).read

end Decommissioned

namespace Figures

def toJson (figures : Figures) : Json :=
  .object [("nodes_tracked", .natural figures.nodesTracked),
    ("capacity", .nullable .natural figures.capacity),
    ("samples_accepted", .natural figures.samplesAccepted),
    ("samples_rejected", .ofDictionary .natural figures.samplesRejected),
    ("transitions", .natural figures.transitions),
    ("nodes_collected", .natural figures.nodesCollected),
    ("stale_nodes", .natural figures.staleNodes),
    ("nodes_by_category", .ofDictionary .natural figures.nodesByCategory)]

def reader : Reader Figures :=
  (RecordReader.nothing Figures.mk
    |>.field (.required "nodes_tracked" Reader.uint64)
    |>.field (.nullable "capacity" Reader.uint64)
    |>.field (.required "samples_accepted" Reader.uint64)
    |>.field (.required "samples_rejected" (Reader.textDictionary Reader.uint64))
    |>.field (.required "transitions" Reader.uint64)
    |>.field (.required "nodes_collected" Reader.uint64)
    |>.field (.required "stale_nodes" Reader.uint64)
    |>.field (.required "nodes_by_category" (Reader.textDictionary Reader.uint64))).read

end Figures

namespace ComponentHealth

def toJson (component : ComponentHealth) : Json :=
  .object ([("status", .string component.status)] ++
    Json.given "message" .string component.message ++
    [("last_check_timestamp", .time component.checkedAt)])

def reader : Reader ComponentHealth :=
  (RecordReader.nothing ComponentHealth.mk
    |>.field (.required "status" Reader.string)
    |>.field (.optional "message" Reader.string)
    |>.field (.required "last_check_timestamp" Reader.int64)).read

end ComponentHealth

namespace ServiceHealth

def toJson (health : ServiceHealth) : Json :=
  .object [("status", .string health.status),
    ("components", .ofDictionary ComponentHealth.toJson health.components)]

def reader : Reader ServiceHealth :=
  (RecordReader.nothing ServiceHealth.mk
    |>.field (.required "status" Reader.string)
    |>.field (.required "components" (Reader.textDictionary ComponentHealth.reader))).read

end ServiceHealth

namespace Complaint

def toJson (complaint : Complaint) : Json :=
  .object [("error", .string complaint.error), ("code", .string complaint.code)]

def reader : Reader Complaint :=
  (RecordReader.nothing Complaint.mk
    |>.field (.required "error" Reader.string)
    |>.field (.required "code" Reader.string)).read

end Complaint

end Headroom.Operator
