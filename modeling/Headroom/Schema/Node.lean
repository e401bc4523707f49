import Headroom.Schema.Sample
import Headroom.Snapshot
import Headroom.Transition

/-!
# Documents of nodes and snapshots

How records, transitions, snapshots and their views are written and read.
-/

namespace Headroom

namespace Category

def toJson (category : Category) : Json := .string category.word

def reader : Reader Category := Reader.word ofWord?

/-- Reads a category from a value that was put aside. -/
def readerAside : Reader Category := Reader.wordAside ofWord?

end Category

namespace Lifecycle

def toJson (stage : Lifecycle) : Json := .string stage.word

def reader : Reader Lifecycle := Reader.word ofWord?

end Lifecycle

namespace Scores

def toJson (scores : Scores Float) : Json :=
  .object [("cpu_score", .float scores.cpu), ("memory_score", .float scores.memory),
    ("network_score", .float scores.network), ("availability_score", .float scores.availability),
    ("overall_score", .float scores.overall)]

def reader : Reader (Scores Float) :=
  (RecordReader.nothing (Scores.mk (α := Float))
    |>.field (.required "cpu_score" Reader.float)
    |>.field (.required "memory_score" Reader.float)
    |>.field (.required "network_score" Reader.float)
    |>.field (.required "availability_score" Reader.float)
    |>.field (.required "overall_score" Reader.float)).read

end Scores

namespace Usage

def toJson (usage : Usage Float) : Json :=
  .object [("cpu_percent", .float usage.cpuPercent), ("memory_percent", .float usage.memoryPercent)]

def reader : Reader (Usage Float) :=
  (RecordReader.nothing (Usage.mk (α := Float))
    |>.field (.required "cpu_percent" Reader.float)
    |>.field (.required "memory_percent" Reader.float)).read

end Usage

namespace Node

def toJson (node : Node) : Json :=
  .object ([("node_id", .string node.id), ("name", .string node.name),
    ("scores", node.scores.toJson), ("category", node.category.toJson),
    ("lifecycle", node.lifecycle.toJson), ("stale", .bool node.stale),
    ("created_at", .time node.createdAt), ("last_updated", .time node.lastUpdated),
    ("last_sample_at", .nullable .time node.lastSampleAt),
    ("sample_count", .natural node.sampleCount), ("usage", node.usage.toJson)] ++
    Json.given "container" Container.toJson node.container)

def reader : Reader Node :=
  (RecordReader.nothing Node.mk
    |>.field (.required "node_id" Reader.string)
    |>.field (.required "name" Reader.string)
    |>.field (.required "scores" Scores.reader)
    |>.field (.required "category" Category.reader)
    |>.field (.required "lifecycle" Lifecycle.reader)
    |>.field (.withDefault "stale" Reader.bool false)
    |>.field (.required "created_at" Reader.int64)
    |>.field (.required "last_updated" Reader.int64)
    |>.field (.optional "last_sample_at" Reader.int64)
    |>.field (.withDefault "sample_count" Reader.uint64 0)
    |>.field (.withDefault "usage" Usage.reader Usage.none)
    |>.field (.optional "container" Container.reader)).read

end Node

namespace Transition

def toJson (transition : Transition) : Json :=
  .object [("node_id", .string transition.id), ("from", transition.source.toJson),
    ("to", transition.target.toJson),
    ("triggering_score", .nullable .float transition.triggeringScore),
    ("timestamp", .time transition.timestamp)]

/-- Reads a transition whose categories are read in a given way. -/
def readerBy (category : Reader Category) : Reader Transition :=
  (RecordReader.nothing Transition.mk
    |>.field (.required "node_id" Reader.string)
    |>.field (.required "from" category)
    |>.field (.required "to" category)
    |>.field (.nullable "triggering_score" Reader.float)
    |>.field (.required "timestamp" Reader.int64)).read

def reader : Reader Transition := readerBy Category.reader

end Transition

namespace Snapshot

def toJson (snapshot : Snapshot) : Json :=
  .object [("taken_at", .time snapshot.takenAt), ("nodes", .list Node.toJson snapshot.nodes)]

def reader : Reader Snapshot :=
  (RecordReader.nothing Snapshot.mk
    |>.field (.required "taken_at" Reader.int64)
    |>.field (.required "nodes" (Reader.list Node.reader))).read

end Snapshot

namespace ScoredView

/-- Writes the view of a node for a balancer. -/
def toJson (view : ScoredView) : Json :=
  .object [("id", .string view.id), ("name", .string view.name),
    ("cpu_score", .float view.scores.cpu), ("memory_score", .float view.scores.memory),
    ("network_score", .float view.scores.network),
    ("availability_score", .float view.scores.availability),
    ("overall_score", .float view.scores.overall),
    ("utilization_category", view.category.toJson)]

end ScoredView

namespace ContainerView

/-- Writes the view of a node for a container host. -/
def toJson (view : ContainerView) : Json :=
  .object [("id", .string view.id), ("name", .string view.name), ("image", .string view.image),
    ("state", .string view.state), ("ports", .ofDictionary .texts view.ports),
    ("cpu_usage", .float view.usage.cpuPercent), ("memory_usage", .float view.usage.memoryPercent),
    ("uptime", .string view.uptime)]

end ContainerView

end Headroom
