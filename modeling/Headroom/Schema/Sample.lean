import Headroom.Json.Reader
import Headroom.Json.Writer
import Headroom.Sample

/-!
# Documents of readings and samples

How containers, readings and samples are written and read.  Fields are written in
declaration order; an absent optional field is left out.
-/

namespace Headroom

namespace Container

def unknown : Container := ⟨"", "", .empty, none⟩

def toJson (container : Container) : Json :=
  .object ([("image", .string container.image), ("state", .string container.state),
    ("ports", .ofDictionary .texts container.ports)] ++
    Json.given "started_at" .time container.startedAt)

def reader : Reader Container :=
  (RecordReader.nothing Container.mk
    |>.field (.withDefault "image" Reader.string "")
    |>.field (.withDefault "state" Reader.string "")
    |>.field (.withDefault "ports" (Reader.textDictionary (Reader.list Reader.string)) .empty)
    |>.field (.optional "started_at" Reader.int64)).read

end Container

namespace Reading

def toJson (reading : Reading Float) : Json :=
  .object ([("node_id", .string reading.id)] ++ Json.given "name" .string reading.name ++
    Json.given "timestamp" .time reading.timestamp ++
    [("cpu_load", .float reading.cpuLoad), ("memory_used", .float reading.memoryUsed),
      ("memory_total", .float reading.memoryTotal),
      ("network_latency_ms", .float reading.networkLatency),
      ("network_throughput", .float reading.networkThroughput),
      ("heartbeat_success_rate", .float reading.heartbeatRate)] ++
    Json.given "container" Container.toJson reading.container)

def reader : Reader (Reading Float) :=
  (RecordReader.nothing (Reading.mk (α := Float))
    |>.field (.required "node_id" Reader.string)
    |>.field (.optional "name" Reader.string)
    |>.field (.optional "timestamp" Reader.int64)
    |>.field (.required "cpu_load" Reader.float)
    |>.field (.required "memory_used" Reader.float)
    |>.field (.required "memory_total" Reader.float)
    |>.field (.required "network_latency_ms" Reader.float)
    |>.field (.required "network_throughput" Reader.float)
    |>.field (.required "heartbeat_success_rate" Reader.float)
    |>.field (.optional "container" Container.reader)).read

end Reading

namespace Sample

def toJson (sample : Sample Float) : Json :=
  .object [("timestamp", .time sample.timestamp), ("cpu_load", .float sample.cpuLoad),
    ("memory_used", .float sample.memoryUsed), ("memory_total", .float sample.memoryTotal),
    ("network_latency_ms", .float sample.networkLatency),
    ("network_throughput", .float sample.networkThroughput),
    ("heartbeat_success_rate", .float sample.heartbeatRate)]

def reader : Reader (Sample Float) :=
  (RecordReader.nothing (Sample.mk (α := Float))
    |>.field (.required "timestamp" Reader.int64)
    |>.field (.required "cpu_load" Reader.float)
    |>.field (.required "memory_used" Reader.float)
    |>.field (.required "memory_total" Reader.float)
    |>.field (.required "network_latency_ms" Reader.float)
    |>.field (.required "network_throughput" Reader.float)
    |>.field (.required "heartbeat_success_rate" Reader.float)).read

end Sample

end Headroom
