import Headroom.Operator.Answers
import Headroom.Operator.Style
import Headroom.Operator.Table

/-!
# Reports

How answers are shown to an operator who reads them: lists as tables, one node and
the status of a service under a heading, and what was done in one line.
-/

namespace Headroom.Operator.Report

def line (text : String) : String := text ++ "\n"

def table (header : List String) (rows : List (List String)) : String :=
  line (Table.render header rows)

def heading (style : Style) (title : String) : String :=
  line (style.bold title) ++ line (String.ofList (List.replicate 60 '='))

/-- What stands for a value that is not known. -/
def unknown : String := "-"

def count (value : UInt64) : String := Decimal.integer value.toNat

def nodes (style : Style) (nodes : List NodeSummary) : String :=
  if nodes.isEmpty then style.warning "No nodes found"
  else
    table ["Node", "CPU", "Memory", "Network", "Avail", "Overall", "Category"]
      (nodes.map fun node =>
        [node.id, scoreText node.scores.cpu, scoreText node.scores.memory,
          scoreText node.scores.network, scoreText node.scores.availability,
          scoreText node.scores.overall, style.category node.category]) ++
      line ("\nTotal: " ++ Decimal.integer nodes.length ++ " nodes")

/-- The fields of a node with their values. -/
def nodeFields (style : Style) (node : NodeDetail) : List (List String) :=
  [["Category", style.category node.category],
    ["Lifecycle", style.state node.lifecycle],
    ["Overall score", scoreText node.scores.overall],
    ["CPU score", scoreText node.scores.cpu],
    ["Memory score", scoreText node.scores.memory],
    ["Network score", scoreText node.scores.network],
    ["Availability score", scoreText node.scores.availability],
    ["CPU usage", percentText node.usage.cpuPercent],
    ["Memory usage", percentText node.usage.memoryPercent],
    ["Samples", count node.sampleCount],
    ["Created", Calendar.timeText node.createdAt],
    ["Last updated", Calendar.timeText node.lastUpdated],
    ["Last sample", (node.lastSampleAt.map Calendar.timeText).getD unknown]] ++
  match node.container with
  | some container => [["Image", container.image], ["State", style.state container.state]]
  | none => []

def node (style : Style) (node : NodeDetail) : String :=
  heading style "Node" ++
  line ("ID:   " ++ style.paint .cyan node.id) ++
  line ("Name: " ++ style.paint .cyan node.name) ++
  line "" ++
  table ["Field", "Value"] (nodeFields style node) ++
  if node.stale then style.warning "Node has stopped reporting samples" else ""

/-- The ports of a container, each with what it is bound to. -/
def ports (ports : Dictionary String (List String)) : String :=
  String.intercalate " " (ports.entries.map fun (name, bindings) =>
    if bindings.isEmpty then name else String.intercalate "," bindings ++ "->" ++ name)

def containers (style : Style) (containers : List ContainerSummary) : String :=
  if containers.isEmpty then style.warning "No containers found"
  else
    table ["Node", "Image", "State", "Ports", "CPU", "Memory", "Uptime"]
      (containers.map fun container =>
        [container.id, if container.image.isEmpty then unknown else container.image,
          style.state container.state, ports container.ports, percentText container.cpuUsage,
          percentText container.memoryUsage, container.uptime])

def transitions (style : Style) (changes : List CategoryChange) : String :=
  if changes.isEmpty then style.note "No transitions recorded"
  else
    table ["Time", "Node", "From", "To", "Score"]
      (changes.map fun change =>
        [Calendar.timeText change.timestamp, change.id, style.category change.source,
          style.category change.target, (change.triggeringScore.map scoreText).getD unknown])

def registered (style : Style) (node : NodeDetail) : String :=
  style.success ("Node " ++ style.paint .cyan node.id ++ " registered (" ++
    style.category node.category ++ ")")

/-- A node that was decommissioned, or had been before. -/
def decommissioned (style : Style) (answer : Decommissioned) : String :=
  let subject := "Node " ++ style.paint .cyan answer.id
  match answer.transition with
  | some change =>
    style.success (subject ++ " moved " ++ style.category change.source ++ " -> " ++
      style.category change.target)
  | none => style.note (subject ++ " is already " ++ style.category answer.category)

/-- A text with blanks after it up to a number of characters. -/
def padRight (size : Nat) (text : String) : String :=
  text ++ String.ofList (List.replicate (size - text.length) ' ')

/-- The figures of a service, one per line. -/
def figures (figures : Figures) : String :=
  line ("Nodes tracked:    " ++ count figures.nodesTracked ++ " / " ++
    (figures.capacity.map count).getD "unbounded") ++
  line ("Stale nodes:      " ++ count figures.staleNodes) ++
  line ("Samples accepted: " ++ count figures.samplesAccepted) ++
  String.join (figures.samplesRejected.entries.map fun (reason, rejected) =>
    line ("Rejected " ++ padRight 16 (reason ++ ":") ++ " " ++ count rejected)) ++
  line ("Transitions:      " ++ count figures.transitions) ++
  line ("Nodes collected:  " ++ count figures.nodesCollected)

def status (style : Style) (health : ServiceHealth) (known : Figures) : String :=
  heading style "Engine Status" ++
  line ("Health: " ++ style.state health.status) ++
  line "" ++
  table ["Component", "Status", "Message"] (health.components.entries.map fun (name, component) =>
    [name, style.state component.status, component.message.getD ""]) ++
  line "" ++
  figures known ++
  line "" ++
  table ["Category", "Nodes"] (known.nodesByCategory.entries.map fun (category, tracked) =>
    [style.category category, count tracked]) ++
  if 0 < known.staleNodes then
    style.warning (count known.staleNodes ++ " nodes have stopped reporting")
  else ""

end Headroom.Operator.Report
