import Headroom.Http.Percent
import Headroom.Log
import Headroom.Log.Verbosity
import Headroom.Text.Alphanumeric
import Headroom.Text.Blank

/-!
# What is shown of the log

A wish is a list of rules with commas between them.  A rule names what it is about, a
target such as a part of the program, a span of work, or a field, and how important a
line has to be: `engine=info`, `warn`, `[request]=debug`, `engine[{node_id}]`.  The
most specific of the rules about a line decides whether it is shown.  A wish with a
malformed rule is no wish.
-/

namespace Headroom

/-- A rule about the lines that are shown. -/
structure LogRule where
  /-- How the names of the parts of the program start that the rule is about. -/
  target : Option String
  /-- The span of work that the rule is about. -/
  span : Option String
  /-- The field that a line has, which may be followed by a value. -/
  field : Option String
  verbosity : Verbosity
  deriving DecidableEq, Repr

namespace LogRule

/-- What is being read within a rule, with the position at which it starts. -/
inductive Reading where
  | beginning
  | word (start : Nat)
  | span (start : Nat)
  | field (start : Nat)
  | fieldEnd
  | bracketEnd
  | level (start : Nat)
  deriving DecidableEq, Repr

def all : LogRule := ⟨none, none, none, .full⟩

/-- The characters of a text between two positions. -/
def slice (text : List Char) (start finish : Nat) : String :=
  String.ofList ((text.drop start).take (finish - start))

/-- Whether a rule can start with a character, other than with a bracket. -/
def isInitial (char : Char) : Bool := "-:_".toList.contains char || Text.isAlphanumeric char

/-- Reads one character of a rule at a position. -/
def step (text : List Char) (rule : LogRule) (reading : Reading) (position : Nat) (char : Char) :
    Option (LogRule × Reading) :=
  match reading, char with
  | .beginning, '[' => some (rule, .span (position + 1))
  | .beginning, _ => if isInitial char then some (rule, .word position) else none
  | .word start, '=' =>
    some ({ rule with target := some (slice text start position) }, .level (position + 1))
  | .word start, '[' =>
    some ({ rule with target := some (slice text start position) }, .span (position + 1))
  | .span start, ']' => some ({ rule with span := some (slice text start position) }, .bracketEnd)
  | .span start, '\x7b' =>
    let name := slice text start position
    some ({ rule with span := if name.isEmpty then none else some name }, .field (position + 1))
  | .field start, '\x7d' =>
    let name := slice text start position
    if name.isEmpty then none else some ({ rule with field := some name }, .fieldEnd)
  | .fieldEnd, ']' => some (rule, .bracketEnd)
  | .fieldEnd, _ => none
  | .bracketEnd, '=' => some (rule, .level (position + 1))
  | .bracketEnd, _ => none
  | _, _ => some (rule, reading)

/-- Reads characters that stand from a position on. -/
def steps (text : List Char) (rule : LogRule) (reading : Reading) (position : Nat) :
    List Char → Option (LogRule × Reading)
  | [] => some (rule, reading)
  | char :: rest =>
    match step text rule reading position char with
    | some (next, after) => steps text next after (position + 1) rest
    | none => none

def withLevel (rule : LogRule) (text : String) : Option LogRule :=
  if text.isEmpty then some { rule with verbosity := .full }
  else (Verbosity.ofText? text).map fun verbosity => { rule with verbosity := verbosity }

/-- The rule that a text stands for.  Blanks around it do not count as characters that are read;
positions nevertheless count in the whole text. -/
def ofText? (text : String) : Option LogRule :=
  let whole := text.toList
  let core := ((whole.dropWhile Text.isBlankChar).reverse.dropWhile Text.isBlankChar).reverse
  match steps whole all .beginning 0 core with
  | none => none
  | some (rule, .word start) =>
    let word := String.ofList (whole.drop start)
    match Verbosity.ofText? word with
    | some verbosity => some { rule with verbosity := verbosity }
    | none => some { rule with target := some word }
  | some (rule, .level start) => rule.withLevel (String.ofList (whole.drop start))
  | some (rule, .bracketEnd) => some rule
  | some _ => none

/-- Whether a rule is only about lines within spans of work, or about values of fields. -/
def isNarrow (rule : LogRule) : Bool :=
  rule.span.isSome || (rule.field.getD "").toList.contains '='

/-- Whether a rule is about a line.  No line of this program stands within a span of work. -/
def covers (rule : LogRule) (line : LogLine) : Bool :=
  !rule.isNarrow &&
    rule.target.all (fun target => target.toList.isPrefixOf line.source.name.toList) &&
    rule.field.all line.hasField

/-- Whether a rule is at least as specific as another one: the longer target counts first, then a
field, then the later field in alphabetical order. -/
def atLeast (rule other : LogRule) : Bool :=
  let weight := fun (rule : LogRule) => rule.target.elim 0 fun target => target.utf8ByteSize + 1
  decide (weight other < weight rule) ||
    (weight other == weight rule &&
      match other.field, rule.field with
      | none, _ => true
      | some _, none => false
      | some earlier, some later => decide (earlier ≤ later))

end LogRule

/-- What is shown of a log. -/
structure LogFilter where
  rules : List LogRule
  deriving DecidableEq, Repr

namespace LogFilter

/-- What is shown without a wish: lines of information and those above. -/
def usual : LogFilter := ⟨[{ LogRule.all with verbosity := .ofLevel .info }]⟩

def ofText? (text : String) : Option LogFilter :=
  let pieces := (Percent.cut ',' text.toList).map String.ofList
  ((pieces.filter fun piece => !piece.isEmpty).mapM LogRule.ofText?).map LogFilter.mk

def ofWish (wish : Option String) : LogFilter := (wish.bind ofText?).getD usual

/-- The rule that decides about a line: the most specific one, and of several such the last. -/
def rule? (filter : LogFilter) (line : LogLine) : Option LogRule :=
  (filter.rules.filter (·.covers line)).foldl
    (fun best rule =>
      match best with
      | some before => if rule.atLeast before then some rule else some before
      | none => some rule)
    none

def shows (filter : LogFilter) (line : LogLine) : Bool :=
  (filter.rule? line).any fun rule => rule.verbosity.shows line.level

end LogFilter

end Headroom
