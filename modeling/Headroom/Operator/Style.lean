import Headroom.Calendar
import Headroom.Decimal.Fixed
import Headroom.Text.Uppercase

/-!
# Styles

How values are shown on a terminal: scores and percentages with fixed places, and
words in colours where colours are wanted.
-/

namespace Headroom.Operator

/-- The colours in use. -/
inductive Colour where
  | red
  | green
  | yellow
  | blue
  | purple
  | cyan
  | grey
  deriving DecidableEq, Repr

def Colour.code : Colour → String
  | red => "31"
  | green => "32"
  | yellow => "33"
  | blue => "34"
  | purple => "35"
  | cyan => "36"
  | grey => "90"

/-- Whether a terminal shows colours. -/
structure Style where
  coloured : Bool
  deriving DecidableEq, Repr

namespace Style

def reset : String := "\x1b[0m"

/-- A text between the start of a style and its end.  Where the text itself ends all
styles, the style is started again. -/
def apply (style : Style) (codes : List String) (text : String) : String :=
  if style.coloured then
    let start := "\x1b[" ++ String.intercalate ";" codes ++ "m"
    start ++ String.intercalate (reset ++ start) (text.splitOn reset) ++ reset
  else text

def paint (style : Style) (colour : Colour) (text : String) : String :=
  style.apply [colour.code] text

def bold (style : Style) (text : String) : String := style.apply ["1"] text

/-- A text in bold and in a colour. -/
def boldPaint (style : Style) (colour : Colour) (text : String) : String :=
  style.apply ["1", colour.code] text

/-- The colour of a category's word in any case. -/
def categoryColour? (word : String) : Option Colour :=
  match Text.upper word with
  | "LU" => some .green
  | "MU" => some .yellow
  | "HU" => some .red
  | "SUNDOWN" => some .purple
  | "INIT" => some .grey
  | _ => none

/-- The colour of the word for a state or condition, in any case. -/
def stateColour? (word : String) : Option Colour :=
  match word.toLower with
  | "healthy" | "running" | "active" => some .green
  | "degraded" | "created" | "init" => some .yellow
  | "unhealthy" | "exited" | "sundown" => some .red
  | _ => none

/-- The word of a category in its colour. -/
def category (style : Style) (word : String) : String :=
  match categoryColour? word with
  | some colour => style.paint colour word
  | none => word

/-- The word for a state or condition in its colour. -/
def state (style : Style) (word : String) : String :=
  match stateColour? word with
  | some colour => style.paint colour word
  | none => word

def success (style : Style) (message : String) : String :=
  style.boldPaint .green "✓" ++ " " ++ message ++ "\n"

def warning (style : Style) (message : String) : String :=
  style.boldPaint .yellow "⚠" ++ " " ++ message ++ "\n"

def note (style : Style) (message : String) : String :=
  style.boldPaint .blue "ℹ" ++ " " ++ message ++ "\n"

end Style

def scoreText (score : Float) : String := Decimal.fixed 2 score

def percentText (value : Float) : String := Decimal.fixed 1 value ++ "%"

end Headroom.Operator
