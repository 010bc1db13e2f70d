/-!
# Terminal styles

Coloured and emphasised text for a terminal.
-/

namespace FieldAudit.Report

/-- How a text stands out. -/
inductive Style where
  | bold
  | dimmed
  | red
  | green
  | yellow
  | blue
deriving DecidableEq

namespace Style

/-- The number of a style in a control sequence. -/
def code : Style → String
  | bold => "1"
  | dimmed => "2"
  | red => "31"
  | green => "32"
  | yellow => "33"
  | blue => "34"

/-- The control sequence that begins a style. -/
def start (s : Style) : String := "\x1b[" ++ s.code ++ "m"

/-- The control sequence that ends all styles. -/
def reset : String := "\x1b[0m"

/-- The text in a style, if styles are wanted. Where the text itself ends all styles, this one begins
    again. -/
def paint (s : Style) (color : Bool) (text : String) : String :=
  if color then s.start ++ text.replace reset (reset ++ s.start) ++ reset else text

end Style

end FieldAudit.Report
