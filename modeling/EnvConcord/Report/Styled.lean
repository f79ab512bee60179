/-!
# Styled text

A report is a list of lines, and a line is a list of spans of one style each.
Rendering with colours puts escape codes around every span that has a style.
-/

namespace EnvConcord.Report

/-- The colours of reports. -/
inductive Color
  | red
  | green
  | yellow
  | blue
  deriving DecidableEq, Repr

/-- The code of a colour. -/
def Color.code : Color → String
  | .red => "31"
  | .green => "32"
  | .yellow => "33"
  | .blue => "34"

/-- How a text is shown. -/
structure Style where
  bold : Bool := false
  dim : Bool := false
  color : Option Color := none
  deriving DecidableEq, Repr, Inhabited

/-- The codes of a style, weight first. -/
def Style.codes (s : Style) : List String :=
  (if s.bold then ["1"] else []) ++ (if s.dim then ["2"] else []) ++
    (s.color.map Color.code).toList

/-- A style on top of another one. -/
def Style.over (top base : Style) : Style where
  bold := top.bold || base.bold
  dim := top.dim || base.dim
  color := top.color.orElse fun _ => base.color

/-- A stretch of text in one style. -/
structure Span where
  text : List Char
  style : Style := {}
  deriving DecidableEq, Repr

/-- The spans of one line. -/
abbrev Line := List Span

/-- A span with the escape codes of its style. -/
def Span.render (colors : Bool) (span : Span) : List Char :=
  if !colors || span.style.codes.isEmpty || span.text.isEmpty then span.text
  else
    ("\x1b[" ++ String.intercalate ";" span.style.codes ++ "m").toList ++ span.text ++
      "\x1b[0m".toList

/-- A line without its line break. -/
def Line.render (colors : Bool) (line : Line) : List Char := line.flatMap (Span.render colors)

/-- Lines, each ended by a line break. -/
def renderLines (colors : Bool) (lines : List Line) : List Char :=
  lines.flatMap fun line => Line.render colors line ++ ['\n']

end EnvConcord.Report
