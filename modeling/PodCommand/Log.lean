namespace PodCommand

/-- How much a line of the log matters. -/
inductive LogLevel
  | trace
  | debug
  | info
  | warn
  deriving DecidableEq, Repr

/-- The level's name. -/
def LogLevel.name : LogLevel → String
  | trace => "TRACE"
  | debug => "DEBUG"
  | info => "INFO"
  | warn => "WARN"

/-- A line of the log. -/
structure LogLine where
  level : LogLevel
  text : String
  deriving DecidableEq, Repr

/-- The line with its level before it. -/
def LogLine.render (line : LogLine) : String :=
  line.level.name ++ " " ++ line.text

end PodCommand
