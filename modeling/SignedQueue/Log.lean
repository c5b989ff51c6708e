/-!
**Log lines.** What the library tells whoever runs it. A function that logs returns its lines beside
its result.

* `LogLine`: a level and a text;
* `LogLine.render`: the line as it is written.
-/

namespace SignedQueue

/-- How much a log line matters. -/
inductive LogLevel where
  | debug
  | warning
  deriving Repr, DecidableEq

/-- A line of a log. -/
structure LogLine where
  level : LogLevel
  text : String
  deriving Repr, DecidableEq

/-- A line as it is written, the level first. -/
def LogLine.render (line : LogLine) : String :=
  match line.level with
  | .debug => "DEBUG " ++ line.text
  | .warning => "WARN " ++ line.text

end SignedQueue
