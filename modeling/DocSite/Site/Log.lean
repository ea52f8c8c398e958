import DocSite.Text.Basic

/-!
# The log

What a command reports while it works, line by line.
-/

namespace DocSite.Site

/-- The weight of a line. -/
inductive Level where
  | debug | info | warn | error
  deriving DecidableEq, Repr

/-- The name of a level. -/
def Level.name : Level → Text
  | .debug => "DEBUG".toList
  | .info => "INFO".toList
  | .warn => "WARN".toList
  | .error => "ERROR".toList

/-- A line of the log. -/
structure LogLine where
  level : Level
  message : Text
  deriving DecidableEq, Repr

/-- The line with its level in front. -/
def LogLine.toText (line : LogLine) : Text := line.level.name ++ ' ' :: line.message

end DocSite.Site
