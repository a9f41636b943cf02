/-!
# Log lines

What a run reports beside its results: warnings and errors, each with the part of
the program that speaks.
-/

namespace TunnelFleet

/-- How grave a log line is. -/
inductive LogLevel
  | warn
  | error
  deriving DecidableEq

/-- The word for a level. -/
def LogLevel.name : LogLevel → String
  | .warn => "WARN"
  | .error => "ERROR"

/-- The part of the program that speaks. -/
inductive LogSource
  | commandLine
  | ports
  | supervisor
  | run
  | workspaceFiles
  | sshConfig
  | forwarder
  deriving DecidableEq

/-- The name under which a part of the program speaks. -/
def LogSource.name : LogSource → String
  | .commandLine => "portfleet"
  | .ports => "portfleet_supervisor::ports"
  | .supervisor => "portfleet_supervisor::supervisor"
  | .run => "portfleet_supervisor::run"
  | .workspaceFiles => "portfleet_store::workspaces"
  | .sshConfig => "portfleet_store::ssh_config"
  | .forwarder => "portfleet_transport::forwarder"

/-- A line of the log. -/
structure LogLine where
  level : LogLevel
  source : LogSource
  text : String
  deriving DecidableEq

namespace LogLine

/-- A line about one workspace, which its text names in brackets. -/
def about (level : LogLevel) (source : LogSource) (subject text : String) : LogLine :=
  ⟨level, source, s!"[{subject}] {text}"⟩

/-- The line without its source. -/
def short (l : LogLine) : String := s!"{l.level.name} {l.text}"

/-- The line with its source. -/
def long (l : LogLine) : String := s!"{l.level.name} {l.source.name}: {l.text}"

end LogLine

end TunnelFleet
