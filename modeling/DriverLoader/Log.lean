/-
# The log

Messages have a level, and a log keeps those that its own level lets through.  The level can change
while a loader is at work, so a message is judged when it is written.
-/

namespace DriverLoader

/-- How much a log lets through, from nothing to everything. -/
inductive LogLevel where
  | off
  | error
  | warn
  | info
  | debug
  | trace
  deriving DecidableEq, Inhabited

namespace LogLevel

/-- The levels in order. -/
def all : List LogLevel :=
  [off, error, warn, info, debug, trace]

/-- The place of a level in the order. -/
def rank : LogLevel → Nat
  | off => 0
  | error => 1
  | warn => 2
  | info => 3
  | debug => 4
  | trace => 5

/-- The name of a level. -/
def name : LogLevel → String
  | off => "OFF"
  | error => "ERROR"
  | warn => "WARN"
  | info => "INFO"
  | debug => "DEBUG"
  | trace => "TRACE"

/-- The level of a name in any mixture of ASCII cases.  Letters outside ASCII have no case here. -/
def ofName? (text : String) : Option LogLevel :=
  all.find? fun level => level.name = String.ofList (text.toList.map Char.toUpper)

end LogLevel

/-- The messages kept so far, latest first, and the level that decides about the next one. -/
structure Log where
  level : LogLevel
  lines : List (LogLevel × String)

namespace Log

/-- A log without messages. -/
def empty (level : LogLevel) : Log :=
  ⟨level, []⟩

/-- The log after a message, which is kept if its level is let through. -/
def add (log : Log) (level : LogLevel) (message : String) : Log :=
  if level.rank ≤ log.level.rank then { log with lines := (level, message) :: log.lines } else log

/-- The log after several messages, in order. -/
def addAll (log : Log) (messages : List (LogLevel × String)) : Log :=
  messages.foldl (fun log message => log.add message.1 message.2) log

/-- The kept messages in the order in which they were written, each behind its level. -/
def texts (log : Log) : List String :=
  log.lines.reverse.map fun (level, message) => level.name ++ " " ++ message

end Log
end DriverLoader
