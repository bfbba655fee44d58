/-!
# Log levels and log lines

A line is logged when its severity is at most the level. A level is named in any mixture of upper and
lower case; a name that is no level's means warnings.
-/

set_option autoImplicit false

namespace CommandShell

inductive LogLevel where
  | off
  | error
  | warn
  | info
  | debug
  | trace
  deriving DecidableEq, Repr

namespace LogLevel

def all : List LogLevel := [off, error, warn, info, debug, trace]

def name : LogLevel → String
  | off => "OFF"
  | error => "ERROR"
  | warn => "WARN"
  | info => "INFO"
  | debug => "DEBUG"
  | trace => "TRACE"

def ofName (name : String) : LogLevel :=
  (all.find? fun level => level.name = name.toUpper).getD warn

def rank : LogLevel → Nat
  | off => 0
  | error => 1
  | warn => 2
  | info => 3
  | debug => 4
  | trace => 5

end LogLevel

structure Moment where
  year : Nat
  month : Nat
  day : Nat
  hour : Nat
  minute : Nat
  second : Nat
  deriving DecidableEq, Repr

namespace Moment

def pad (n : Nat) : String := if n < 10 then "0" ++ toString n else toString n

def padYear (n : Nat) : String :=
  String.ofList (List.replicate (4 - (toString n).length) '0') ++ toString n

def date (m : Moment) : String := padYear m.year ++ "-" ++ pad m.month ++ "-" ++ pad m.day

def text (m : Moment) : String :=
  m.date ++ " " ++ pad m.hour ++ ":" ++ pad m.minute ++ ":" ++ pad m.second

/-- The moment so many seconds after the beginning of 1970. Years are counted from March here, so that
the leap day is the last one of its year. -/
def ofSeconds (seconds : Nat) : Moment :=
  let days := seconds / 86400 + 719468
  let era := days / 146097
  let ofEra := days % 146097
  let yearOfEra := (ofEra - ofEra / 1460 + ofEra / 36524 - ofEra / 146096) / 365
  let ofYear := ofEra - (365 * yearOfEra + yearOfEra / 4 - yearOfEra / 100)
  let monthFromMarch := (5 * ofYear + 2) / 153
  let month := if monthFromMarch < 10 then monthFromMarch + 3 else monthFromMarch - 9
  { year := yearOfEra + era * 400 + (if month ≤ 2 then 1 else 0)
    month
    day := ofYear - (153 * monthFromMarch + 2) / 5 + 1
    hour := seconds % 86400 / 3600
    minute := seconds % 3600 / 60
    second := seconds % 60 }

end Moment

def logLine (process : Int) (level : LogLevel) (moment : Moment) (text : String) : String :=
  "[PID:" ++ toString process ++ "][" ++ level.name ++ "] " ++ moment.text ++ " - " ++ text ++ "\n"

end CommandShell
