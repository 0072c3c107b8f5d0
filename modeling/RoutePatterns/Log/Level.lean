/-!
# Levels of the log

An event has a `Severity`. A `Verbosity` says down to which severity events are logged, and
`Verbosity.read?` reads it from its name in any case or from its number.
-/

namespace RoutePatterns

namespace Log

/-- How severe an event is. -/
inductive Severity where
  | error
  | warn
  | info
  | debug
  | trace
deriving DecidableEq, Repr

namespace Severity

/-- The number of a severity; the most severe one has the lowest. -/
def rank : Severity → Nat
  | error => 1
  | warn => 2
  | info => 3
  | debug => 4
  | trace => 5

/-- The name in events. -/
def label : Severity → String
  | error => "ERROR"
  | warn => "WARN"
  | info => "INFO"
  | debug => "DEBUG"
  | trace => "TRACE"

end Severity

/-- Which severities are logged. -/
inductive Verbosity where
  /-- Nothing is logged. -/
  | off
  /-- Events that are at least as severe as the given one are logged. -/
  | upTo (s : Severity)
deriving DecidableEq, Repr

namespace Verbosity

/-- Events of a severity are logged. -/
def includes : Verbosity → Severity → Bool
  | off, _ => false
  | upTo limit, s => decide (s.rank ≤ limit.rank)

/-- The verbosity with a number. -/
def ofNat? : Nat → Option Verbosity
  | 0 => some off
  | 1 => some (upTo .error)
  | 2 => some (upTo .warn)
  | 3 => some (upTo .info)
  | 4 => some (upTo .debug)
  | 5 => some (upTo .trace)
  | _ => none

/-- The verbosity with a name in lower case. -/
def ofName? : String → Option Verbosity
  | "off" => some off
  | "error" => some (upTo .error)
  | "warn" => some (upTo .warn)
  | "info" => some (upTo .info)
  | "debug" => some (upTo .debug)
  | "trace" => some (upTo .trace)
  | _ => none

/-- The number that is written in decimal digits, if there is one. -/
def number? (digits : List Char) : Option Nat :=
  if !digits.isEmpty && digits.all Char.isDigit then
    some (digits.foldl (fun n c => n * 10 + (c.toNat - '0'.toNat)) 0)
  else none

/-- The verbosity with a number in decimal digits, perhaps after a plus sign. -/
def ofDigits? : List Char → Option Verbosity
  | '+' :: digits => (number? digits).bind ofNat?
  | digits => (number? digits).bind ofNat?

/-- Reads a verbosity. -/
def read? (s : String) : Option Verbosity :=
  (ofDigits? s.toList).or (ofName? (String.ofList (s.toList.map Char.toLower)))

end Verbosity

end Log

end RoutePatterns
