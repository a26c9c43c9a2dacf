/-
What a run needs from outside: a network, a clock, and somewhere to log.
-/
import ShardClient.Network.Basic

namespace ShardClient

/-- A span of time, in nanoseconds. -/
abbrev Duration := Nat

namespace Duration

/-- A number of seconds. -/
def ofSeconds (n : Nat) : Duration := n * 1000000000

/-- The whole seconds in a span of time. -/
def seconds (d : Duration) : Nat := d / 1000000000

end Duration

/-- How serious a line of the log is. -/
inductive Level where
  | info
  | warn
  | error
  deriving DecidableEq

/-- A line of the log. -/
structure LogLine where
  level : Level
  text : String
  deriving DecidableEq

/-- The line as it is shown. -/
def LogLine.render (l : LogLine) : String :=
  (match l.level with
    | .info => "INFO "
    | .warn => "WARN "
    | .error => "ERROR ") ++ l.text

/-- What a run needs from outside, in the monad `m`. -/
structure Host (m : Type → Type) where
  network : Network m
  /-- The time, which never goes back. -/
  now : m Duration
  /-- Lets a span of time pass. -/
  pause : Duration → m Unit
  log : LogLine → m Unit

namespace Host

variable {m : Type → Type}

def info (host : Host m) (text : String) : m Unit := host.log ⟨.info, text⟩
def warn (host : Host m) (text : String) : m Unit := host.log ⟨.warn, text⟩
def error (host : Host m) (text : String) : m Unit := host.log ⟨.error, text⟩

end Host

end ShardClient
