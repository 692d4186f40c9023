import Agenda.Number.Binary64
/-!
# Throttling by fixed windows

A number of attempts is allowed to each client in a window of time. A client's window opens with its
first counted attempt and lasts for a fixed period; every attempt is counted, also one that is refused.
Attempts of a client at different paths are counted apart. Times are seconds with 53 significant bits, and
so is the time at which a window closes.

So slowapi counts by default, in memory: the strategy is the fixed window, and a window is kept for the address
of the client and the path of the request.

* `AttemptSource` — the client and the path of an attempt.
* `Throttle` — the open windows.
* `Throttle.attempt` — count an attempt and tell whether it is allowed.
-/

namespace Agenda

structure AttemptSource where
  client : String
  path : String
deriving DecidableEq

/-- The attempts from a source since its window opened. -/
structure AttemptWindow where
  closes : Rat
  attempts : Nat
deriving DecidableEq

structure Throttle where
  windows : List (AttemptSource × AttemptWindow)
deriving DecidableEq

/-- How many attempts a client has in how long a time. -/
structure AttemptRate where
  allowed : Nat
  /-- The time in seconds for which a window is open. -/
  period : Rat
  /-- How the rate is told to a client. -/
  wording : String
deriving DecidableEq

namespace Throttle

def empty : Throttle := ⟨[]⟩

instance : Inhabited Throttle := ⟨empty⟩

/-- The window of a source that is still open at a time. -/
def window? (t : Throttle) (source : AttemptSource) (now : Rat) : Option AttemptWindow :=
  ((t.windows.find? fun entry => entry.1 == source).map Prod.snd).filter fun w => now < w.closes

/-- The window of a source after an attempt at a time. -/
def countIn (rate : AttemptRate) (now : Rat) : Option AttemptWindow → AttemptWindow
  | some w => { w with attempts := w.attempts + 1 }
  | none => ⟨Binary64.nearest (now + rate.period), 1⟩

/-- Count an attempt from a source. It is allowed unless its window has more than the allowed number of
attempts by now. -/
def attempt (rate : AttemptRate) (t : Throttle) (source : AttemptSource) (now : Rat) :
    Bool × Throttle :=
  let w := countIn rate now (t.window? source now)
  (w.attempts ≤ rate.allowed,
    ⟨(source, w) :: t.windows.filter fun entry => entry.1 != source⟩)

end Throttle
end Agenda
