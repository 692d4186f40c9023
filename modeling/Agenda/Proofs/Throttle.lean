import Agenda.Throttle
import Mathlib.Data.Option.Basic
/-!
# The windows of a source

A source has at most one window at a time, and attempts from other sources do not touch it.

* `Throttle.last?` — the last window of a source, whether it is still open or not.
* `Throttle.following` — the window of a source after one more attempt, from its last one.
* `Throttle.last?_attempt` — an attempt changes the last window of its own source, and of no other.
* `Throttle.following_of_open`, `Throttle.following_of_closed` — the attempt is counted in the window that is
  open, or it opens a new one.
-/

namespace Agenda
namespace Throttle

/-- The last window of a source, open or closed. -/
def last? (t : Throttle) (source : AttemptSource) : Option AttemptWindow :=
  (t.windows.find? fun entry => entry.1 == source).map Prod.snd

/-- The window of a source after an attempt at a time, when the given one was its last. -/
def following (rate : AttemptRate) (now : Rat) (last : Option AttemptWindow) : AttemptWindow :=
  countIn rate now (last.filter fun w => now < w.closes)

variable {t : Throttle} {rate : AttemptRate} {source source' : AttemptSource} {now : Rat}
  {w : AttemptWindow} {last : Option AttemptWindow}

/-- The window of a source is open as long as its last one is. -/
theorem window?_eq : t.window? source now = (t.last? source).filter fun w => now < w.closes := rfl

theorem attempt_fst :
    (t.attempt rate source now).1 = decide ((following rate now (t.last? source)).attempts ≤ rate.allowed) := rfl

/-- An attempt is counted for its source only. -/
theorem last?_attempt :
    (t.attempt rate source now).2.last? source'
      = if source' = source then some (following rate now (t.last? source)) else t.last? source' := by
  have hattempt : (t.attempt rate source now).2.windows
      = (source, following rate now (t.last? source)) :: t.windows.filter fun entry => entry.1 != source := rfl
  unfold last?
  rw [hattempt]
  by_cases hsource : source' = source
  · subst hsource
    rw [if_pos rfl, List.find?_cons_of_pos (by simp)]
    rfl
  · rw [if_neg hsource, List.find?_cons_of_neg (by simpa using Ne.symm hsource), List.find?_filter]
    congr 2
    funext entry
    by_cases hentry : entry.1 = source'
    · simp [hentry, hsource]
    · simp [hentry]

/-- As long as the last window is open, attempts are counted in it. -/
theorem following_of_open (hopen : now < w.closes) :
    following rate now (some w) = { w with attempts := w.attempts + 1 } := by
  have hkept : (some w).filter (fun w => now < w.closes) = some w := by
    rw [Option.filter_some, if_pos (by simpa using hopen)]
  rw [following, hkept]
  rfl

/-- An attempt after the end of the last window opens a new one. -/
theorem following_of_closed (hclosed : last.filter (fun w => now < w.closes) = none) :
    following rate now last = ⟨Binary64.nearest (now + rate.period), 1⟩ := by
  rw [following, hclosed]
  rfl

/-- The window in which an attempt is counted is open, unless windows close as they open. -/
theorem lt_closes_following (hperiod : now < Binary64.nearest (now + rate.period)) :
    now < (following rate now last).closes := by
  cases hopen : last.filter fun w => now < w.closes with
  | none =>
      rw [following_of_closed hopen]
      exact hperiod
  | some w =>
      obtain ⟨rfl, hlt⟩ := Option.filter_eq_some_iff.1 hopen
      have hlt : now < w.closes := by simpa using hlt
      rw [following_of_open hlt]
      exact hlt

end Throttle
end Agenda
