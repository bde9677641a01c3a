import LogWatch.Time.Span

/-!
# Rate limits

At most `limit` reports pass in a **window**. A window starts with the first attempt after the last
one is over, and an attempt at its very end still belongs to it. A limit of zero lets all pass.
-/

namespace LogWatch

/-- A limit on the number of reports in a window. -/
structure RateLimiter where
  /-- So many pass in a window. -/
  limit : Nat
  /-- The length of a window. -/
  window : Span
  /-- So many have passed in the current window. -/
  count : Nat
  /-- When the current window started. -/
  windowStart : Option Moment

namespace RateLimiter

/-- A limiter that has seen no attempt. -/
def new (limit : Nat) (window : Span) : RateLimiter := ⟨limit, window, 0, none⟩

/-- The current window is over, or none has started. -/
def isOver (l : RateLimiter) (now : Moment) : Bool :=
  match l.windowStart with
  | none => true
  | some start => decide (l.window < now - start)

/-- The limiter in the window of an attempt at `now`. -/
def enter (l : RateLimiter) (now : Moment) : RateLimiter :=
  if l.isOver now then { l with windowStart := some now, count := 0 } else l

/-- An attempt at `now`: whether it passes, and the limiter after it. -/
def allow (l : RateLimiter) (now : Moment) : Bool × RateLimiter :=
  if l.limit = 0 then (true, l)
  else
    let l := l.enter now
    if l.count < l.limit then (true, { l with count := l.count + 1 }) else (false, l)

end RateLimiter

end LogWatch
