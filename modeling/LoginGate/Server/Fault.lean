import LoginGate.Text.Basic

/-!
Contract: what breaks off the work of a server without an answer.

Owns: the causes and their wording.
Does not own: failed logins, which are answered with a page (`Flow.Error`).

All of them follow from settings, or from the life time of a token, that nothing checks beforehand.
-/

namespace LoginGate.Server

inductive Fault where
  /-- The life time of sessions is longer than any span. -/
  | lifetimeTooLong
  /-- A session or a token would outlive the calendar. -/
  | beyondCalendar
  /-- The life time of a cookie has more seconds than fit. -/
  | cookieTooOld
  /-- The callback URL has no path at all. -/
  | emptyPath
  /-- The path of the callback URL does not start at the root. -/
  | relativePath
  /-- A segment of a path starts with a character that stands for a parameter. -/
  | colonSegment
  | starSegment
  /-- A page is served under a path of the flow. -/
  | takenPath (path : Text)
deriving DecidableEq, Repr

def Fault.message : Fault -> Text
  | .lifetimeTooLong => "TimeDelta::minutes out of bounds".toList
  | .beyondCalendar => "\x60DateTime + TimeDelta\x60 overflowed".toList
  | .cookieTooOld => "overflow constructing \x60time::SignedDuration\x60".toList
  | .emptyPath => "Paths must start with a \x60/\x60. Use \"/\" for root routes".toList
  | .relativePath => "Paths must start with a \x60/\x60".toList
  | .colonSegment =>
    ("Path segments must not start with \x60:\x60. For capture groups, use " ++
      "\x60\x7bcapture\x7d\x60. If you meant to literally match a segment starting with a " ++
      "colon, call \x60without_v07_checks\x60 on the router.").toList
  | .starSegment =>
    ("Path segments must not start with \x60*\x60. For wildcard capture, use " ++
      "\x60\x7b*wildcard\x7d\x60. If you meant to literally match a segment starting with an " ++
      "asterisk, call \x60without_v07_checks\x60 on the router.").toList
  | .takenPath path =>
    "Overlapping method route. Handler for \x60GET ".toList ++ path ++
      "\x60 already exists".toList

end LoginGate.Server
