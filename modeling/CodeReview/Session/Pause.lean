import CodeReview.Session.Basic

/-!
# Pauses between requests

A service that limits its rate is given time between two files.  The delay is in seconds; none is
waited for when it is zero, and there is no negative one.
-/

set_option autoImplicit false

namespace CodeReview.Run

/-- A number below zero. -/
def isNegative (x : Double) : Bool := x.lt (Double.ofInt 0)

/-- Zero, of either sign. -/
def isZero (x : Double) : Bool := x.le (Double.ofInt 0) && (Double.ofInt 0).le x

/-- Wait this many seconds. -/
def pause {σ : Type} (seconds : Double) : Run σ Unit :=
  if isNegative seconds then fail (.argument (.negative "delay_seconds"))
  else if isZero seconds then pure ()
  else emit (.waited seconds)

end CodeReview.Run
