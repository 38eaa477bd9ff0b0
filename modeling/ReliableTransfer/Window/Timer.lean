import ReliableTransfer.Schedule
import ReliableTransfer.Window.Sender

/-!
# The sender's timer

The timer is a task of its own.  It sleeps for the poll interval, scans the packets in flight,
and sleeps again, until the sender is stopped.  The interval is counted from the end of the last
scan, so scans come at regular times.

* `Timer` — where the timer stands.
* `Timer.readiness` — what it waits for.
* **`Timer.resume`** — one turn of it.
-/

namespace ReliableTransfer

/-- Where the timer stands. -/
inductive Timer
  /-- It has not run yet. -/
  | starting
  /-- It sleeps until a time, or until it is woken. -/
  | sleeping (wake : Int) (notified : Bool)
  /-- It has ended. -/
  | ended
deriving DecidableEq

namespace Timer

/-- What the timer waits for. -/
def readiness : Timer → Readiness
  | starting => .ready
  | sleeping wake notified => if notified then .ready else .dueAt wake
  | ended => .held

/-- Wakes the timer. -/
def notify : Timer → Timer
  | sleeping wake _ => sleeping wake true
  | timer => timer

/-- Whether the timer has ended. -/
def hasEnded : Timer → Bool
  | ended => true
  | _ => false

/-- The timer at the head of its loop: it sleeps if the sender is at work, and ends if not. -/
def next (settings : Settings) (now : Int) (w : Sender) : Timer :=
  if w.running then sleeping (now + settings.poll) false else ended

/-- **One turn of the timer**: where it stands then, the sender, and what is to be done.  A timer
that is woken before its time finds the sender stopped, or sleeps on. -/
def resume (settings : Settings) (now : Int) (w : Sender) : Timer → Timer × Sender × List Action
  | starting => (next settings now w, w, [])
  | sleeping wake _ =>
    if !w.running then (ended, w, [])
    else if now < wake then (sleeping wake false, w, [])
    else
      let (w, actions) := w.scan settings now
      (next settings now w, w, actions)
  | ended => (ended, w, [])

end Timer

end ReliableTransfer
