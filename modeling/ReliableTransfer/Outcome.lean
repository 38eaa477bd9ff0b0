import ReliableTransfer.Report.Save
import ReliableTransfer.Window.Sender

/-!
# How a run comes out

Both programs first open their endpoint and then do their work, and both are watched up to a
limit of time only.

* `Conclusion` — how a run ended, if it did.
* `Outcome` — that, with the report as it stands and the machine that was left behind.
-/

namespace ReliableTransfer

/-- How a run ended. -/
inductive Conclusion
  /-- It was still going on at the limit. -/
  | unfinished
  /-- The endpoint could not be opened. -/
  | notStarted
  /-- It broke off because its sender could not be set up. -/
  | broken (cause : SetupError)
  /-- It came to its end, well or not. -/
  | finished (ok : Bool)
deriving DecidableEq

/-- What is left of a run. -/
structure Outcome where
  /-- How it ended. -/
  conclusion : Conclusion
  /-- The report, as far as it was kept. -/
  report : Report
  /-- The machine. -/
  host : Host

/-- Nanoseconds on the clock of a report at a time in milliseconds. -/
def reportTime (now : Int) : Int :=
  1000000 * now

end ReliableTransfer
