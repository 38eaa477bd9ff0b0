import ReliableTransfer.Window.Timer

/-!
# A sender and its callers

A session is one sender with its timer and any number of callers, each a task of its own.  Task 0
is the timer; the callers are numbered from 1 in the order in which they come.

A call to send waits while the window is full, a call for completion while packets are in
flight, and the call that stops the sender for the end of the timer.  Every acknowledgement and
the stop wake all callers that wait for progress; each then looks again for itself.

* `Operation`, `Answer` — what a caller wants, and what it gets.
* `Call`, `CallState` — a caller and where it stands.
* `Session` — the whole, with the timeline of what happened.
* **`Session.system`** — the session as a system of tasks.
* **`Session.play`** — the states of a session after each of a list of instructions and after
  the stop at its end.
-/

namespace ReliableTransfer

/-- What a caller wants of the sender. -/
inductive Operation
  /-- To send a payload. -/
  | send (payload : Bytes) (flags : Flags)
  /-- To hand over an acknowledgement. -/
  | acknowledge (number : UInt32)
  /-- To wait, up to some time, until nothing is in flight. -/
  | await (timeout : Int)
  /-- To stop the sender. -/
  | stop
deriving DecidableEq

/-- What a caller gets. -/
inductive Answer
  /-- The number of the packet that was sent. -/
  | sent (seq : UInt32)
  /-- The call to send is refused. -/
  | refused (cause : SendError)
  /-- The acknowledgement was taken. -/
  | acknowledged
  /-- Whether nothing was in flight in the end. -/
  | awaited (complete : Bool)
  /-- The sender has stopped. -/
  | stopped
deriving DecidableEq

/-- Where a call stands. -/
inductive CallState
  /-- It has not run yet. -/
  | starting (op : Operation)
  /-- It waits for room in the window. -/
  | sending (payload : Bytes) (flags : Flags) (notified : Bool)
  /-- It waits for the last acknowledgement, up to a time. -/
  | awaiting (deadline : Int) (notified : Bool)
  /-- It waits for the timer to end. -/
  | joining
  /-- It has returned. -/
  | returned (answer : Answer)
deriving DecidableEq

/-- A call, with the number of the instruction that made it. -/
structure Call where
  /-- The number of the instruction. -/
  number : Nat
  /-- Where the call stands. -/
  state : CallState
deriving DecidableEq

/-- Something that happened in a session. -/
inductive SessionEvent
  /-- A packet was handed to the link, which took it or not. -/
  | transmitted (packet : Packet) (ok : Bool)
  /-- A line was written. -/
  | noted (notice : Notice)
  /-- A call returned. -/
  | returned (number : Nat) (answer : Answer)
deriving DecidableEq

/-- A sender with its timer and its callers. -/
structure Session where
  /-- The settings. -/
  settings : Settings
  /-- The numbers of the transmissions that the link does not take. -/
  failing : List Nat := []
  /-- The clock. -/
  now : Int := 0
  /-- The sender. -/
  sender : Sender := {}
  /-- The timer. -/
  timer : Timer := .starting
  /-- The callers. -/
  calls : List Call := []
  /-- The transmissions so far. -/
  transmissions : Nat := 0
  /-- What happened so far, and when. -/
  timeline : List (Int × SessionEvent) := []
deriving DecidableEq

namespace CallState

/-- What a call waits for; the timer is what the stopping call waits for. -/
def readiness (timer : Timer) : CallState → Readiness
  | starting _ => .ready
  | sending _ _ notified => if notified then .ready else .held
  | awaiting deadline notified => if notified then .ready else .dueAt deadline
  | joining => if timer.hasEnded then .ready else .held
  | returned _ => .held

/-- Wakes a call that waits for progress. -/
def notify : CallState → CallState
  | sending payload flags _ => sending payload flags true
  | awaiting deadline _ => awaiting deadline true
  | state => state

end CallState

namespace Session

/-- Adds an event to the timeline. -/
def happen (s : Session) (event : SessionEvent) : Session :=
  { s with timeline := s.timeline ++ [(s.now, event)] }

/-- The link of a session: it takes every packet but those whose turn is named as failing. -/
def link : Link Session where
  transmit p s :=
    let ok := !s.failing.contains s.transmissions
    (ok, { s.happen (.transmitted p ok) with transmissions := s.transmissions + 1 })
  note n s := s.happen (.noted n)

/-- Wakes all callers that wait for progress. -/
def notifyProgress (s : Session) : Session :=
  { s with calls := s.calls.map fun c => { c with state := c.state.notify } }

/-- Puts call `i` into a state. -/
def setCall (s : Session) (i : Nat) (state : CallState) : Session :=
  { s with calls := s.calls.modify i fun c => { c with state } }

/-- Lets call `i` return. -/
def answer (s : Session) (i : Nat) (answer : Answer) : Session :=
  match s.calls[i]? with
  | some c => (s.setCall i (.returned answer)).happen (.returned c.number answer)
  | none => s

/-! ## Turns

A call looks at the sender, and goes on or waits (again). -/

/-- A call to send at the point where it looks at the window. -/
def trySend (s : Session) (i : Nat) (payload : Bytes) (flags : Flags) : Session :=
  if !s.sender.running then s.answer i (.refused .stopped)
  else if s.sender.hasRoom s.settings then
    let seq := s.sender.next
    let (sender, actions) := s.sender.send s.now payload flags
    (performAll link actions { s with sender }).answer i (.sent seq)
  else s.setCall i (.sending payload flags false)

/-- A call for completion at the point where it looks at what is in flight. -/
def tryComplete (s : Session) (i : Nat) (deadline : Int) (waited : Bool) : Session :=
  if s.sender.allAcked then s.answer i (.awaited true)
  else if waited && deadline ≤ s.now then s.answer i (.awaited false)
  else s.setCall i (.awaiting deadline false)

/-- The first turn of a call. -/
def begin (s : Session) (i : Nat) : Operation → Session
  | .send payload flags =>
    match Sender.refusal? s.settings payload with
    | some cause => s.answer i (.refused cause)
    | none => s.trySend i payload flags
  | .acknowledge number =>
    (notifyProgress { s with sender := s.sender.acknowledge number }).answer i .acknowledged
  | .await timeout => s.tryComplete i (s.now + timeout) false
  | .stop =>
    let s := notifyProgress { s with sender := s.sender.stop, timer := s.timer.notify }
    if s.timer.hasEnded then s.answer i .stopped else s.setCall i .joining

/-- A turn of call `i`. -/
def resumeCall (s : Session) (i : Nat) : Session :=
  match s.calls[i]? with
  | none => s
  | some c =>
    match c.state with
    | .starting op => s.begin i op
    | .sending payload flags _ => s.trySend i payload flags
    | .awaiting deadline _ => s.tryComplete i deadline true
    | .joining => s.answer i .stopped
    | .returned _ => s

/-- A turn of the timer. -/
def resumeTimer (s : Session) : Session :=
  let (timer, sender, actions) := s.timer.resume s.settings s.now s.sender
  performAll link actions { s with timer, sender }

/-- **The session as a system of tasks**: the timer and the callers. -/
def system : System Session where
  now s := s.now
  advanceTo time s := { s with now := time }
  tasks s := s.timer.readiness :: s.calls.map fun c => c.state.readiness s.timer
  resume
    | 0, s => s.resumeTimer
    | i + 1, s => s.resumeCall i

/-! ## Instructions -/

/-- What is done with a session from outside. -/
inductive Instruction
  /-- A call is made. -/
  | call (op : Operation)
  /-- Time runs on. -/
  | advance (time : Int)
deriving DecidableEq

/-- A bound on the turns and jumps that can happen in `span` milliseconds: at each time the timer
has one turn and each caller at most a few. -/
def fuel (s : Session) (span : Int) : Nat :=
  4 * (span.toNat + 2) * (s.calls.length + 2)

/-- Lets everything happen that can happen up to a time. -/
def runUntil (s : Session) (time : Int) : Session :=
  system.run (some time) (s.fuel (time - s.now)) s

/-- A fresh session, at the point where the timer sleeps. -/
def start (settings : Settings) (failing : List Nat) : Session :=
  runUntil { settings, failing } 0

/-- Makes a call on behalf of instruction `number` and lets it go as far as it can now. -/
def makeCall (s : Session) (number : Nat) (op : Operation) : Session :=
  runUntil { s with calls := s.calls ++ [⟨number, .starting op⟩] } s.now

/-- Follows one instruction. -/
def follow (s : Session) (number : Nat) : Instruction → Session
  | .call op => s.makeCall number op
  | .advance time => { s.runUntil (s.now + time) with now := s.now + time }

/-- The stop at the end of a session; time runs on until every call has returned. -/
def finish (s : Session) (number : Nat) : Session :=
  let s := { s with calls := s.calls ++ [⟨number, .starting .stop⟩] }
  system.run none (s.fuel s.calls.length) s

/-- The states after each of the instructions, which are numbered from `number` on, and after
the stop at the end. -/
def states (s : Session) (number : Nat) : List Instruction → List Session
  | [] => [s.finish number]
  | instruction :: rest =>
    let s := s.follow number instruction
    s :: s.states (number + 1) rest

/-- **A whole session**, from a fresh sender on: the states after each instruction and after the
stop.  Without a window or without a link there is no session. -/
def play (settings : Settings) (linked : Bool) (failing : List Nat)
    (instructions : List Instruction) : Except SetupError (List Session) := do
  let _ ← Sender.create settings
  if !linked then throw .noLink
  return (start settings failing).states 0 instructions

end Session

end ReliableTransfer
