import ReliableTransfer.Server.Tasks

/-!
# A run of the server

The server's tasks take turns: the transfer is task 0, the timer task 1 and the listener task 2.

* `Server.system` — the server as a system of tasks.
* **`Server.run`** — the whole, from opening the endpoint to closing it.
-/

namespace ReliableTransfer.Server

/-- What a read with a deadline waits for. -/
def readReadiness (h : Host) (deadline : Option Int) : Readiness :=
  match h.readDue? deadline with
  | some time => .dueAt time
  | none => .held

/-- What the transfer waits for. -/
def transferReadiness (s : Server) : Readiness :=
  match s.stage with
  | .starting => .ready
  | .awaitingRequest deadline => readReadiness s.host deadline
  | .sendingData _ notified => if notified then .ready else .held
  | .sendingEnd notified => if notified then .ready else .held
  | .awaitingAcks deadline notified => if notified then .ready else .dueAt deadline
  | .joiningTimer => if s.timer.hasEnded then .ready else .held
  | .joiningListener => if s.listener.hasEnded then .ready else .held
  | .over _ => .held

/-- What the listener waits for. -/
def listenerReadiness (s : Server) : Readiness :=
  match s.listener with
  | .starting => .ready
  | .reading deadline => readReadiness s.host deadline
  | .ended => .held

/-- **The server as a system of tasks.** -/
def system : System Server where
  now s := s.host.now
  advanceTo time s := { s with host := s.host.advanceTo time }
  tasks s := [s.transferReadiness, s.timer.readiness, s.listenerReadiness]
  resume
    | 0, s => s.resumeTransfer
    | 1, s => s.resumeTimer
    | 2, s => s.resumeListener
    | _, s => s

/-- A bound on the turns and jumps up to a limit: a few at each time, and a few for each
arrival. -/
def fuel (limit : Int) (h : Host) : Nat :=
  8 * (limit.toNat + h.arrivals.length + 8)

/-- How a server comes out: if its run is over, its endpoint is closed for good. -/
def outcome (s : Server) : Outcome :=
  match s.stage with
  | .over conclusion =>
    let (_, host) := s.endpoint.detach s.host
    ⟨conclusion, s.report, host⟩
  | _ => ⟨.unfinished, s.report, s.host⟩

/-- **A run of the server**, watched up to a limit of time. -/
def run (o : ServerOptions) (limit : Int) (h : Host) : Outcome :=
  let e : Endpoint := { address := o.address, port := o.settings.serverPort }
  match e.attach o.settings.receiveTimeout h with
  | (false, e, h) =>
    let (_, h) := e.detach h
    ⟨.notStarted, {}, h⟩
  | (true, e, h) =>
    let host := h.note (.serverListening o.address o.directory o.settings)
    outcome (system.run (some limit) (fuel limit h) { options := o, host, endpoint := e })

end ReliableTransfer.Server
