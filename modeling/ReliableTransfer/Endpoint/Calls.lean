import ReliableTransfer.Endpoint

/-!
# An endpoint and one caller

The calls a single caller can make on an endpoint, one after the other, up to a limit of time.

* `EndpointCall`, `EndpointAnswer` — a call, and what it returns.
* **`Endpoint.call?`** — one call, if it returns within the limit.
* `Endpoint.callAll` — a list of calls, up to the first that does not return.
-/

namespace ReliableTransfer

/-- A call on an endpoint. -/
inductive EndpointCall
  /-- Open it, with a timeout for its reads. -/
  | attach (timeout : Int)
  /-- Send a packet to an address and a port. -/
  | send (packet : Packet) (address : Bytes) (port : UInt16)
  /-- Read from the network once. -/
  | receive
  /-- Close it. -/
  | detach
deriving DecidableEq

/-- What a call returns. -/
inductive EndpointAnswer
  /-- Whether it worked. -/
  | worked (ok : Bool)
  /-- What was received, if anything. -/
  | received (what : Option Received)
  /-- Nothing. -/
  | done
deriving DecidableEq

/-- An answer with the endpoint and the machine after it. -/
structure EndpointStep where
  /-- The answer. -/
  answer : EndpointAnswer
  /-- The endpoint. -/
  endpoint : Endpoint
  /-- The machine. -/
  host : Host

namespace Endpoint

/-- **One call**, if it returns within the limit. -/
def call? (limit : Int) (e : Endpoint) (h : Host) : EndpointCall → Option EndpointStep
  | .attach timeout =>
    let (ok, e, h) := e.attach timeout h
    some ⟨.worked ok, e, h⟩
  | .send packet address port =>
    let (ok, h) := e.send packet address port h
    some ⟨.worked ok, e, h⟩
  | .receive => do
    let h ← h.awaitRead limit e.descriptor
    let (what, e, h) := e.receive h
    return ⟨.received what, e, h⟩
  | .detach =>
    let (e, h) := e.detach h
    some ⟨.done, e, h⟩

/-- A list of calls: the answers up to the first call that does not return within the limit. -/
def callAll (limit : Int) (e : Endpoint) (h : Host) : List EndpointCall → List EndpointStep
  | [] => []
  | c :: rest =>
    match e.call? limit h c with
    | none => []
    | some step => step :: callAll limit step.endpoint step.host rest

end Endpoint

end ReliableTransfer
