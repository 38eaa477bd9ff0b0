import ReliableTransfer.Server.Basic

/-!
# The server's tasks

What each of the three tasks does with its turn.

* `Server.awaitRequest`, `Server.considerRequest`, `Server.prepare`, `Server.beginTransfer` — from
  waiting for a request to the start of the transfer.
* `Server.readPieces`, `Server.sendPiece`, `Server.sendData`, `Server.sendEnd`,
  `Server.tryComplete` — reading and sending the file, its end, and waiting for the last
  acknowledgement.
* `Server.endTransfer`, `Server.stopListening`, `Server.conclude`, `Server.finish` — the other
  tasks are ended one after the other, and the report is given.
* **`Server.resumeTransfer`**, **`Server.resumeTimer`**, **`Server.resumeListener`** — the turns.
-/

namespace ReliableTransfer.Server

/-! ## The end of a run

Written first, since every other part may lead here. -/

/-- The report is printed, saved if that was asked for, and the endpoint is closed. -/
def finish (s : Server) (ok : Bool) : Server :=
  let host := s.host.print s.report.render
  let host := match s.options.reportPath with
    | some path => (s.report.save path host).2
    | none => host
  let (endpoint, host) := s.endpoint.detach host
  { s with endpoint, host := host.note .serverFinished, stage := .over (.finished ok) }

/-- The counters of the sender and the endpoint are taken over into the report. -/
def conclude (s : Server) : Server :=
  finish { s with report := { s.report with
    packetsSent := s.sender.packetsSent
    retransmissions := s.sender.retransmissions
    corrupted := s.endpoint.corrupted } } s.readFailure.isNone

/-- The listener is told to stop; it may have to come back from its read first. -/
def stopListening (s : Server) : Server :=
  let s := { s with listening := false }
  if s.listener.hasEnded then s.conclude else { s with stage := .joiningListener }

/-- The sender is stopped, complete or not. -/
def endTransfer (s : Server) (completed : Bool) : Server :=
  let s := { s with
    report := { s.report with completed, endTime := reportTime s.host.now }
    sender := s.sender.stop
    timer := s.timer.notify }
  if s.timer.hasEnded then s.stopListening else { s with stage := .joiningTimer }

/-! ## Sending the file -/

/-- Looks whether everything is acknowledged, and waits (again) if not; `waited` says whether the
transfer has been waiting already, so that its time may be up. -/
def tryComplete (s : Server) (deadline : Int) (waited : Bool) : Server :=
  if s.sender.allAcked then (s.note .allAcknowledged).endTransfer true
  else if waited && deadline ≤ s.host.now then
    (s.note (.acksTimedOut s.sender.inFlight.length)).endTransfer false
  else { s with stage := .awaitingAcks deadline false }

/-- Sends a packet for which there is room. -/
def sendNow (s : Server) (payload : Bytes) (flags : Flags) : Server :=
  let (sender, actions) := s.sender.send s.host.now payload flags
  performAll link actions { s with sender }

/-- Sends the end of the file as soon as there is room. -/
def sendEnd (s : Server) : Server :=
  if s.sender.hasRoom s.options.settings then
    let s := s.sendNow [] Flags.fin
    (s.note (.awaitingAcks s.report.fileSize)).tryComplete
      (s.host.now + s.options.settings.completionTimeout) false
  else { s with stage := .sendingEnd false }

/-- Reads pieces of the file, and counts their bytes. -/
def readPieces (s : Server) (pieces : List Bytes) : Server :=
  { s with report := { s.report with
      fileSize := s.report.fileSize + pieces.flatten.length } }

/-- Sends a piece of the file for which there is room. -/
def sendPiece (s : Server) (piece : Bytes) : Server :=
  s.sendNow piece Flags.data

/-- Sends as many pieces of the file as there is room for, and after the last of them its end.  If
the file could not be read to its end, that is written about first.  The first of the pieces has
been read already, and after each that is sent the next is read, whether or not there is room for
it. -/
def sendData (s : Server) (feed : Feed) : Server :=
  let room := s.sender.room s.options.settings
  let rest := feed.drop room
  let s := ((feed.take room).foldl sendPiece s).readPieces ((feed.drop 1).take room)
  if rest.isEmpty then
    match s.readFailure with
    | some path => (s.note (.readFailed path)).sendEnd
    | none => s.sendEnd
  else { s with stage := .sendingData rest false }

/-! ## The request -/

/-- The server ready to send a file: the sender, its timer and the listener come to life, and the
first piece is read. -/
def prepare (s : Server) (path : Bytes) (source : Source) (sender : Sender) : Server :=
  let size := s.options.settings.maxPayload
  readPieces { s with
    readFailure := if source.fails size then some path else none
    sender
    timer := .starting
    listener := .starting
    listening := true
    report := { s.report with startTime := reportTime s.host.now } }
    ((source.feed size).take 1)

/-- The start of a transfer. -/
def beginTransfer (s : Server) (path : Bytes) (source : Source) (sender : Sender) : Server :=
  (s.prepare path source sender).sendData (source.feed s.options.settings.maxPayload)

/-- A request: the named file is sent if it may be served and can be opened. -/
def acceptRequest (s : Server) (r : Received) : Server :=
  let name := r.packet.payload
  let s := { s.note (.requestReceived name r.source r.port) with
    client := r.source
    report := { s.report with role := text "server", fileName := name } }
  match resolveRequest? s.options.directory name with
  | none => (s.note (.nameRejected name)).finish false
  | some path =>
    match s.host.files.source? path with
    | none => (s.note (.fileNotFound path)).finish false
    | some source =>
      match Sender.create s.options.settings with
      | .error cause => { s with stage := .over (.broken cause) }
      | .ok sender => s.beginTransfer path source sender

/-- The transfer reads for a request. -/
def awaitRequest (s : Server) : Server :=
  { s with stage := .awaitingRequest s.readDeadline }

/-- What was read while waiting for a request. -/
def considerRequest (s : Server) : Option Received → Server
  | none => s.awaitRequest
  | some r =>
    if r.packet.isRequest then s.acceptRequest r
    else (s.noteVerbose (.ignoredBeforeRequest r.packet)).awaitRequest

/-! ## Turns -/

/-- **A turn of the transfer.** -/
def resumeTransfer (s : Server) : Server :=
  match s.stage with
  | .starting => (s.note .awaitingRequest).awaitRequest
  | .awaitingRequest _ => let (received, s) := s.receive; s.considerRequest received
  | .sendingData rest _ => s.sendData rest
  | .sendingEnd _ => s.sendEnd
  | .awaitingAcks deadline _ => s.tryComplete deadline true
  | .joiningTimer => s.stopListening
  | .joiningListener => s.conclude
  | .over _ => s

/-- **A turn of the timer.** -/
def resumeTimer (s : Server) : Server :=
  let (timer, sender, actions) := s.timer.resume s.options.settings s.host.now s.sender
  performAll link actions { s with timer, sender }

/-- An acknowledgement from the client that asked for the file. -/
def heedAck (s : Server) (number : UInt32) : Server :=
  { s.noteVerbose (.acknowledged number) with
    sender := s.sender.acknowledge number
    stage := s.stage.notify
    report := { s.report with packetsReceived := s.report.packetsReceived + 1 } }

/-- What the listener makes of what it read. -/
def heed (s : Server) : Option Received → Server
  | none => s
  | some r => if r.source = s.client ∧ r.packet.isAck then s.heedAck r.packet.ack else s

/-- The listener at the head of its loop: it reads, or ends if it is told to. -/
def listen (s : Server) : Server :=
  { s with listener := if s.listening then .reading s.readDeadline else .ended }

/-- **A turn of the listener.** -/
def resumeListener (s : Server) : Server :=
  match s.listener with
  | .starting => s.listen
  | .reading _ => let (received, s) := s.receive; (s.heed received).listen
  | .ended => s

end ReliableTransfer.Server
