import ReliableTransfer.Proofs.Server.Settling

/-!
# What a server makes of what it hears

A server that sends a file heeds only the acknowledgements of its client, and nothing it does
depends on what else the network brings: on what is still to come of that, on what was counted or
written because of it, or on when a read began.

* `Arrival.speaks`, `Server.hush` — an acknowledgement by the client, and the server to which nobody
  else speaks.
* `Server.gist` — all of a server that shows in what it sends and in how its run comes out.
* `Server.Deaf` — a function of a server that does not depend on what the hush removes.
* `Server.deaf_sendPieces`, `Server.deaf_resumeTimer`, `Server.deaf_heed` — sending, the timer, and
  what the listener makes of what it reads.
* **`Server.deaf_resumeTransfer`**, **`Server.gist_acceptRequest`** — the gist of what a turn of the
  transfer comes to, and of what a request leads to.
-/

namespace ReliableTransfer

/-- Whether an arrival is an acknowledgement by a client. -/
def Arrival.speaks (port : UInt16) (client : Ipv4.Address) (a : Arrival) : Bool :=
  (a.reading port).any fun r => decide (r.source = client ∧ r.packet.isAck = true)

/-- What matters of what will arrive while a server waits for a request: the first request, and the
acknowledgements that come after it from the same address. -/
def Arrival.asks (port : UInt16) : List Arrival → List Arrival
  | [] => []
  | a :: rest =>
    match (a.reading port).filter (·.packet.isRequest) with
    | some r => a :: rest.filter (speaks port r.source)
    | none => asks port rest

/-- A report without the counters of what was received. -/
def Report.unheard (r : Report) : Report :=
  { r with packetsReceived := 0, corrupted := 0 }

/-- A stage without the time a read may take.  A server that starts is about to read. -/
def Stage.hush : Stage → Stage
  | starting | awaitingRequest _ => awaitingRequest none
  | stage => stage

lemma Stage.hush_hush (stage : Stage) : stage.hush.hush = stage.hush := by
  cases stage <;> rfl

/-- A listener without the time its read may take. -/
def Listener.hush : Listener → Listener
  | reading _ => reading none
  | listener => listener

lemma Listener.hush_hush (listener : Listener) : listener.hush.hush = listener.hush := by
  cases listener <;> rfl

/-- Whether the transfer is under way. -/
def Stage.isServing : Stage → Bool
  | sendingData _ _ | sendingEnd _ | awaitingAcks _ _ | joiningTimer => true
  | _ => false

lemma Stage.isServing_hush (stage : Stage) : stage.hush.isServing = stage.isServing := by
  cases stage <;> rfl

lemma Stage.isServing_notify (stage : Stage) : stage.notify.isServing = stage.isServing := by
  cases stage <;> rfl

namespace Server

variable {s t : Server}

/-- **The server to which only its client speaks.** -/
def hush (s : Server) : Server :=
  { s with
    host := { s.host with
      arrivals := s.host.arrivals.filter (Arrival.speaks s.endpoint.port s.client)
      notices := [] }
    endpoint := { s.endpoint with corrupted := 0 }
    stage := s.stage.hush
    listener := s.listener.hush }

/-- All that shows of a run that is over. -/
def remains (conclusion : Conclusion) (report : Report) (s : Server) : Server where
  options := s.options
  host := { now := s.host.now, sent := s.host.sent }
  endpoint := { address := [], port := 0 }
  stage := .over conclusion
  report := report.unheard

/-- All that shows of a run that only its listener keeps. -/
def leave (s : Server) : Server :=
  s.remains (.finished s.readFailure.isNone) { s.report with
    packetsSent := s.sender.packetsSent
    retransmissions := s.sender.retransmissions }

/-- **All of a server that shows** in what it sends and in how its run comes out. -/
def gist (s : Server) : Server :=
  match s.stage with
  | .starting | .awaitingRequest _ =>
    { s.hush with host := { s.hush.host with
      arrivals := Arrival.asks s.endpoint.port s.host.arrivals } }
  | .sendingData _ _ | .sendingEnd _ | .awaitingAcks _ _ | .joiningTimer => s.hush
  | .joiningListener => s.leave
  | .over conclusion => s.remains conclusion s.report

lemma gist_of_isServing (h : s.stage.isServing = true) : s.gist = s.hush := by
  rw [gist]
  cases hstage : s.stage with
  | sendingData | sendingEnd | awaitingAcks | joiningTimer => rfl
  | starting | awaitingRequest | joiningListener | «over» =>
      rw [hstage] at h
      cases h

/-! ## Functions that do not hear -/

/-- **A function that does not depend** on what the hush removes. -/
def Deaf {α : Type} (f : Server → α) : Prop :=
  ∀ s, f s.hush = f s

/-- Another hush adds nothing, whatever was done between the two. -/
lemma hush_with (s : Server) {stage stage' : Stage} (hstage : stage.hush = stage'.hush)
    {listener listener' : Listener} (hlistener : listener.hush = listener'.hush)
    (readFailure : Option Bytes) (sender : Sender) (timer : Timer) (listening : Bool)
    (report : Report) :
    ({ s.hush with
        stage, listener, readFailure, sender, timer, listening, report } : Server).hush
      = ({ s with
          stage := stage'
          listener := listener'
          readFailure
          sender
          timer
          listening
          report } : Server).hush := by
  simp only [hush, List.filter_filter, Bool.and_self, hstage, hlistener]

lemma hush_hush (s : Server) : s.hush.hush = s.hush :=
  hush_with s s.stage.hush_hush s.listener.hush_hush s.readFailure s.sender s.timer s.listening
    s.report

/-- Another hush adds nothing to what the sender, its timer and the report have become. -/
lemma hush_update (s : Server) (sender : Sender) (timer : Timer) (report : Report) :
    ({ s.hush with sender, timer, report } : Server).hush
      = ({ s with sender, timer, report } : Server).hush :=
  hush_with s s.stage.hush_hush s.listener.hush_hush s.readFailure sender timer s.listening report

namespace Deaf

variable {α : Type} {f : Server → α} {g : Server → Server}

lemma eq (hf : Deaf f) (hst : s.hush = t.hush) : f s = f t := by
  rw [← hf s, hst, hf t]

/-- What is done before may be done out of hearing. -/
lemma comp (hf : Deaf f) (hg : Deaf fun s => (g s).hush) : Deaf fun s => f (g s) :=
  fun s => hf.eq (hg s)

end Deaf

lemma deaf_note (n : Notice) : Deaf fun s => (s.note n).hush :=
  hush_hush

lemma hush_noteVerbose (s : Server) (n : Notice) : (s.noteVerbose n).hush = s.hush := by
  obtain ⟨notices, hnotices⟩ := s.host.noteIf_eq s.options.verbose n
  rw [noteVerbose, hnotices]
  rfl

lemma deaf_noteVerbose (n : Notice) : Deaf fun s => (s.noteVerbose n).hush := by
  intro s
  dsimp only
  rw [hush_noteVerbose, hush_noteVerbose, hush_hush]

end Server

/-! ## Sending -/

/-- The network takes a datagram whatever is still to arrive and whatever was written. -/
lemma Host.sendTo_of_hush (h : Host) (arrivals : List Arrival) (notices : List Notice)
    (descriptor : Option Nat) (address : Ipv4.Address) (port : UInt16) (frame : Bytes) :
    ∃ outcome h', h.sendTo descriptor address port frame = (outcome, h') ∧
      ({ h with arrivals, notices } : Host).sendTo descriptor address port frame
        = (outcome, { h' with arrivals, notices }) := by
  rw [sendTo, sendTo]
  rw [show ({ h with arrivals, notices } : Host).socket? = h.socket? from rfl]
  cases descriptor.bind h.socket? with
  | none => exact ⟨_, _, rfl, rfl⟩
  | some socket => exact ⟨_, _, rfl, rfl⟩

/-- **Sending a packet** does not depend on that either. -/
lemma Endpoint.send_of_hush (e : Endpoint) (p : Packet) (dst : Bytes) (port : UInt16) (h : Host)
    (corrupted : Nat) (arrivals : List Arrival) (notices : List Notice) :
    ∃ ok h' notices', e.send p dst port h = (ok, h') ∧
      ({ e with corrupted } : Endpoint).send p dst port { h with arrivals, notices }
        = (ok, { h' with arrivals, notices := notices' }) := by
  rw [send, send]
  dsimp only
  cases pack e.address e.port dst port p with
  | error cause => exact ⟨_, _, _, rfl, rfl⟩
  | ok packed =>
      obtain ⟨address, datagram⟩ := packed
      obtain ⟨outcome, h', hsend, hsend'⟩ :=
        h.sendTo_of_hush arrivals notices e.descriptor address port datagram
      dsimp only
      rw [hsend, hsend']
      cases outcome with
      | error cause => exact ⟨_, _, _, rfl, rfl⟩
      | ok sent =>
          dsimp only
          split_ifs
          · exact ⟨_, _, _, rfl, rfl⟩
          · exact ⟨_, _, _, rfl, rfl⟩

namespace Server

variable {s t : Server}

/-- **A packet** is sent or not, whatever there is to hear. -/
lemma transmit_hush (p : Packet) (s : Server) :
    ∃ ok t t', link.transmit p s.hush = (ok, t) ∧ link.transmit p s = (ok, t') ∧
      t.hush = t'.hush := by
  obtain ⟨notices, hnotices⟩ := s.host.noteIf_eq s.options.verbose (.transmitting p)
  obtain ⟨notices', hnotices'⟩ := s.hush.host.noteIf_eq s.options.verbose (.transmitting p)
  obtain ⟨ok, h, notices'', hsend, hsend'⟩ := s.endpoint.send_of_hush p s.client.dotted
    s.options.settings.clientPort { s.host with notices } 0 s.hush.host.arrivals notices'
  obtain ⟨more, hposted⟩ := s.endpoint.exists_posted_send { s.host with notices } s.client.dotted
    s.options.settings.clientPort p
  rw [hsend] at hposted
  have hheard : link.transmit p s = (ok, { s with host := h }) := by
    simp only [link, noteVerbose, hnotices, hsend]
  have hunheard : link.transmit p s.hush = (ok, { s.hush with
      host := { h with arrivals := s.hush.host.arrivals, notices := notices'' } }) := by
    have hoptions : s.hush.options = s.options := rfl
    simp only [link, noteVerbose, hoptions, hnotices']
    exact congrArg (fun x : Bool × Host => (x.1, { s.hush with host := x.2 })) hsend'
  have harrivals : s.hush.host.arrivals
      = h.arrivals.filter (Arrival.speaks s.endpoint.port s.client) :=
    congrArg (List.filter _) hposted.arrivals_eq.symm
  refine ⟨ok, _, _, hunheard, hheard, ?_⟩
  rw [harrivals]
  exact hush_hush { s with host := h }

/-- **An action of the sender** is done, whatever there is to hear. -/
lemma deaf_perform (action : Action) : Deaf fun s => (action.perform link s).hush := by
  intro s
  cases action with
  | transmit p =>
      obtain ⟨ok, t, t', hunheard, hheard, hhush⟩ := transmit_hush p s
      simp only [Action.perform, hunheard, hheard]
      cases ok <;> exact hhush
  | retransmit p =>
      obtain ⟨ok, t, t', hunheard, hheard, hhush⟩ := transmit_hush p s
      simp only [Action.perform, hunheard, hheard]
      cases ok <;> exact hhush
  | giveUp maxRetries seq => exact deaf_note (.retriesExceeded maxRetries seq) s

lemma deaf_performAll (actions : List Action) : Deaf fun s => (performAll link actions s).hush := by
  induction actions with
  | nil => exact hush_hush
  | cons action actions ih => exact ih.comp (deaf_perform action)

lemma deaf_sendNow (payload : Bytes) (flags : Flags) :
    Deaf fun s => (s.sendNow payload flags).hush := by
  intro s
  exact (deaf_performAll (s.sender.send s.host.now payload flags).2).eq
    (hush_update s (s.sender.send s.host.now payload flags).1 s.timer s.report)

/-- **Pieces of the file** are sent, whatever there is to hear. -/
lemma deaf_sendPieces (pieces : List Bytes) : Deaf fun s => (pieces.foldl sendPiece s).hush := by
  induction pieces with
  | nil => exact hush_hush
  | cons piece rest ih => exact ih.comp (deaf_sendNow piece Flags.data)

lemma deaf_readPieces (pieces : List Bytes) : Deaf fun s => (s.readPieces pieces).hush := fun s =>
  hush_update s s.sender s.timer _

/-! ## The other tasks -/

lemma deaf_resumeTimer : Deaf fun s => s.resumeTimer.hush := by
  intro s
  exact (deaf_performAll (s.timer.resume s.options.settings s.host.now s.sender).2.2).eq
    (hush_update s (s.timer.resume s.options.settings s.host.now s.sender).2.1
      (s.timer.resume s.options.settings s.host.now s.sender).1 s.report)

/-- **What the listener makes of what it read** depends on nothing else. -/
lemma deaf_heed (received : Option Received) : Deaf fun s => (s.heed received).hush := by
  have heedsAck : ∀ number, Deaf fun s => (s.heedAck number).hush := by
    intro number
    have changed : Deaf fun s => ({ s with
        sender := s.sender.acknowledge number
        stage := s.stage.notify
        report := { s.report with packetsReceived := s.report.packetsReceived + 1 } }
          : Server).hush := by
      intro s
      refine hush_with s ?_ s.listener.hush_hush _ _ _ _ _
      show s.stage.hush.notify.hush = s.stage.notify.hush
      cases s.stage <;> rfl
    exact changed.comp (deaf_noteVerbose _)
  cases received with
  | none => exact hush_hush
  | some r =>
      intro s
      dsimp only
      rw [heed, heed]
      change hush (if r.source = s.client ∧ r.packet.isAck = true then _ else _) = _
      split_ifs
      · exact heedsAck r.packet.ack s
      · exact hush_hush s

lemma deaf_listen : Deaf fun s => s.listen.hush := by
  intro s
  refine hush_with s s.stage.hush_hush ?_ _ _ _ _ _
  show Listener.hush (if s.listening then .reading _ else .ended)
    = Listener.hush (if s.listening then _ else _)
  split_ifs <;> rfl

/-! ## The transfer -/

lemma deaf_remains (conclusion : Conclusion) : Deaf fun s => s.remains conclusion s.report :=
  fun _ => rfl

/-- **The end of a run** closes the endpoint and writes, and that does not show. -/
lemma gist_finish (s : Server) (ok : Bool) :
    (s.finish ok).gist = s.remains (.finished ok) s.report := by
  obtain ⟨endpoint, h, hfinish, _, _, hsent⟩ := finish_eq s ok
  obtain ⟨_, _, hfinish', hnow, _⟩ := finish_frame s ok
  obtain rfl := congrArg Server.host (hfinish.symm.trans hfinish')
  rw [hfinish]
  show Server.remains _ _ _ = _
  rw [remains, remains, hnow, hsent]

lemma gist_conclude (s : Server) : s.conclude.gist = s.leave := by
  rw [conclude, gist_finish]
  rfl

lemma gist_stopListening (s : Server) : s.stopListening.gist = s.leave := by
  rw [stopListening]
  split_ifs
  · exact gist_conclude { s with listening := false }
  · rfl

lemma deaf_endTransfer (completed : Bool) : Deaf fun s => (s.endTransfer completed).gist := by
  intro s
  dsimp only
  rw [endTransfer, endTransfer]
  change gist (if s.timer.notify.hasEnded = true then _ else _) = _
  split_ifs
  · rw [gist_stopListening, gist_stopListening]
    rfl
  · exact hush_with s rfl s.listener.hush_hush _ _ _ _ _

lemma deaf_tryComplete (deadline : Int) (waited : Bool) :
    Deaf fun s => (s.tryComplete deadline waited).gist := by
  intro s
  dsimp only
  rw [tryComplete, tryComplete]
  change gist (if s.sender.allAcked = true then _ else
    if (waited && decide (deadline ≤ s.host.now)) = true then _ else _) = _
  split_ifs
  · exact (deaf_endTransfer true).comp (deaf_note .allAcknowledged) s
  · exact (deaf_endTransfer false).comp (deaf_note (.acksTimedOut s.sender.inFlight.length)) s
  · exact hush_with s rfl s.listener.hush_hush _ _ _ _ _

lemma deaf_sendEnd : Deaf fun s => s.sendEnd.gist := by
  have completes : Deaf fun s => ((s.note (.awaitingAcks s.report.fileSize)).tryComplete
      (s.host.now + s.options.settings.completionTimeout) false).gist := fun s =>
    (deaf_tryComplete (s.host.now + s.options.settings.completionTimeout) false).comp
      (deaf_note (.awaitingAcks s.report.fileSize)) s
  intro s
  dsimp only
  rw [sendEnd, sendEnd]
  change gist (if s.sender.hasRoom s.options.settings = true then _ else _) = _
  split_ifs
  · exact completes.comp (deaf_sendNow [] Flags.fin) s
  · exact hush_with s rfl s.listener.hush_hush _ _ _ _ _

/-- What comes after a share of the feed has been sent and the next pieces have been read. -/
def goOn (rest : Feed) (s : Server) : Server :=
  if rest.isEmpty then
    match s.readFailure with
    | some path => (s.note (.readFailed path)).sendEnd
    | none => s.sendEnd
  else { s with stage := .sendingData rest false }

lemma deaf_goOn (rest : Feed) : Deaf fun s => (s.goOn rest).gist := by
  intro s
  dsimp only
  rw [goOn, goOn]
  split_ifs
  · rw [show s.hush.readFailure = s.readFailure from rfl]
    cases s.readFailure with
    | some path => exact deaf_sendEnd.comp (deaf_note (.readFailed path)) s
    | none => exact deaf_sendEnd s
  · exact hush_with s rfl s.listener.hush_hush _ _ _ _ _

/-- **Sending what there is room for.** -/
lemma deaf_sendData (feed : Feed) : Deaf fun s => (s.sendData feed).gist := fun s =>
  (deaf_goOn (feed.drop (s.sender.room s.options.settings))).comp
    ((deaf_readPieces ((feed.drop 1).take (s.sender.room s.options.settings))).comp
      (deaf_sendPieces (feed.take (s.sender.room s.options.settings)))) s

/-- **A turn of a transfer under way.** -/
lemma deaf_resumeTransfer (hs : s.stage.isServing = true) :
    s.hush.resumeTransfer.gist = s.resumeTransfer.gist := by
  rw [resumeTransfer, resumeTransfer]
  rw [show s.hush.stage = s.stage.hush from rfl]
  cases hstage : s.stage with
  | sendingData rest notified => exact deaf_sendData rest s
  | sendingEnd notified => exact deaf_sendEnd s
  | awaitingAcks deadline notified => exact deaf_tryComplete deadline true s
  | joiningTimer =>
      show s.hush.stopListening.gist = s.stopListening.gist
      rw [gist_stopListening, gist_stopListening]
      rfl
  | starting | awaitingRequest | joiningListener | «over» =>
      rw [hstage] at hs
      cases hs

/-! ## The request -/

lemma deaf_beginTransfer (path : Bytes) (source : Source) (sender : Sender) :
    Deaf fun s => (s.beginTransfer path source sender).gist := by
  intro s
  exact (deaf_sendData (source.feed s.options.settings.maxPayload)).eq
    (hush_with s s.stage.hush_hush rfl _ _ _ _ _)

/-- **What a request leads to** depends on the request, once it was noted who made it. -/
lemma gist_acceptRequest {r : Received} (hst : (s.asked r).hush = (t.asked r).hush) :
    (s.acceptRequest r).gist = (t.acceptRequest r).gist := by
  have hoptions : (s.asked r).options = (t.asked r).options :=
    Deaf.eq (f := Server.options) (fun _ => rfl) hst
  have hfiles : (s.asked r).host.files = (t.asked r).host.files :=
    Deaf.eq (f := fun u => u.host.files) (fun _ => rfl) hst
  have hshown : ∀ conclusion, (s.asked r).remains conclusion (s.asked r).report
      = (t.asked r).remains conclusion (t.asked r).report := fun c => (deaf_remains c).eq hst
  have refused : ∀ n, (((s.asked r).note n).finish false).gist
      = (((t.asked r).note n).finish false).gist := by
    intro n
    rw [gist_finish, gist_finish]
    exact hshown (.finished false)
  rw [acceptRequest_eq, acceptRequest_eq]
  rw [show s.options = t.options from hoptions, show s.host.files = t.host.files from hfiles]
  split
  · exact refused _
  · split
    · exact refused _
    · split
      · exact hshown _
      · exact (deaf_beginTransfer _ _ _).eq hst

end Server

end ReliableTransfer
