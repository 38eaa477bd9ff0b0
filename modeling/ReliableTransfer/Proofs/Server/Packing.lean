import Mathlib.Data.List.Forall2
import ReliableTransfer.Proofs.CommandLine.Arguments
import ReliableTransfer.Proofs.Server.Counting

/-!
# The longest piece that can be sent

A packet is framed three times: by its own header, by that of UDP and by that of IPv4, and each of
these has a limit of its own.  The limit that the command line sets for the pieces of a file is the
least of the three, less what the headers take.

* `Host.unpacked` — the packets that could not be framed, as far as they were written about, which
  every one of them is.
* `Server.Packable` — nothing that waits to be sent is too long; every turn of every task keeps it,
  and so a whole run does, and no packet is left unframed by any of them.
* `Server.Unspent` — as long as there is no transfer, the sender is as new.
* `Sending.Frames` — the three headers of a packet that was sent.
* **`Server.every_packet_framed`** — what accepted arguments are good for, and that they could not
  be good for more.
-/

namespace ReliableTransfer

open CommandLine

/-! ## Packets that could not be framed -/

/-- The packet that a line says could not be framed, and why. -/
def Notice.unpacked? : Notice → Option (Packet × PackError)
  | cannotPack p cause => some (p, cause)
  | _ => none

/-- **The packets that could not be framed**, with the reasons, in the order in which they were
written about. -/
def Host.unpacked (h : Host) : List (Packet × PackError) :=
  h.notices.filterMap Notice.unpacked?

namespace Host

variable (h : Host)

lemma unpacked_of_notices {h h' : Host} (hnotices : h'.notices = h.notices) :
    h'.unpacked = h.unpacked := by
  rw [unpacked, hnotices, unpacked]

/-- Other lines make no difference. -/
lemma unpacked_note {n : Notice} (hn : n.unpacked? = none) : (h.note n).unpacked = h.unpacked := by
  rw [unpacked, note, List.filterMap_append, List.filterMap_cons_none hn, List.filterMap_nil,
    List.append_nil, unpacked]

lemma unpacked_noteIf (condition : Bool) {n : Notice} (hn : n.unpacked? = none) :
    (h.noteIf condition n).unpacked = h.unpacked := by
  rw [noteIf]
  split_ifs
  · exact h.unpacked_note hn
  · rfl

lemma notices_socket : h.socket.2.notices = h.notices := by
  rw [socket]
  split <;> rfl

lemma notices_setHeaderIncluded (descriptor : Nat) :
    (h.setHeaderIncluded descriptor).2.notices = h.notices := by
  rw [setHeaderIncluded]
  split <;> rfl

lemma notices_bind (descriptor : Nat) (address : Ipv4.Address) (port : UInt16) :
    (h.bind descriptor address port).2.notices = h.notices := by
  rw [bind]
  split <;> rfl

lemma notices_setReceiveTimeout (descriptor : Nat) (timeout : Int) :
    (h.setReceiveTimeout descriptor timeout).2.notices = h.notices := by
  rw [setReceiveTimeout]
  dsimp only
  split <;> rfl

lemma notices_close (descriptor : Nat) : (h.close descriptor).notices = h.notices := by
  rw [close]
  split <;> rfl

lemma notices_sendTo (descriptor : Option Nat) (address : Ipv4.Address) (port : UInt16)
    (datagram : Bytes) : (h.sendTo descriptor address port datagram).2.notices = h.notices := by
  rw [sendTo]
  split <;> rfl

lemma notices_read (descriptor : Option Nat) : (h.read descriptor).2.notices = h.notices := by
  rw [read]
  split
  · rfl
  · rfl
  · split_ifs
    · split <;> rfl
    · rfl

end Host

lemma Report.unpacked_save (r : Report) (path : Bytes) (h : Host) :
    (r.save path h).2.unpacked = h.unpacked := by
  rw [save]
  split
  · exact h.unpacked_note rfl
  · rfl

namespace Endpoint

variable (e : Endpoint)

lemma unpacked_prepare (descriptor : Nat) (timeout : Int) (h : Host) :
    (e.prepare descriptor timeout h).2.unpacked = h.unpacked := by
  have hheader := Host.unpacked_of_notices (h.notices_setHeaderIncluded descriptor)
  rw [prepare]
  generalize h.setHeaderIncluded descriptor = outcome at hheader ⊢
  rcases outcome with ⟨cause | _, h₁⟩
  · exact (h₁.unpacked_note rfl).trans hheader
  · cases Ipv4.Address.parse? e.address with
    | none => exact (h₁.unpacked_note rfl).trans hheader
    | some address =>
        have hbind := Host.unpacked_of_notices (h₁.notices_bind descriptor address e.port)
        dsimp only
        generalize h₁.bind descriptor address e.port = outcome at hbind ⊢
        rcases outcome with ⟨cause | _, h₂⟩
        · exact (h₂.unpacked_note rfl).trans (hbind.trans hheader)
        · have htimeout := Host.unpacked_of_notices
            (h₂.notices_setReceiveTimeout descriptor timeout)
          dsimp only
          generalize h₂.setReceiveTimeout descriptor timeout = outcome at htimeout ⊢
          rcases outcome with ⟨cause | _, h₃⟩
          · exact (h₃.unpacked_note rfl).trans (htimeout.trans (hbind.trans hheader))
          · exact htimeout.trans (hbind.trans hheader)

lemma unpacked_attach (timeout : Int) (h : Host) :
    (e.attach timeout h).2.2.unpacked = h.unpacked := by
  have hsocket := Host.unpacked_of_notices h.notices_socket
  rw [attach]
  generalize h.socket = outcome at hsocket ⊢
  rcases outcome with ⟨cause | descriptor, h₁⟩
  · exact (Host.unpacked_noteIf _ _ rfl).trans ((h₁.unpacked_note rfl).trans hsocket)
  · exact (e.unpacked_prepare descriptor timeout h₁).trans hsocket

lemma unpacked_detach (h : Host) : (e.detach h).2.unpacked = h.unpacked := by
  rw [detach]
  cases e.descriptor with
  | none => rfl
  | some descriptor => exact Host.unpacked_of_notices (h.notices_close descriptor)

/-- **A packet that can be framed** is not written about as one that cannot. -/
lemma unpacked_send {p : Packet} {dst : Bytes} {dstPort : UInt16} {x : Ipv4.Address × Bytes}
    (hpack : pack e.address e.port dst dstPort p = .ok x) (h : Host) :
    (e.send p dst dstPort h).2.unpacked = h.unpacked := by
  obtain ⟨address, datagram⟩ := x
  have hsend := Host.unpacked_of_notices (h.notices_sendTo e.descriptor address dstPort datagram)
  rw [send, hpack]
  dsimp only
  generalize h.sendTo e.descriptor address dstPort datagram = outcome at hsend ⊢
  rcases outcome with ⟨cause | sent, h₁⟩
  · exact (h₁.unpacked_note rfl).trans hsend
  · dsimp only
    split_ifs
    · exact hsend
    · exact (h₁.unpacked_note rfl).trans hsend

lemma unpacked_interpret (bytes : Bytes) (h : Host) :
    (e.interpret bytes h).2.2.unpacked = h.unpacked := by
  rw [interpret]
  split
  · rfl
  · split_ifs
    · rfl
    · split
      · rfl
      · exact h.unpacked_note rfl

lemma unpacked_receive (h : Host) : (e.receive h).2.2.unpacked = h.unpacked := by
  have hread := Host.unpacked_of_notices (h.notices_read e.descriptor)
  rw [receive]
  generalize h.read e.descriptor = outcome at hread ⊢
  rcases outcome with ⟨cause | bytes, h₁⟩
  · exact (h₁.unpacked_noteIf _ rfl).trans hread
  · exact (e.unpacked_interpret bytes h₁).trans hread

end Endpoint

/-! ## What waits to be sent -/

/-- No piece that lies ahead is longer than a datagram can take. -/
def Feed.Short : Feed → Prop
  | pieces rest => ∀ piece ∈ rest, piece.length ≤ maxChunk
  | endless piece => piece.length ≤ maxChunk

/-- Nor is one that waits for room. -/
def Stage.Short : Stage → Prop
  | sendingData rest _ => rest.Short
  | _ => True

lemma Stage.short_notify {stage : Stage} (h : stage.Short) : stage.notify.Short := by
  cases stage <;> exact h

namespace Feed

variable {feed : Feed}

lemma Short.of_mem_take (h : feed.Short) {n : Nat} {piece : Bytes} (hpiece : piece ∈ feed.take n) :
    piece.length ≤ maxChunk := by
  cases feed with
  | pieces rest => exact h piece (List.mem_of_mem_take hpiece)
  | endless piece' =>
      rw [(List.mem_replicate.1 hpiece).2]
      exact h

lemma Short.drop (h : feed.Short) (n : Nat) : (feed.drop n).Short := by
  cases feed with
  | pieces rest => exact fun piece hpiece => h piece (List.mem_of_mem_drop hpiece)
  | endless piece => exact h

end Feed

/-- A file is cut into pieces of the length it is told. -/
lemma Source.short_feed {size : Nat} (hsize : size ≤ maxChunk) (source : Source) :
    (source.feed size).Short := by
  cases source with
  | content bytes | failing bytes =>
      exact fun piece hpiece => Nat.le_trans (length_of_mem_chunks hpiece).2 hsize
  | zeros =>
      rw [feed]
      split_ifs
      · exact fun piece hpiece => absurd hpiece List.not_mem_nil
      · exact Nat.le_trans (Nat.le_of_eq List.length_replicate) hsize

namespace Server

/-- **Nothing that waits to be sent is too long**, neither what is in flight nor what lies ahead,
and no packet was left unframed so far. -/
structure Packable (o : ServerOptions) (before : List (Packet × PackError)) (s : Server) : Prop
    extends s.Located o where
  inFlight : ∀ r ∈ s.sender.inFlight, r.packet.payload.length ≤ maxChunk
  ahead : s.stage.Short
  unpacked_eq : s.host.unpacked = before

namespace Packable

variable {o : ServerOptions} {before : List (Packet × PackError)} {s : Server}

lemma with_host (hp : s.Packable o before) {h : Host} (hh : h.unpacked = s.host.unpacked) :
    ({ s with host := h } : Server).Packable o before :=
  ⟨⟨hp.options_eq, hp.address_eq, hp.port_eq⟩, hp.inFlight, hp.ahead, hh.trans hp.unpacked_eq⟩

/-- The server may come to another stage, and what else it holds makes no difference. -/
lemma moveOn (hp : s.Packable o before) {s' : Server} (hoptions : s'.options = s.options)
    (hendpoint : s'.endpoint = s.endpoint) (hinFlight : s'.sender.inFlight = s.sender.inFlight)
    (hhost : s'.host = s.host) (hshort : s'.stage.Short) : s'.Packable o before := by
  refine ⟨⟨?_, ?_, ?_⟩, ?_, hshort, ?_⟩
  · rw [hoptions, hp.options_eq]
  · rw [hendpoint, hp.address_eq]
  · rw [hendpoint, hp.port_eq]
  · rw [hinFlight]
    exact hp.inFlight
  · rw [hhost, hp.unpacked_eq]

lemma with_report (hp : s.Packable o before) (report : Report) :
    ({ s with report } : Server).Packable o before :=
  hp.moveOn rfl rfl rfl rfl hp.ahead

lemma readPieces (hp : s.Packable o before) (pieces : List Bytes) :
    (s.readPieces pieces).Packable o before :=
  hp.with_report _

/-- The sender may be another one if what that has in flight is not too long. -/
lemma with_sender (hp : s.Packable o before) (timer : Timer) {w : Sender}
    (hw : ∀ r ∈ w.inFlight, r.packet.payload.length ≤ maxChunk) :
    ({ s with timer, sender := w } : Server).Packable o before :=
  ⟨⟨hp.options_eq, hp.address_eq, hp.port_eq⟩, hw, hp.ahead, hp.unpacked_eq⟩

lemma note (hp : s.Packable o before) {n : Notice} (hn : n.unpacked? = none) :
    (s.note n).Packable o before :=
  hp.with_host (s.host.unpacked_note hn)

lemma noteVerbose (hp : s.Packable o before) {n : Notice} (hn : n.unpacked? = none) :
    (s.noteVerbose n).Packable o before :=
  hp.with_host (s.host.unpacked_noteIf _ hn)

/-! ### The end of a run -/

lemma finish (hp : s.Packable o before) (ok : Bool) : (s.finish ok).Packable o before := by
  have hunpacked : (s.finish ok).host.unpacked = s.host.unpacked := by
    rw [Server.finish]
    refine (Host.unpacked_note _ rfl).trans ((s.endpoint.unpacked_detach _).trans ?_)
    cases s.options.reportPath with
    | none => rfl
    | some path => exact s.report.unpacked_save path _
  obtain ⟨endpoint, host, hfinish, haddress, hport, _⟩ := finish_eq s ok
  rw [hfinish] at hunpacked ⊢
  exact ⟨⟨hp.options_eq, haddress.trans hp.address_eq, hport.trans hp.port_eq⟩, hp.inFlight,
    trivial, hunpacked.trans hp.unpacked_eq⟩

lemma conclude (hp : s.Packable o before) : s.conclude.Packable o before :=
  (hp.with_report _).finish _

lemma stopListening (hp : s.Packable o before) : s.stopListening.Packable o before := by
  rw [Server.stopListening]
  split_ifs
  · exact conclude (hp.moveOn rfl rfl rfl rfl hp.ahead)
  · exact hp.moveOn rfl rfl rfl rfl trivial

lemma endTransfer (hp : s.Packable o before) (completed : Bool) :
    (s.endTransfer completed).Packable o before := by
  rw [Server.endTransfer]
  split_ifs
  · exact stopListening (hp.moveOn rfl rfl rfl rfl hp.ahead)
  · exact hp.moveOn rfl rfl rfl rfl trivial

lemma tryComplete (hp : s.Packable o before) (deadline : Int) (waited : Bool) :
    (s.tryComplete deadline waited).Packable o before := by
  rw [Server.tryComplete]
  split_ifs
  · exact (hp.note rfl).endTransfer true
  · exact (hp.note rfl).endTransfer false
  · exact hp.moveOn rfl rfl rfl rfl trivial

/-! ### Sending

From here on the server has an address that can be written into a header.  The client's always
can. -/

section Sending

variable {a : Ipv4.Address} (haddress : Ipv4.Address.parse? o.address = some a)
include haddress

/-- **The link frames every packet** that is not too long. -/
lemma transmit (hp : s.Packable o before) {p : Packet} (hlength : p.payload.length ≤ maxChunk) :
    (link.transmit p s).2.Packable o before := by
  have hnoted := hp.noteVerbose (n := .transmitting p) rfl
  obtain ⟨datagram, hpack⟩ := exists_pack (hp.address_eq ▸ haddress)
    (Ipv4.Address.parse?_dotted s.client) s.endpoint.port s.options.settings.clientPort hlength
  exact hnoted.with_host (s.endpoint.unpacked_send hpack _)

lemma perform (hp : s.Packable o before) {action : Action}
    (haction : ∀ p, action.packet? = some p → p.payload.length ≤ maxChunk) :
    (action.perform link s).Packable o before := by
  cases action with
  | transmit p | retransmit p =>
      have hsent := hp.transmit haddress (haction p rfl)
      rw [Action.perform]
      split
      · rename_i s' hsend
        rwa [hsend] at hsent
      · rename_i s' hsend
        rw [hsend] at hsent
        exact hsent.note rfl
  | giveUp maxRetries seq => exact hp.note rfl

lemma performAll (hp : s.Packable o before) {actions : List Action}
    (hactions : ∀ p ∈ actions.filterMap Action.packet?, p.payload.length ≤ maxChunk) :
    (performAll link actions s).Packable o before := by
  induction actions generalizing s with
  | nil => exact hp
  | cons action actions ih =>
      rw [performAll_cons]
      refine ih (hp.perform haddress fun p hpacket => hactions p ?_) fun p hpacket => hactions p ?_
      · exact List.mem_filterMap.2 ⟨action, List.mem_cons_self, hpacket⟩
      · obtain ⟨action', haction', hpacket'⟩ := List.mem_filterMap.1 hpacket
        exact List.mem_filterMap.2 ⟨action', List.mem_cons_of_mem action haction', hpacket'⟩

lemma sendNow (hp : s.Packable o before) {payload : Bytes} (hlength : payload.length ≤ maxChunk)
    (flags : Flags) : (s.sendNow payload flags).Packable o before := by
  have hinFlight : ∀ r ∈ (s.sender.send s.host.now payload flags).1.inFlight,
      r.packet.payload.length ≤ maxChunk := by
    intro r hr
    rcases Unacked.mem_of_mem_insert hr with rfl | hr
    · exact hlength
    · exact hp.inFlight r hr
  refine (hp.with_sender s.timer hinFlight).performAll haddress fun p hpacket => ?_
  obtain rfl := List.mem_singleton.1 hpacket
  exact hlength

lemma sendEnd (hp : s.Packable o before) : s.sendEnd.Packable o before := by
  rw [Server.sendEnd]
  split_ifs
  · exact ((hp.sendNow haddress (Nat.zero_le _) Flags.fin).note rfl).tryComplete _ false
  · exact hp.moveOn rfl rfl rfl rfl trivial

lemma sendPieces (hp : s.Packable o before) {pieces : List Bytes}
    (hlength : ∀ piece ∈ pieces, piece.length ≤ maxChunk) :
    (pieces.foldl sendPiece s).Packable o before := by
  induction pieces generalizing s with
  | nil => exact hp
  | cons piece pieces ih =>
      have hsent := hp.sendNow haddress (hlength piece List.mem_cons_self) Flags.data
      exact ih hsent fun piece' hpiece' => hlength piece' (List.mem_cons_of_mem piece hpiece')

lemma sendData (hp : s.Packable o before) {feed : Feed} (hfeed : feed.Short) :
    (s.sendData feed).Packable o before := by
  have hsent := hp.sendPieces haddress fun piece hpiece =>
    hfeed.of_mem_take (n := s.sender.room s.options.settings) hpiece
  have hread := hsent.readPieces ((feed.drop 1).take (s.sender.room s.options.settings))
  rw [Server.sendData]
  split_ifs
  · split
    · exact (hread.note rfl).sendEnd haddress
    · exact hread.sendEnd haddress
  · exact hread.moveOn rfl rfl rfl rfl (hfeed.drop _)

lemma resumeTimer (hp : s.Packable o before) : s.resumeTimer.Packable o before := by
  rw [Server.resumeTimer]
  rcases Timer.resume_cases s.options.settings s.host.now s.sender s.timer with
    ⟨timer, hresume, _⟩ | ⟨_, _, timer, hresume⟩
  · rw [hresume]
    exact hp.moveOn rfl rfl rfl rfl hp.ahead
  · rw [hresume]
    have hinFlight : ∀ r ∈ (s.sender.scan s.options.settings s.host.now).1.inFlight,
        r.packet.payload.length ≤ maxChunk := by
      intro r hr
      obtain ⟨r', hr', rfl⟩ := Sender.mem_scan.1 hr
      rw [Unacked.packet_scan]
      exact hp.inFlight r' hr'
    refine (hp.with_sender timer hinFlight).performAll haddress fun p hpacket => ?_
    obtain ⟨r, hr, rfl⟩ := List.mem_map.1 (Sender.packet_mem_of_mem_scan hpacket)
    exact hp.inFlight r hr

end Sending

/-! ### Reading -/

lemma receive (hp : s.Packable o before) : s.receive.2.Packable o before := by
  have hunpacked := s.endpoint.unpacked_receive s.host
  obtain ⟨received, corrupted, arrivals, notices, hreceive, _⟩ := s.endpoint.receive_eq s.host
  rw [Server.receive]
  rw [hreceive] at hunpacked ⊢
  exact ⟨⟨hp.options_eq, hp.address_eq, hp.port_eq⟩, hp.inFlight, hp.ahead,
    hunpacked.trans hp.unpacked_eq⟩

lemma heed (hp : s.Packable o before) (received : Option Received) :
    (s.heed received).Packable o before := by
  cases received with
  | none => exact hp
  | some r =>
      rw [Server.heed]
      split_ifs
      · have hnoted := hp.noteVerbose (n := .acknowledged r.packet.ack) rfl
        exact ⟨⟨hp.options_eq, hp.address_eq, hp.port_eq⟩,
          fun r' hr' => hp.inFlight r' (List.mem_of_mem_filter hr'), Stage.short_notify hp.ahead,
          hnoted.unpacked_eq⟩
      · exact hp

lemma listen (hp : s.Packable o before) : s.listen.Packable o before :=
  hp.moveOn rfl rfl rfl rfl hp.ahead

lemma resumeListener (hp : s.Packable o before) : s.resumeListener.Packable o before := by
  rw [Server.resumeListener]
  cases s.listener with
  | starting => exact hp.listen
  | reading deadline => exact (hp.receive.heed _).listen
  | ended => exact hp

lemma awaitRequest (hp : s.Packable o before) : s.awaitRequest.Packable o before :=
  hp.moveOn rfl rfl rfl rfl trivial

/-! ### The transfer -/

section Transfer

variable {a : Ipv4.Address} (haddress : Ipv4.Address.parse? o.address = some a)
  (hsize : o.settings.maxPayload ≤ maxChunk)
include haddress hsize

/-- The pieces of the file are as long as the command line said, so here its limit comes in. -/
lemma beginTransfer (hp : s.Packable o before) (path : Bytes) (source : Source) {w : Sender}
    (hw : Sender.create o.settings = .ok w) :
    (s.beginTransfer path source w).Packable o before := by
  have hinFlight : ∀ r ∈ w.inFlight, r.packet.payload.length ≤ maxChunk := by
    rw [Sender.eq_of_create hw]
    exact fun r hr => absurd hr List.not_mem_nil
  have hbegun : (s.prepare path source w).Packable o before :=
    ⟨⟨hp.options_eq, hp.address_eq, hp.port_eq⟩, hinFlight, hp.ahead, hp.unpacked_eq⟩
  have hsize' : s.options.settings.maxPayload ≤ maxChunk := by
    rw [hp.options_eq]
    exact hsize
  exact hbegun.sendData haddress (Source.short_feed hsize' source)

lemma acceptRequest (hp : s.Packable o before) (r : Received) :
    (s.acceptRequest r).Packable o before := by
  have hasked : (s.asked r).Packable o before :=
    (hp.note (n := .requestReceived r.packet.payload r.source r.port) rfl).moveOn rfl rfl rfl rfl
      hp.ahead
  rw [acceptRequest_eq]
  cases resolveRequest? s.options.directory r.packet.payload with
  | none => exact (hasked.note rfl).finish false
  | some path =>
      dsimp only
      cases s.host.files.source? path with
      | none => exact (hasked.note rfl).finish false
      | some source =>
          dsimp only
          cases hw : Sender.create s.options.settings with
          | error cause =>
              exact hasked.moveOn rfl rfl rfl rfl trivial
          | ok w =>
              rw [hp.options_eq] at hw
              exact hasked.beginTransfer haddress hsize path source hw

lemma considerRequest (hp : s.Packable o before) (received : Option Received) :
    (s.considerRequest received).Packable o before := by
  cases received with
  | none => exact hp.awaitRequest
  | some r =>
      rw [Server.considerRequest]
      split_ifs
      · exact hp.acceptRequest haddress hsize r
      · exact (hp.noteVerbose rfl).awaitRequest

lemma resumeTransfer (hp : s.Packable o before) : s.resumeTransfer.Packable o before := by
  have hahead := hp.ahead
  rw [Server.resumeTransfer]
  cases hstage : s.stage with
  | starting => exact (hp.note rfl).awaitRequest
  | awaitingRequest deadline => exact hp.receive.considerRequest haddress hsize _
  | sendingData rest notified =>
      rw [hstage] at hahead
      exact hp.sendData haddress hahead
  | sendingEnd notified => exact hp.sendEnd haddress
  | awaitingAcks deadline notified => exact hp.tryComplete deadline true
  | joiningTimer => exact hp.stopListening
  | joiningListener => exact hp.conclude
  | _ => exact hp

/-- **A turn of any task.** -/
lemma resume (hp : s.Packable o before) (i : Nat) : (system.resume i s).Packable o before := by
  match i with
  | 0 => exact hp.resumeTransfer haddress hsize
  | 1 => exact hp.resumeTimer haddress
  | 2 => exact hp.resumeListener
  | _ + 3 => exact hp

/-- **A run**, as far as it goes. -/
lemma passes (hp : s.Packable o before) {limit : Option Int} {s' : Server}
    (hpasses : system.Passes limit s s') : s'.Packable o before := by
  induction hpasses with
  | refl => exact hp
  | tail _ hstep ih =>
      rcases system.step?_eq_some hstep with ⟨i, _, rfl⟩ | ⟨time, _, _, _, rfl⟩
      · exact ih.resume haddress hsize i
      · exact ih.with_host rfl

end Transfer

end Packable

end Server

/-! ## The headers of what was sent -/

/-- **Each of the three headers of a packet could be written**, and together they are what was
sent. -/
structure Sending.Frames (o : ServerOptions) (client : Ipv4.Address) (x : Sending) (p : Packet) :
    Prop where
  address_eq : x.address = client
  port_eq : x.port = o.settings.clientPort
  framed : ∃ app udp ip, p.encode = .ok app ∧
    Udp.build o.settings.serverPort o.settings.clientPort app.length = .ok udp ∧
    Ipv4.build o.address client.dotted (udp.length + app.length) = .ok ip ∧
    x.frame = ip ++ udp ++ app

/-- A frame that was written has both its headers. -/
lemma exists_headers_of_frame {src dst app datagram : Bytes} {srcPort dstPort : UInt16}
    (h : frame src srcPort dst dstPort app = .ok datagram) :
    ∃ udp ip, Udp.build srcPort dstPort app.length = .ok udp ∧
      Ipv4.build src dst (udp.length + app.length) = .ok ip ∧ datagram = ip ++ udp ++ app := by
  simp only [frame, bind_eq_ok_iff, mapError_eq_ok_iff, pure, Except.pure, Except.ok.injEq] at h
  obtain ⟨udp, hudp, ip, hip, rfl⟩ := h
  exact ⟨udp, ip, hudp, hip, rfl⟩

/-- One byte more is one too many for the outer header, whatever the addresses. -/
lemma frame_of_length_eq {app : Bytes} (h : app.length = 65508) (src dst : Bytes)
    (srcPort dstPort : UInt16) :
    frame src srcPort dst dstPort app = .error (.ipv4 (.payloadTooLarge 65516)) := by
  have hudp : ∃ udp, Udp.build srcPort dstPort app.length = .ok udp ∧ udp.length = 8 :=
    ⟨_, Udp.build_eq_ok_iff.2 ⟨by omega, rfl⟩, rfl⟩
  obtain ⟨udp, hudp, hlength⟩ := hudp
  have hip : Ipv4.build src dst (udp.length + app.length) = .error (.payloadTooLarge 65516) := by
    rw [hlength, h]
    rfl
  rw [frame, hudp]
  simp only [Except.mapError, bind, Except.bind, hip]

/-- **What was sent**, packet by packet. -/
lemma Sending.frames_of_postings {o : ServerOptions} {a client : Ipv4.Address}
    (haddress : Ipv4.Address.parse? o.address = some a) {calls : List (Int × Packet)}
    (hlength : ∀ c ∈ calls, c.2.payload.length ≤ maxChunk) {sent : List Sending}
    (hsent : sent.map posting = calls.filterMap (Server.post? o client)) :
    List.Forall₂ (Frames o client) sent (calls.map Prod.snd) := by
  induction calls generalizing sent with
  | nil =>
      rw [List.filterMap_nil, List.map_eq_nil_iff] at hsent
      rw [hsent]
      exact .nil
  | cons c calls ih =>
      obtain ⟨datagram, hpack⟩ := exists_pack haddress (Ipv4.Address.parse?_dotted client)
        o.settings.serverPort o.settings.clientPort (hlength c List.mem_cons_self)
      have hposting : Server.post? o client c
          = some (c.1, client, o.settings.clientPort, datagram) := by
        rw [Server.post?, posting?, hpack]
      rw [List.filterMap_cons_some hposting] at hsent
      obtain ⟨x, rest, rfl, hx, hrest⟩ := List.map_eq_cons_iff.1 hsent
      obtain ⟨app, happ, hframe⟩ := exists_frame_of_pack hpack
      obtain ⟨udp, ip, hudp, hip, hdatagram⟩ := exists_headers_of_frame hframe
      have hbytes : x.frame = datagram := congrArg (·.2.2.2) hx
      have hfirst : x.Frames o client c.2 :=
        ⟨congrArg (·.2.1) hx, congrArg (·.2.2.1) hx, app, udp, ip, happ, hudp, hip,
          hbytes.trans hdatagram⟩
      exact .cons hfirst (ih (fun c' hc' => hlength c' (List.mem_cons_of_mem c hc')) hrest)

/-! ## The run -/

namespace Server

variable {o : ServerOptions} {files : Files} {before : List Sending} {host : Host} {s s' : Server}

/-- **Without a transfer the sender is as new.** -/
def Unspent (o : ServerOptions) (files : Files) (before : List Sending) (s : Server) : Prop :=
  ((s.Idle o files before ∨ s.Refused before) ∧ s.sender = {}) ∨
    ∃ source h, s.Underway o files before source h

namespace Unspent

lemma resume (hn : s.Unspent o files before) {i : Nat} (hready : system.firstReady? s = some i) :
    (system.resume i s).Unspent o files before := by
  rcases hn with ⟨hi | hr, hnew⟩ | ⟨source, h, hu⟩
  · cases i with
    | zero => exact hi.resumeTransfer.imp_left fun ⟨hsame, hsender⟩ => ⟨hsame, hsender.trans hnew⟩
    | succ i =>
        rw [hi.resume_succ]
        exact .inl ⟨.inl hi, hnew⟩
  · rw [hr.resume_eq]
    exact .inl ⟨.inr hr, hnew⟩
  · obtain ⟨h', hu'⟩ := hu.resume hready
    exact .inr ⟨source, h', hu'⟩

lemma advanceTo (hn : s.Unspent o files before) (time : Int) :
    (system.advanceTo time s).Unspent o files before := by
  rcases hn with ⟨hi | hr, hnew⟩ | ⟨source, h, hu⟩
  · exact .inl ⟨.inl ⟨⟨hi.options_eq, hi.address_eq, hi.port_eq⟩, hi.stage_eq, hi.opened,
      hi.files_eq, hi.sent_eq, hi.timer_eq, hi.listener_eq⟩, hnew⟩
  · exact .inl ⟨.inr ⟨hr.stage_eq, hr.sent_eq, hr.timer_eq, hr.listener_eq⟩, hnew⟩
  · exact .inr ⟨source, h, hu.of_eq rfl rfl rfl⟩

lemma passes (hn : s.Unspent o files before) {limit : Option Int}
    (hpasses : system.Passes limit s s') : s'.Unspent o files before := by
  induction hpasses with
  | refl => exact hn
  | tail _ hstep ih =>
      rcases system.step?_eq_some hstep with ⟨i, hi, rfl⟩ | ⟨time, _, _, _, rfl⟩
      · exact ih.resume hi
      · exact ih.advanceTo time

end Unspent

/-- No packet of a transfer is longer than the pieces of the file may be. -/
lemma Underway.length_payload_le {source : Source} {h : History}
    (hu : s.Underway o files before source h) {c : Int × Packet} (hc : c ∈ h.log.calls) :
    c.2.payload.length ≤ o.settings.maxPayload := by
  have hitem : ∀ item ∈ h.log.items, item.1.length ≤ o.settings.maxPayload := by
    have hpieces : ∀ n, ∀ item ∈ (source.feed o.settings.maxPayload).items n,
        item.1.length ≤ o.settings.maxPayload := by
      intro n item hitem
      obtain ⟨piece, hpiece, rfl⟩ := List.mem_map.1 hitem
      exact Source.length_le_of_mem_feed hpiece
    intro item hmem
    rcases items_of_given hu.given with ⟨n, hitems⟩ | ⟨n, hitems, _⟩
    · rw [hitems] at hmem
      exact hpieces n item hmem
    · rw [hitems] at hmem
      rcases List.mem_append.1 hmem with hmem | hmem
      · exact hpieces n item hmem
      · rw [List.mem_singleton.1 hmem]
        exact Nat.zero_le _
  obtain ⟨i, item, hindex, hpacket⟩ := mem_numbered.1 (hu.reachable.drawn.packet_mem c hc)
  rw [hpacket]
  exact hitem item (List.mem_of_getElem? hindex)

/-- A server that has just begun has left nothing unframed, and has nothing in flight. -/
lemma packable_of_start? (hstart : start? o host = some s) :
    s.sender = {} ∧ s.Packable o host.unpacked := by
  obtain ⟨hidle, _⟩ := idle_of_start? hstart
  have hunpacked := ({
    address := o.address, port := o.settings.serverPort } : Endpoint).unpacked_attach
    o.settings.receiveTimeout host
  rw [start?] at hstart
  generalize ({ address := o.address, port := o.settings.serverPort } : Endpoint).attach
    o.settings.receiveTimeout host = outcome at hstart hunpacked
  obtain ⟨ok, endpoint, h⟩ := outcome
  cases ok with
  | false => cases hstart
  | true =>
      obtain rfl := Option.some.inj hstart
      exact ⟨rfl, hidle.toLocated, fun r hr => absurd hr List.not_mem_nil, trivial,
        (h.unpacked_note rfl).trans hunpacked⟩

lemma unpacked_outcome (s : Server) : s.outcome.host.unpacked = s.host.unpacked := by
  rw [outcome]
  split
  · exact s.endpoint.unpacked_detach s.host
  · rfl

/-- **What was sent at any point of a run**: one datagram for each time that the sender counts, with
all its headers. -/
lemma frames_of_passes (hsize : o.settings.maxPayload ≤ maxChunk) (hstart : start? o host = some s)
    {limit : Option Int} (hpasses : system.Passes limit s s') :
    ∃ sent packets, s'.host.sent = host.sent ++ sent ∧
      packets.length = s'.sender.packetsSent + s'.sender.retransmissions ∧
      List.Forall₂ (Sending.Frames o s'.client) sent packets := by
  obtain ⟨a, haddress⟩ := exists_address_of_start? hstart
  obtain ⟨hidle, _⟩ := idle_of_start? hstart
  obtain ⟨hnew, _⟩ := packable_of_start? hstart
  have hunspent : s.Unspent o host.files host.sent := .inl ⟨.inl hidle, hnew⟩
  have nothing : s'.sender = {} → s'.host.sent = host.sent → ∃ sent packets,
      s'.host.sent = host.sent ++ sent ∧
        packets.length = s'.sender.packetsSent + s'.sender.retransmissions ∧
        List.Forall₂ (Sending.Frames o s'.client) sent packets := by
    intro hnew hsent
    exact ⟨[], [], by rw [List.append_nil, hsent], by rw [hnew]; rfl, .nil⟩
  rcases hunspent.passes hpasses with ⟨hi | hr, hnew'⟩ | ⟨source, h, hu⟩
  · exact nothing hnew' hi.sent_eq
  · exact nothing hnew' hr.sent_eq
  · obtain ⟨sent, hsent, hposted⟩ := hu.posted
    refine ⟨sent, h.log.calls.map Prod.snd, hsent, ?_, Sending.frames_of_postings haddress
      (fun c hc => Nat.le_trans (hu.length_payload_le hc) hsize) hposted⟩
    rw [List.length_map, hu.reachable.drawn.length_calls, hu.sender_eq]

/-- **The limit that the command line sets is the right one.**  With arguments that are accepted, at
every point of a run that has opened its endpoint, whatever the files and whatever the network
brings: no packet was left unframed, and what was sent are as many datagrams as the sender counts,
for each of which all three headers could be written.  And pieces of that length are accepted, none
longer are, and a packet with one byte more would have bytes but no frame, between whatever
addresses. -/
theorem every_packet_framed :
    (∀ arguments o, parseServer arguments = .ok o →
      o.settings.maxPayload ≤ maxChunk ∧
      ∀ host s, start? o host = some s →
        (∀ limit, run o limit host
          = (system.run (some limit) (fuel limit s.host) s).outcome) ∧
        ∀ limit s', system.Passes limit s s' →
          s'.host.unpacked = host.unpacked ∧ s'.outcome.host.unpacked = host.unpacked ∧
          ∃ sent packets, s'.host.sent = host.sent ++ sent ∧
            packets.length = s'.sender.packetsSent + s'.sender.retransmissions ∧
            List.Forall₂ (Sending.Frames o s'.client) sent packets) ∧
    (∃ arguments o, parseServer arguments = .ok o ∧ o.settings.maxPayload = maxChunk) ∧
    ∀ p : Packet, p.payload.length = maxChunk + 1 → ∃ app, p.encode = .ok app ∧
      ∀ src srcPort dst dstPort,
        frame src srcPort dst dstPort app = .error (.ipv4 (.payloadTooLarge 65516)) := by
  refine ⟨fun arguments o hparse => ?_, ?_, fun p hp => ?_⟩
  · have hsize := (maxPayload_of_parseServer hparse).2
    refine ⟨hsize, fun host s hstart => ⟨run_of_start? hstart, fun limit s' hpasses => ?_⟩⟩
    obtain ⟨a, haddress⟩ := exists_address_of_start? hstart
    have hpackable := (packable_of_start? hstart).2.passes haddress hsize hpasses
    exact ⟨hpackable.unpacked_eq, (unpacked_outcome s').trans hpackable.unpacked_eq,
      frames_of_passes hsize hstart hpasses⟩
  · exact ⟨[text "--ip", text "10.0.0.1", text "--chunk", text "65493"], _, rfl, by decide +kernel⟩
  · have hfits : p.payload.length ≤ Packet.maxEncodable := by rw [hp]; decide
    refine ⟨_, Packet.encode_of_fits hfits, fun src srcPort dst dstPort => frame_of_length_eq ?_ ..⟩
    rw [Packet.length_layout, hp]
    rfl

/-- Arguments that ask for pieces of two bytes. -/
def smallArguments : List Bytes :=
  [text "--ip", text "10.0.0.1", text "--dir", [], text "--chunk", text "2"]

/-- With them, all six packets are framed; a payload of one byte more than the longest could not be.
-/
theorem every_packet_framed_late :
    (∃ packets, packets.length = 6 ∧
      List.Forall₂ (Sending.Frames smallServer ⟨10, 0, 0, 2⟩)
        (run smallServer 1000 lateHost).host.sent packets ∧
      (run smallServer 1000 lateHost).host.unpacked = []) ∧
    ∃ app, (⟨0, 0, Flags.data, List.replicate 65494 0⟩ : Packet).encode = .ok app ∧
      frame (text "10.0.0.1") 12345 (text "10.0.0.2") 12346 app
        = .error (.ipv4 (.payloadTooLarge 65516)) := by
  have hparse : parseServer smallArguments = .ok smallServer := rfl
  have hstart : start? smallServer lateHost = some lateStart := (Option.some_get _).symm
  obtain ⟨hrun, hall⟩ := (every_packet_framed.1 smallArguments _ hparse).2 _ _ hstart
  let last := system.run (some 1000) (fuel 1000 lateStart.host) lateStart
  obtain ⟨_, hunpacked, sent, packets, hsent, hlength, hframes⟩ := hall (some 1000) last
    (system.passes_run (some 1000) (fuel 1000 lateStart.host) lateStart)
  have hcounts : last.sender.packetsSent + last.sender.retransmissions = 6 := by decide +kernel
  have hclient : last.client = ⟨10, 0, 0, 2⟩ := by decide +kernel
  obtain ⟨app, happ, hframe⟩ := every_packet_framed.2.2
    ⟨0, 0, Flags.data, List.replicate 65494 0⟩ List.length_replicate
  rw [hcounts] at hlength
  rw [hclient] at hframes
  refine ⟨⟨packets, hlength, ?_, ?_⟩, app, happ, hframe _ _ _ _⟩
  · rw [hrun, (outcome_eq last).2, hsent]
    exact hframes
  · rw [hrun, hunpacked]
    rfl

end Server

end ReliableTransfer
