import ReliableTransfer.Proofs.Server.Verdict

/-!
# What a server counts

The counters of a server's report are kept in three places: by its sender, by its listener, and in
the report itself.  When the run is over they are together, and they say what has happened on the
network since the request.

* `acknowledges` — an arrival that holds an acknowledgement from a client.
* `Server.Concluded` — a report that has taken over the counters of the sender.
* `Server.Reckons` — what the transfer and the timer may do to all this.
* `Server.Ledger` — where a run stands, and what its listener has counted;
  `Server.Ledger.resume` is one turn.
* **`Server.counts_of_over`** — what the report of a run says that is over.
-/

namespace ReliableTransfer

/-- Whether an arrival holds an acknowledgement from a client, for a port. -/
def acknowledges (port : UInt16) (client : Ipv4.Address) (a : Arrival) : Bool :=
  (a.reading port).any fun r => decide (r.source = client) && r.packet.isAck

namespace Server

variable {o : ServerOptions} {host : Host} {files : Files} {before : List Sending}
  {source : Source} {h : History} {read : List Arrival} {s s' s'' : Server}

/-! ## The transfer and the timer -/

/-- When the run is over, the report has taken over the counters of the sender. -/
def Concluded (s : Server) : Prop :=
  s.stage.isOver = true → s.report.packetsSent = s.sender.packetsSent ∧
    s.report.retransmissions = s.sender.retransmissions

/-- The client, what the listener has counted, and what the network still has. -/
def intake (s : Server) : Ipv4.Address × Nat × List Arrival :=
  (s.client, s.report.packetsReceived, s.host.arrivals)

/-- **What the transfer and the timer may do**: nothing is read, and at the end of the run the
counters are taken over. -/
structure Reckons (s s' : Server) : Prop where
  intake_eq : s'.intake = s.intake
  concluded : s'.Concluded

namespace Reckons

/-- While the run is not over there is nothing to take over. -/
lemma of_eq (hintake : s'.intake = s.intake) (hover : s'.stage.isOver = false) : Reckons s s' := by
  refine ⟨hintake, fun h => ?_⟩
  rw [hover] at h
  cases h

lemma after (hr : Reckons s' s'') (hintake : s'.intake = s.intake) : Reckons s s'' :=
  ⟨hr.intake_eq.trans hintake, hr.concluded⟩

end Reckons

lemma reckons_conclude (s : Server) : Reckons s s.conclude := by
  have harrivals : s.conclude.host.arrivals = s.host.arrivals :=
    congrArg (·.2.2) (closes_conclude s).books_eq
  obtain ⟨endpoint, host, hfinish, _⟩ := finish_eq { s with report := { s.report with
    packetsSent := s.sender.packetsSent
    retransmissions := s.sender.retransmissions
    corrupted := s.endpoint.corrupted } } s.readFailure.isNone
  rw [conclude, hfinish] at harrivals ⊢
  exact ⟨congrArg (s.client, s.report.packetsReceived, ·) harrivals, fun _ => ⟨rfl, rfl⟩⟩

lemma reckons_stopListening (s : Server) : Reckons s s.stopListening := by
  rw [stopListening]
  split_ifs
  · exact (reckons_conclude { s with listening := false }).after rfl
  · exact .of_eq rfl rfl

lemma reckons_endTransfer (s : Server) (completed : Bool) :
    Reckons s (s.endTransfer completed) := by
  rw [endTransfer]
  split_ifs
  · exact (reckons_stopListening _).after rfl
  · exact .of_eq rfl rfl

lemma reckons_tryComplete (s : Server) (deadline : Int) (waited : Bool) :
    Reckons s (s.tryComplete deadline waited) := by
  rw [tryComplete]
  split_ifs
  · exact (reckons_endTransfer _ true).after rfl
  · exact (reckons_endTransfer _ false).after rfl
  · exact .of_eq rfl rfl

section Sending

variable (hl : s.Located o) (hopen : s.endpoint.Open s.host)
include hl hopen

lemma intake_sendNow (payload : Bytes) (flags : Flags) :
    (s.sendNow payload flags).intake = s.intake := by
  obtain ⟨host, hsend, hposted⟩ := sendNow_eq hl hopen payload flags
  rw [hsend]
  exact congrArg (s.client, s.report.packetsReceived, ·) hposted.arrivals_eq

lemma intake_sendPieces (pieces : List Bytes) :
    (pieces.foldl sendPiece s).intake = s.intake := by
  induction pieces generalizing s with
  | nil => rfl
  | cons piece rest ih =>
      obtain ⟨hlocated, hopened, _⟩ := sendPieces_books hl hopen [piece]
      exact (ih hlocated hopened).trans (intake_sendNow hl hopen piece Flags.data)

lemma reckons_sendEnd : Reckons s s.sendEnd := by
  have hsend := intake_sendNow hl hopen [] Flags.fin
  rw [sendEnd]
  split_ifs
  · dsimp only
    generalize s.sendNow [] Flags.fin = t at hsend ⊢
    exact (reckons_tryComplete (t.note (.awaitingAcks t.report.fileSize)) _ false).after hsend
  · exact .of_eq rfl rfl

lemma reckons_sendData (feed : Feed) : Reckons s (s.sendData feed) := by
  rw [sendData]
  generalize s.sender.room s.options.settings = room
  obtain ⟨hlocated, hopened, _⟩ := sendPieces_books hl hopen (feed.take room)
  have hpieces := intake_sendPieces hl hopen (feed.take room)
  generalize (feed.take room).foldl sendPiece s = t at hlocated hopened hpieces ⊢
  split_ifs
  · split
    · rename_i path _
      exact (reckons_sendEnd (s := (t.readPieces _).note (.readFailed path))
        ⟨hlocated.options_eq, hlocated.address_eq, hlocated.port_eq⟩ hopened).after hpieces
    · exact (reckons_sendEnd (hlocated.readPieces _) hopened).after hpieces
  · exact .of_eq hpieces rfl

end Sending

section Underway

variable (hu : s.Underway o files before source h) (hs : s.Concluded)
include hu hs

lemma reckons_resumeTransfer : Reckons s s.resumeTransfer := by
  have hgiven := hu.given
  have hopened := hu.opened
  rw [resumeTransfer]
  cases hstage : s.stage with
  | starting =>
      rw [hstage] at hgiven
      exact hgiven.elim
  | awaitingRequest deadline =>
      rw [hstage] at hgiven
      exact hgiven.elim
  | sendingData rest notified =>
      rw [hstage] at hopened
      exact reckons_sendData hu.toLocated (hopened rfl) rest
  | sendingEnd notified =>
      rw [hstage] at hopened
      exact reckons_sendEnd hu.toLocated (hopened rfl)
  | awaitingAcks deadline notified => exact reckons_tryComplete s deadline true
  | joiningTimer => exact reckons_stopListening s
  | joiningListener => exact reckons_conclude s
  | «over» conclusion => exact ⟨rfl, hs⟩

/-- The timer resends only as long as the run is not over. -/
lemma reckons_resumeTimer : Reckons s s.resumeTimer := by
  rcases resumeTimer_eq hu.toLocated hu.opened_of_timer with
    ⟨timer, hresume, _⟩ | ⟨_, htimer, timer, host, hresume, hposted⟩
  · rw [hresume]
    exact ⟨rfl, hs⟩
  · rw [hresume]
    refine .of_eq (congrArg (s.client, s.report.packetsReceived, ·) hposted.arrivals_eq) ?_
    exact Bool.eq_false_iff.2 fun hover => htimer (hu.ended (Stage.isPastTimer_of_isOver hover))

end Underway

/-! ## The listener -/

lemma Stage.isOver_notify (stage : Stage) : stage.notify.isOver = stage.isOver := by
  cases stage <;> rfl

/-- **A turn of the listener** counts the acknowledgement of the client that it reads, if any. -/
lemma listener_counts (hl : s.Located o) (hs : s.Concluded) :
    ∃ more, s.host.arrivals = more ++ s.resumeListener.host.arrivals ∧
      s.resumeListener.client = s.client ∧
      s.resumeListener.report.packetsReceived = s.report.packetsReceived
        + more.countP (acknowledges o.settings.serverPort s.client) ∧
      s.resumeListener.Concluded := by
  rw [Server.resumeListener]
  cases s.listener with
  | starting => exact ⟨[], rfl, rfl, rfl, hs⟩
  | ended => exact ⟨[], rfl, rfl, rfl, hs⟩
  | reading deadline =>
      obtain ⟨received, corrupted, arrivals, notices, hreceive, hcases⟩ :=
        s.endpoint.receive_eq s.host
      simp only [receive, hreceive]
      -- what was taken off the network holds just what was received
      obtain ⟨more, hmore, hcount⟩ : ∃ more, s.host.arrivals = more ++ arrivals ∧
          more.countP (acknowledges o.settings.serverPort s.client)
            = (received.any fun r => decide (r.source = s.client) && r.packet.isAck).toNat := by
        rcases hcases with ⟨rfl, rfl⟩ | ⟨a, harrivals, _, rfl⟩
        · exact ⟨[], rfl, rfl⟩
        · refine ⟨[a], harrivals, ?_⟩
          rw [List.countP_singleton, acknowledges, hl.port_eq]
          cases (a.reading o.settings.serverPort).any _ <;> rfl
      refine ⟨more, ?_⟩
      rw [hcount]
      cases received with
      | none => exact ⟨hmore, rfl, rfl, hs⟩
      | some r =>
          rw [heed, Option.any_some]
          split_ifs with hack
          · obtain ⟨notices', hnotices⟩ := ({ s.host with arrivals, notices } : Host).noteIf_eq
              s.options.verbose (.acknowledged r.packet.ack)
            have htrue : (decide (r.source = s.client) && r.packet.isAck) = true :=
              Bool.and_eq_true_iff.2 ⟨decide_eq_true hack.1, hack.2⟩
            rw [htrue]
            simp only [listen, heedAck, noteVerbose, hnotices, true_and]
            refine ⟨hmore, rfl, fun hover => ?_⟩
            exact hs ((Stage.isOver_notify s.stage).symm.trans hover)
          · have hfalse : (decide (r.source = s.client) && r.packet.isAck) = false := by
              rwa [Bool.eq_false_iff, ne_eq, Bool.and_eq_true_iff, decide_eq_true_iff]
            rw [hfalse]
            exact ⟨hmore, rfl, rfl, hs⟩

/-! ## The run -/

/-- As long as no request was read, the run is not over. -/
lemma Idle.stage_ne_over (hi : s.Idle o files before) (conclusion : Conclusion) :
    s.stage ≠ .over conclusion := by
  intro hstage
  rcases hi.stage_eq with hs | ⟨deadline, hs⟩
  · rw [hs] at hstage
    cases hstage
  · rw [hs] at hstage
    cases hstage

/-- **Where a run stands** that began on `host` and has read `read`, and what its listener has
counted of that. -/
inductive Ledger (o : ServerOptions) (host : Host) (read : List Arrival) (s : Server) : Prop
  | waiting (idle : s.Idle o host.files host.sent)
      (none_yet : firstRequest? o.settings.serverPort read = none)
      (nothing_yet : s.report.packetsReceived = 0)
  | closed (refusal : s.Refused host.sent)
      (reason : ∀ ok, s.stage = .over (.finished ok) → ∃ r,
        firstRequest? o.settings.serverPort read = some r ∧
          offered? o host.files r.packet.payload = none)
  | serving {r : Received} {a : Arrival} {earlier during : List Arrival} {source : Source}
      {h : History} (read_eq : read = earlier ++ a :: during)
      (none_before : firstRequest? o.settings.serverPort earlier = none)
      (request : a.reading o.settings.serverPort = some r)
      (is_request : r.packet.isRequest = true)
      (underway : s.Underway o host.files host.sent source h)
      (client_eq : s.client = r.source)
      (received : s.report.packetsReceived
        = during.countP (acknowledges o.settings.serverPort r.source))
      (concluded : s.Concluded)

/-- The request that ends the waiting opens the count, unless nothing comes of it. -/
lemma ledger_acceptRequest (hi : s.Idle o host.files host.sent)
    (hzero : s.report.packetsReceived = 0) {r : Received} {a : Arrival}
    (hnone : firstRequest? o.settings.serverPort read = none)
    (hreading : a.reading o.settings.serverPort = some r) (hr : r.packet.isRequest = true) :
    Ledger o host (read ++ [a]) (s.acceptRequest r) ∧
      (s.acceptRequest r).host.arrivals = s.host.arrivals := by
  obtain rfl := hi.options_eq
  have hrequest : firstRequest? s.options.settings.serverPort (read ++ [a]) = some r := by
    rw [firstRequest?_append, hnone, Option.none_or, firstRequest?_singleton, hreading,
      Option.filter_some, if_pos hr]
  have ht : (s.asked r).Idle s.options host.files host.sent :=
    ⟨⟨rfl, hi.address_eq, hi.port_eq⟩, hi.stage_eq, hi.opened, hi.files_eq, hi.sent_eq,
      hi.timer_eq, hi.listener_eq⟩
  have refused : offered? s.options host.files r.packet.payload = none →
      ∀ n, Ledger s.options host (read ++ [a]) (((s.asked r).note n).finish false) ∧
        (((s.asked r).note n).finish false).host.arrivals = s.host.arrivals := by
    intro hoffered n
    refine ⟨.closed (Refused.finish (s := (s.asked r).note n) ht.sent_eq ht.timer_eq
      ht.listener_eq false) fun _ _ => ⟨r, hrequest, hoffered⟩, ?_⟩
    exact congrArg (·.2.2) (closes_finish ((s.asked r).note n) false).books_eq
  rw [acceptRequest_eq, hi.files_eq]
  cases hpath : resolveRequest? s.options.directory r.packet.payload with
  | none => exact refused (by rw [offered?, hpath]; rfl) _
  | some path =>
      dsimp only
      cases hsource : host.files.source? path with
      | none => exact refused (by rw [offered?, hpath]; exact hsource) _
      | some source =>
          dsimp only
          cases hw : Sender.create s.options.settings with
          | error cause =>
              refine ⟨.closed ⟨⟨_, rfl⟩, ht.sent_eq, ht.timer_eq, ht.listener_eq⟩
                fun ok hfinished => ?_, rfl⟩
              cases Stage.over.inj hfinished
          | ok w =>
              obtain ⟨h, hunderway⟩ := ht.beginTransfer hpath hsource hw
              have hreckons := reckons_sendData (s := (s.asked r).prepare path source w)
                ⟨rfl, hi.address_eq, hi.port_eq⟩ hi.opened
                (source.feed s.options.settings.maxPayload)
              have hintake := hreckons.intake_eq
              simp only [intake, Prod.mk.injEq] at hintake
              obtain ⟨hclient, hreceived, harrivals⟩ := hintake
              exact ⟨.serving rfl hnone hreading hr hunderway hclient (hreceived.trans hzero)
                hreckons.concluded, harrivals⟩

lemma ledger_resumeTransfer_of_idle (hi : s.Idle o host.files host.sent)
    (hnone : firstRequest? o.settings.serverPort read = none)
    (hzero : s.report.packetsReceived = 0) :
    ∃ more, s.host.arrivals = more ++ s.resumeTransfer.host.arrivals ∧
      Ledger o host (read ++ more) s.resumeTransfer := by
  rw [resumeTransfer]
  rcases hi.stage_eq with hstage | ⟨deadline, hstage⟩
  · rw [hstage]
    refine ⟨[], rfl, .waiting (hi.awaitRequest s.endpoint.corrupted s.host.arrivals _) ?_ hzero⟩
    rw [List.append_nil, hnone]
  · obtain ⟨received, corrupted, arrivals, notices, hreceive, hcases⟩ :=
      s.endpoint.receive_eq s.host
    have hi' : ({ s with
        endpoint := { s.endpoint with corrupted }
        host := { s.host with arrivals, notices } } : Server).Idle o host.files host.sent :=
      ⟨⟨hi.options_eq, hi.address_eq, hi.port_eq⟩, hi.stage_eq, hi.opened, hi.files_eq, hi.sent_eq,
        hi.timer_eq, hi.listener_eq⟩
    rw [hstage]
    simp only [receive, hreceive]
    rcases hcases with ⟨rfl, rfl⟩ | ⟨a, harrivals, _, hreading⟩
    · refine ⟨[], rfl, .waiting (hi.awaitRequest corrupted s.host.arrivals notices) ?_ hzero⟩
      rw [List.append_nil, hnone]
    · rw [hi.port_eq] at hreading
      -- as long as no request is read, the server waits on
      have waits : received.filter (·.packet.isRequest) = none →
          firstRequest? o.settings.serverPort (read ++ [a]) = none := by
        intro hfilter
        rw [firstRequest?_append, hnone, Option.none_or, firstRequest?_singleton, ← hreading,
          hfilter]
      refine ⟨[a], ?_⟩
      cases received with
      | none =>
          exact ⟨harrivals, .waiting (hi.awaitRequest corrupted arrivals notices) (waits rfl) hzero⟩
      | some r =>
          rw [considerRequest]
          split_ifs with hr
          · obtain ⟨hledger, hsame⟩ := ledger_acceptRequest hi' hzero hnone hreading.symm hr
            exact ⟨by rw [hsame]; exact harrivals, hledger⟩
          · obtain ⟨notices', hnotices⟩ := ({ s.host with arrivals, notices } : Host).noteIf_eq
              s.options.verbose (.ignoredBeforeRequest r.packet)
            simp only [noteVerbose, hnotices]
            refine ⟨harrivals, .waiting (hi.awaitRequest corrupted arrivals notices') ?_ hzero⟩
            exact waits (by rw [Option.filter_some, if_neg hr])

namespace Ledger

/-- **One turn.** -/
lemma resume (hp : Ledger o host read s) {i : Nat} (hready : system.firstReady? s = some i) :
    ∃ more, s.host.arrivals = more ++ (system.resume i s).host.arrivals ∧
      Ledger o host (read ++ more) (system.resume i s) := by
  have stays : system.resume i s = s → ∃ more,
      s.host.arrivals = more ++ (system.resume i s).host.arrivals ∧
        Ledger o host (read ++ more) (system.resume i s) := by
    intro hsame
    rw [hsame]
    exact ⟨[], rfl, by rwa [List.append_nil]⟩
  cases hp with
  | waiting hi hnone hzero =>
      cases i with
      | zero => exact ledger_resumeTransfer_of_idle hi hnone hzero
      | succ i => exact stays (hi.resume_succ i)
  | closed hr hreason => exact stays (hr.resume_eq i)
  | @serving r a earlier during source h hread hnone hreading hr hu hclient hreceived hconcluded =>
      -- where nothing is read, the count stays
      have counted : ∀ {s' : Server} {h' : History}, Reckons s s' →
          s'.Underway o host.files host.sent source h' →
          ∃ more, s.host.arrivals = more ++ s'.host.arrivals ∧ Ledger o host (read ++ more) s' := by
        intro s' h' hreckons hu'
        have hintake := hreckons.intake_eq
        simp only [intake, Prod.mk.injEq] at hintake
        obtain ⟨hclient', hreceived', harrivals⟩ := hintake
        refine ⟨[], harrivals.symm, ?_⟩
        rw [List.append_nil]
        exact .serving hread hnone hreading hr hu' (hclient'.trans hclient)
          (hreceived'.trans hreceived) hreckons.concluded
      obtain ⟨h', hu'⟩ := hu.resume hready
      match i with
      | 0 => exact counted (reckons_resumeTransfer hu hconcluded) hu'
      | 1 => exact counted (reckons_resumeTimer hu hconcluded) hu'
      | 2 =>
          obtain ⟨more, hmore, hclient', hreceived', hconcluded'⟩ :=
            listener_counts hu.toLocated hconcluded
          have hread' : read ++ more = earlier ++ a :: (during ++ more) := by
            rw [hread, List.append_assoc, List.cons_append]
          refine ⟨more, hmore, .serving hread' hnone hreading hr hu' (hclient'.trans hclient) ?_
            hconcluded'⟩
          rw [show (system.resume 2 s) = s.resumeListener from rfl, hreceived', hreceived,
            List.countP_append, hclient]
      | _ + 3 => exact stays rfl

lemma advanceTo (hp : Ledger o host read s) (time : Int) :
    Ledger o host read (system.advanceTo time s) := by
  cases hp with
  | waiting hi hnone hzero =>
      exact .waiting ⟨⟨hi.options_eq, hi.address_eq, hi.port_eq⟩, hi.stage_eq, hi.opened,
        hi.files_eq, hi.sent_eq, hi.timer_eq, hi.listener_eq⟩ hnone hzero
  | closed hr hreason =>
      exact .closed ⟨hr.stage_eq, hr.sent_eq, hr.timer_eq, hr.listener_eq⟩ hreason
  | serving hread hnone hreading hr hu hclient hreceived hconcluded =>
      exact .serving hread hnone hreading hr (hu.of_eq rfl rfl rfl) hclient hreceived hconcluded

end Ledger

/-- A server that has not begun has counted nothing. -/
lemma report_of_start? (hstart : start? o host = some s) : s.report = {} := by
  rw [start?] at hstart
  split at hstart
  · rw [← Option.some.inj hstart]
  · cases hstart

/-- **At every point of a run.** -/
lemma ledger_of_passes (hstart : start? o host = some s) {limit : Option Int}
    (hpasses : system.Passes limit s s') :
    ∃ read, host.arrivals = read ++ s'.host.arrivals ∧ Ledger o host read s' := by
  induction hpasses with
  | refl =>
      obtain ⟨hidle, harrivals, _⟩ := idle_of_start? hstart
      exact ⟨[], harrivals.symm, .waiting hidle rfl (by rw [report_of_start? hstart])⟩
  | tail _ hstep ih =>
      obtain ⟨read, hread, hledger⟩ := ih
      rcases system.step?_eq_some hstep with ⟨i, hi, rfl⟩ | ⟨time, _, _, _, rfl⟩
      · obtain ⟨more, hmore, hledger'⟩ := hledger.resume hi
        exact ⟨read ++ more, by rw [hread, hmore, List.append_assoc], hledger'⟩
      · exact ⟨read, hread, hledger.advanceTo time⟩

/-! ## The report -/

/-- **Every call of the link makes a datagram**, if the server has an address and its packets are
not too long. -/
lemma length_of_posted {client address : Ipv4.Address}
    (haddress : Ipv4.Address.parse? o.address = some address) {calls : List (Int × Packet)}
    (hlength : ∀ c ∈ calls, c.2.payload.length ≤ 65493) {sent : List Sending}
    (hmap : sent.map Sending.posting = calls.filterMap (post? o client)) :
    sent.length = calls.length := by
  have hall : ∀ c ∈ calls, (post? o client c).isSome = true := by
    intro c hc
    obtain ⟨datagram, hpack⟩ := exists_pack haddress (Ipv4.Address.parse?_dotted client)
      o.settings.serverPort o.settings.clientPort (hlength c hc)
    rw [post?, posting?, hpack]
    rfl
  rw [← List.length_map Sending.posting, hmap, List.filterMap_length_eq_length.2 hall]

/-- At the end of a transfer the counters of the sender are the datagrams that were handed to the
network, one for each piece of the file and one for its end among them. -/
lemma sent_of_over (hmin : 1 ≤ o.settings.maxPayload) (hmax : o.settings.maxPayload ≤ 65493)
    {address : Ipv4.Address} (haddress : Ipv4.Address.parse? o.address = some address)
    (hu : s.Underway o files before source h) (hover : s.stage.isOver = true) (hs : s.Concluded)
    {bytes : Bytes} (hbytes : source.bytes? o.settings.maxPayload = some bytes) {sent : List Sending}
    (hsent : s.host.sent = before ++ sent) :
    s.report.packetsSent + s.report.retransmissions = sent.length ∧
      s.report.packetsSent
        = (bytes.length + (o.settings.maxPayload - 1)) / o.settings.maxPayload + 1 := by
  obtain ⟨sent', hsent', hposted⟩ := hu.posted
  obtain rfl := List.append_cancel_left (hsent'.symm.trans hsent)
  have hitems := items_of_over hu hbytes hover
  have hdrawn := hu.reachable.drawn
  obtain ⟨hcount, hresent⟩ := hs hover
  rw [hu.sender_eq] at hcount hresent
  have hlength : ∀ c ∈ h.log.calls, c.2.payload.length ≤ 65493 := by
    intro c hc
    have hmem := hdrawn.packet_mem c hc
    rw [hitems] at hmem
    exact Nat.le_trans (length_payload_le hmem) hmax
  constructor
  · rw [hcount, hresent, ← hdrawn.length_calls, length_of_posted haddress hlength hposted]
  · rw [hcount, hdrawn.length_items, hitems, length_script, length_chunks hmin]
    rfl

/-- **The report of a run that is over** and has opened a file: what it says was sent or sent again
are the datagrams that were handed to the network, one for each piece of the file and one for its
end among them, and what it says was received are the acknowledgements of the client among what was
read since the request. -/
lemma counts_of_over (hmin : 1 ≤ o.settings.maxPayload) (hmax : o.settings.maxPayload ≤ 65493)
    (hstart : start? o host = some s) {limit : Option Int} (hpasses : system.Passes limit s s')
    {ok : Bool} (hstage : s'.stage = .over (.finished ok)) :
    ∃ read sent, host.arrivals = read ++ s'.host.arrivals ∧ s'.host.sent = host.sent ++ sent ∧
      ∀ r source, firstRequest? o.settings.serverPort read = some r →
        offered? o host.files r.packet.payload = some source →
        s'.report.packetsSent + s'.report.retransmissions = sent.length ∧
        s'.report.packetsSent
          = (s'.report.fileSize + (o.settings.maxPayload - 1)) / o.settings.maxPayload + 1 ∧
        (∃ bytes, source.bytes? o.settings.maxPayload = some bytes ∧
          s'.report.fileSize = bytes.length) ∧
        ∃ earlier request during, read = earlier ++ request :: during ∧
          firstRequest? o.settings.serverPort earlier = none ∧
          request.reading o.settings.serverPort = some r ∧
          s'.report.packetsReceived
            = during.countP (acknowledges o.settings.serverPort r.source) := by
  have hover : s'.stage.isOver = true := by rw [hstage]; rfl
  obtain ⟨read, hread, hledger⟩ := ledger_of_passes hstart hpasses
  cases hledger with
  | waiting hi => exact absurd hstage (hi.stage_ne_over _)
  | closed hr hreason =>
      refine ⟨read, [], hread, by rw [hr.sent_eq, List.append_nil],
        fun r source hrequest hsource => ?_⟩
      obtain ⟨r', hrequest', hnone⟩ := hreason ok hstage
      obtain rfl := Option.some.inj (hrequest.symm.trans hrequest')
      rw [hnone] at hsource
      cases hsource
  | @serving r a earlier during source h hsplit hnone hreading hr hu hclient hreceived hconcluded =>
      obtain ⟨sent, hsent, hposted⟩ := hu.posted
      refine ⟨read, sent, hread, hsent, fun r' source' hrequest hoffered => ?_⟩
      have hfirst : firstRequest? o.settings.serverPort read = some r := by
        rw [hsplit, firstRequest?_append, hnone, Option.none_or, ← List.singleton_append,
          firstRequest?_append, firstRequest?_singleton, hreading, Option.filter_some, if_pos hr,
          Option.some_or]
      obtain rfl := Option.some.inj (hfirst.symm.trans hrequest)
      obtain ⟨read', hread', hphase⟩ :=
        phase_of_passes (window_ne_of_reachable hu.reachable) hmin hstart hpasses
      obtain rfl := List.append_cancel_right (hread'.symm.trans hread)
      cases hphase with
      | waiting hi => exact absurd hstage (hi.stage_ne_over _)
      | refused hrequest' hnothing =>
          obtain rfl := Option.some.inj (hrequest.symm.trans hrequest')
          rw [hnothing] at hoffered
          cases hoffered
      | @serving r' source'' h' hrequest' hoffered' hu' _ htotal =>
          obtain rfl := Option.some.inj (hrequest.symm.trans hrequest')
          obtain rfl := Option.some.inj (hoffered.symm.trans hoffered')
          obtain ⟨bytes, hbytes, hsize⟩ : ∃ bytes,
              source'.bytes? o.settings.maxPayload = some bytes ∧
                bytes.length = s'.report.fileSize := by
            rw [total?, hstage] at htotal
            exact Option.map_eq_some_iff.1 htotal.symm
          obtain ⟨address, haddress⟩ := exists_address_of_start? hstart
          obtain ⟨hcount, hpackets⟩ :=
            sent_of_over hmin hmax haddress hu' hover hconcluded hbytes hsent
          rw [hsize] at hpackets
          exact ⟨hcount, hpackets, ⟨bytes, hbytes, hsize.symm⟩, earlier, a, during, hsplit, hnone,
            hreading, hreceived⟩

end Server

end ReliableTransfer
