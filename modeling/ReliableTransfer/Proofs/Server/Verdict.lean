import ReliableTransfer.Proofs.Server.Service

/-!
# What a server's verdict is worth

A server calls a transfer complete when nothing is in flight any more.  By then every packet it has
sent was acknowledged by the client, after it was sent.  Whether the file could be read does not
enter into that verdict, only into what the run returns.

* `Server.Hears`, `Server.Heeded` — a turn of the listener that brings an acknowledgement, and a
  packet that was sent before such a turn.
* `Server.Vouched` — whatever was sent is in flight or was heeded.
* `Server.Adds` — what a part of a turn may send: it stays in flight.
* `Server.Sealed` — a report that says that the transfer is complete is right about the sender.
* `Server.Course` — where a run stands; `Server.Course.resume` is one turn.
* **`Server.complete_is_acknowledged`** — what a complete transfer means.
* **`Server.complete_without_the_file`** — what it does not mean.
-/

namespace ReliableTransfer.Server

variable {o : ServerOptions} {files : Files} {before : List Sending} {source : Source}
  {limit : Option Int} {s₀ s s' s'' : Server} {client : Ipv4.Address}

/-! ## Acknowledgements -/

/-- It is the listener's turn, and it reads an acknowledgement from the client of everything up to
`seq` at least. -/
structure Hears (client : Ipv4.Address) (seq : UInt32) (s : Server) : Prop where
  ready : system.firstReady? s = some 2
  reading : ∃ deadline, s.listener = .reading deadline
  brings : ∃ r, s.receive.1 = some r ∧ r.source = client ∧ r.packet.isAck = true ∧
    seq ≤ r.packet.ack

/-- What a call of the link comes to was sent before a turn, on the way from `s₀` to `s`, at which
the client acknowledges its packet. -/
def Heeded (o : ServerOptions) (before : List Sending) (limit : Option Int) (s₀ s : Server)
    (call : Int × Packet) : Prop :=
  ∃ t sent, system.Passes limit s₀ t ∧ t.Hears s.client call.2.seq ∧
    system.Passes limit (system.resume 2 t) s ∧ t.host.sent = before ++ sent ∧
    ∀ x ∈ post? o s.client call, x ∈ sent.map Sending.posting

/-- What was heeded stays so. -/
lemma Heeded.later {call : Int × Packet} (hh : Heeded o before limit s₀ s call)
    (hclient : s'.client = s.client) (hpasses : system.Passes limit s s') :
    Heeded o before limit s₀ s' call := by
  obtain ⟨t, sent, hfirst, hhears, hlater, hsent, hposted⟩ := hh
  refine ⟨t, sent, hfirst, ?_, hlater.trans hpasses, hsent, ?_⟩
  · rw [hclient]
    exact hhears
  · rw [hclient]
    exact hposted

/-- **All that was sent is in flight, or is settled.** -/
def Vouched (o : ServerOptions) (before : List Sending) (settled : Int × Packet → Prop)
    (s : Server) : Prop :=
  ∃ (sent : List Sending) (calls : List (Int × Packet)), s.host.sent = before ++ sent ∧
    sent.map Sending.posting = calls.filterMap (post? o s.client) ∧
    ∀ call ∈ calls, call.2.seq ∈ s.sender.numbers ∨ settled call

/-- Where nothing was sent there is nothing to settle. -/
lemma Vouched.of_sent {settled : Int × Packet → Prop} (h : s.host.sent = before) :
    s.Vouched o before settled :=
  ⟨[], [], by rw [h, List.append_nil], rfl, nofun⟩

/-! ## Sending -/

/-- All of a server that bears on what was sent, on what is in flight, and on what file it is. -/
def dues (s : Server) :=
  (s.client, s.readFailure, s.report.fileName, s.sender.numbers, s.host.sent)

/-- **What a part of a turn may send**: it is in flight afterwards, and so is all that was in flight
before. -/
structure Adds (o : ServerOptions) (s s' : Server) : Prop where
  client_eq : s'.client = s.client
  failure_eq : s'.readFailure = s.readFailure
  name_eq : s'.report.fileName = s.report.fileName
  numbers : ∀ n ∈ s.sender.numbers, n ∈ s'.sender.numbers
  posted : ∃ (sent : List Sending) (calls : List (Int × Packet)),
    s'.host.sent = s.host.sent ++ sent ∧
    sent.map Sending.posting = calls.filterMap (post? o s.client) ∧
    ∀ call ∈ calls, call.2.seq ∈ s'.sender.numbers

namespace Adds

lemma of_eq (h : s'.dues = s.dues) : Adds o s s' := by
  simp only [dues, Prod.mk.injEq] at h
  obtain ⟨hclient, hfailure, hname, hnumbers, hsent⟩ := h
  refine ⟨hclient, hfailure, hname, fun n hn => hnumbers ▸ hn, [], [], ?_, rfl, nofun⟩
  rw [hsent, List.append_nil]

lemma trans (first : Adds o s s') (second : Adds o s' s'') : Adds o s s'' := by
  obtain ⟨sent, calls, hsent, hmap, hcalls⟩ := first.posted
  obtain ⟨sent', calls', hsent', hmap', hcalls'⟩ := second.posted
  refine ⟨second.client_eq.trans first.client_eq, second.failure_eq.trans first.failure_eq,
    second.name_eq.trans first.name_eq, fun n hn => second.numbers n (first.numbers n hn),
    sent ++ sent', calls ++ calls', ?_, ?_, fun call hcall => ?_⟩
  · rw [hsent', hsent, List.append_assoc]
  · rw [List.map_append, hmap, hmap', first.client_eq, List.filterMap_append]
  · rcases List.mem_append.1 hcall with hcall | hcall
    · exact second.numbers _ (hcalls call hcall)
    · exact hcalls' call hcall

/-- What nothing was sent for makes no difference. -/
lemma after (ha : Adds o s' s'') (h : s'.dues = s.dues) : Adds o s s'' :=
  (of_eq h).trans ha

end Adds

/-- What a part of a turn sends is in flight. -/
lemma Vouched.adds {settled : Int × Packet → Prop} (hv : s.Vouched o before settled)
    (ha : Adds o s s') : s'.Vouched o before settled := by
  obtain ⟨sent, calls, hsent, hmap, hcalls⟩ := hv
  obtain ⟨sent', calls', hsent', hmap', hcalls'⟩ := ha.posted
  refine ⟨sent ++ sent', calls ++ calls', ?_, ?_, fun call hcall => ?_⟩
  · rw [hsent', hsent, List.append_assoc]
  · rw [List.map_append, hmap, hmap', ha.client_eq, List.filterMap_append]
  · rcases List.mem_append.1 hcall with hcall | hcall
    · exact (hcalls call hcall).imp_left (ha.numbers _)
    · exact .inl (hcalls' call hcall)

lemma Vouched.imp {settled settled' : Int × Packet → Prop} (hv : s.Vouched o before settled)
    (h : ∀ call, settled call → settled' call) : s.Vouched o before settled' := by
  obtain ⟨sent, calls, hsent, hmap, hcalls⟩ := hv
  exact ⟨sent, calls, hsent, hmap, fun call hcall => (hcalls call hcall).imp_right (h call)⟩

section Sending

variable (hl : s.Located o) (hopen : s.endpoint.Open s.host)
include hl hopen

lemma adds_sendNow (payload : Bytes) (flags : Flags) : Adds o s (s.sendNow payload flags) ∧
    (s.sendNow payload flags).report = s.report := by
  obtain ⟨host, hsend, sent, notices, rfl, hmap⟩ := sendNow_eq hl hopen payload flags
  rw [hsend]
  refine ⟨⟨rfl, rfl, rfl, fun n hn => ?_, sent, _, rfl, hmap, fun call hcall => ?_⟩, rfl⟩
  · exact (Sender.mem_numbers_send _ _ _ _ _).2 (.inr hn)
  · rw [List.mem_singleton.1 hcall]
    exact (Sender.mem_numbers_send _ _ _ _ _).2 (.inl rfl)

lemma adds_sendPieces (pieces : List Bytes) : Adds o s (pieces.foldl sendPiece s) ∧
    (pieces.foldl sendPiece s).report.completed = s.report.completed := by
  induction pieces generalizing s with
  | nil => exact ⟨.of_eq rfl, rfl⟩
  | cons piece rest ih =>
      obtain ⟨hlocated, hopened, _⟩ := sendPieces_books hl hopen [piece]
      obtain ⟨hfirst, hreport⟩ := adds_sendNow hl hopen piece Flags.data
      have hpiece : Adds o s (s.sendPiece piece) := hfirst.trans (.of_eq rfl)
      have hsame : (s.sendNow piece Flags.data).report.completed = s.report.completed := by
        rw [hreport]
      obtain ⟨hrest, hcompleted⟩ := ih hlocated hopened
      exact ⟨hpiece.trans hrest, hcompleted.trans hsame⟩

end Sending

/-! ## The report -/

/-- **A report that says that the transfer is complete** is one of a sender that has nothing in
flight, and the run ends by whether the file could be read. -/
def Sealed (s : Server) : Prop :=
  s.report.completed = true → s.sender.numbers = [] ∧
    match s.stage with
    | .joiningTimer | .joiningListener => True
    | .over conclusion => conclusion = .finished s.readFailure.isNone
    | _ => False

lemma Sealed.of_incomplete (h : s.report.completed = false) : s.Sealed := by
  intro hcompleted
  rw [h] at hcompleted
  cases hcompleted

lemma numbers_of_allAcked {w : Sender} (h : w.allAcked = true) : w.numbers = [] := by
  rw [Sender.allAcked, List.isEmpty_iff] at h
  rw [Sender.numbers, h]
  rfl

/-- As long as there is something to send, the report does not say so. -/
lemma Sealed.incomplete (hs : s.Sealed) (h : s.stage.isSending = true) :
    s.report.completed = false := by
  refine Bool.eq_false_iff.2 fun hcompleted => ?_
  have hstage := (hs hcompleted).2
  cases hs' : s.stage with
  | sendingData | sendingEnd | awaitingAcks => rw [hs'] at hstage; exact hstage
  | starting | awaitingRequest | joiningTimer | joiningListener | «over» =>
      rw [hs'] at h
      cases h

section End

variable (hright : s.report.completed = true → s.sender.numbers = [])
include hright

lemma ends_conclude : Adds o s s.conclude ∧ s.conclude.Sealed := by
  obtain ⟨endpoint, host, hfinish, _, _, hsent⟩ := finish_eq { s with report := { s.report with
    packetsSent := s.sender.packetsSent
    retransmissions := s.sender.retransmissions
    corrupted := s.endpoint.corrupted } } s.readFailure.isNone
  rw [conclude, hfinish]
  refine ⟨.of_eq ?_, fun hcompleted => ⟨hright hcompleted, rfl⟩⟩
  exact congrArg (s.client, s.readFailure, s.report.fileName, s.sender.numbers, ·) hsent

lemma ends_stopListening : Adds o s s.stopListening ∧ s.stopListening.Sealed := by
  rw [stopListening]
  split_ifs
  · obtain ⟨hadds, hsealed⟩ := ends_conclude (o := o) (s := { s with listening := false }) hright
    exact ⟨hadds.after rfl, hsealed⟩
  · exact ⟨.of_eq rfl, fun hcompleted => ⟨hright hcompleted, trivial⟩⟩

end End

lemma ends_endTransfer (completed : Bool) (hright : completed = true → s.sender.numbers = []) :
    Adds o s (s.endTransfer completed) ∧ (s.endTransfer completed).Sealed := by
  rw [endTransfer]
  split_ifs
  · obtain ⟨hadds, hsealed⟩ := ends_stopListening (o := o) (s := { s with
      report := { s.report with completed, endTime := reportTime s.host.now }
      sender := s.sender.stop
      timer := s.timer.notify }) hright
    exact ⟨hadds.after rfl, hsealed⟩
  · exact ⟨.of_eq rfl, fun hcompleted => ⟨hright hcompleted, trivial⟩⟩

section Incomplete

variable (hincomplete : s.report.completed = false)
include hincomplete

lemma ends_tryComplete (deadline : Int) (waited : Bool) :
    Adds o s (s.tryComplete deadline waited) ∧ (s.tryComplete deadline waited).Sealed := by
  rw [tryComplete]
  split_ifs with hacked
  · obtain ⟨hadds, hsealed⟩ := ends_endTransfer (o := o) (s := s.note .allAcknowledged) true
      fun _ => numbers_of_allAcked hacked
    exact ⟨hadds.after rfl, hsealed⟩
  · obtain ⟨hadds, hsealed⟩ := ends_endTransfer (o := o)
      (s := s.note (.acksTimedOut s.sender.inFlight.length)) false (by simp)
    exact ⟨hadds.after rfl, hsealed⟩
  · exact ⟨.of_eq rfl, .of_incomplete hincomplete⟩

variable (hl : s.Located o) (hopen : s.endpoint.Open s.host)
include hl hopen

lemma ends_sendEnd : Adds o s s.sendEnd ∧ s.sendEnd.Sealed := by
  rw [sendEnd]
  split_ifs
  · obtain ⟨hsend, hreport⟩ := adds_sendNow hl hopen [] Flags.fin
    have hincomplete' : (s.sendNow [] Flags.fin).report.completed = false := by
      rw [hreport, hincomplete]
    dsimp only
    generalize s.sendNow [] Flags.fin = t at hsend hincomplete' ⊢
    obtain ⟨hadds, hsealed⟩ := ends_tryComplete (o := o)
      (s := t.note (.awaitingAcks t.report.fileSize)) hincomplete'
      (t.host.now + t.options.settings.completionTimeout) false
    exact ⟨hsend.trans (hadds.after rfl), hsealed⟩
  · exact ⟨.of_eq rfl, .of_incomplete hincomplete⟩

lemma ends_sendData (feed : Feed) : Adds o s (s.sendData feed) ∧ (s.sendData feed).Sealed := by
  rw [sendData]
  generalize s.sender.room s.options.settings = room
  obtain ⟨hlocated, hopened, _⟩ := sendPieces_books hl hopen (feed.take room)
  obtain ⟨hpieces, hsame⟩ := adds_sendPieces hl hopen (feed.take room)
  have hincomplete' := hsame.trans hincomplete
  generalize (feed.take room).foldl sendPiece s = t at hlocated hopened hpieces hincomplete' ⊢
  have hread : Adds o s (t.readPieces ((feed.drop 1).take room)) := hpieces.trans (.of_eq rfl)
  have hlocated' := hlocated.readPieces ((feed.drop 1).take room)
  split_ifs
  · split
    · rename_i path _
      obtain ⟨hadds, hsealed⟩ := ends_sendEnd (s := (t.readPieces _).note (.readFailed path))
        hincomplete' ⟨hlocated'.options_eq, hlocated'.address_eq, hlocated'.port_eq⟩ hopened
      exact ⟨hread.trans (hadds.after rfl), hsealed⟩
    · obtain ⟨hadds, hsealed⟩ := ends_sendEnd (s := t.readPieces _) hincomplete' hlocated' hopened
      exact ⟨hread.trans hadds, hsealed⟩
  · exact ⟨hread.trans (.of_eq rfl), .of_incomplete hincomplete'⟩

end Incomplete

/-! ## Turns of a transfer under way -/

section Underway

variable {h : History} (hu : s.Underway o files before source h) (hs : s.Sealed)
include hu hs

lemma ends_resumeTransfer : Adds o s s.resumeTransfer ∧ s.resumeTransfer.Sealed := by
  have hgiven := hu.given
  have hopened := hu.opened
  have hincomplete := hs.incomplete
  rw [resumeTransfer]
  cases hstage : s.stage with
  | starting =>
      rw [hstage] at hgiven
      exact hgiven.elim
  | awaitingRequest deadline =>
      rw [hstage] at hgiven
      exact hgiven.elim
  | sendingData rest notified =>
      rw [hstage] at hopened hincomplete
      exact ends_sendData (hincomplete rfl) hu.toLocated (hopened rfl) rest
  | sendingEnd notified =>
      rw [hstage] at hopened hincomplete
      exact ends_sendEnd (hincomplete rfl) hu.toLocated (hopened rfl)
  | awaitingAcks deadline notified =>
      rw [hstage] at hincomplete
      exact ends_tryComplete (hincomplete rfl) deadline true
  | joiningTimer => exact ends_stopListening fun hcompleted => (hs hcompleted).1
  | joiningListener => exact ends_conclude fun hcompleted => (hs hcompleted).1
  | «over» conclusion => exact ⟨.of_eq rfl, hs⟩

/-- What is sent again was in flight, and stays so. -/
lemma ends_resumeTimer : Adds o s s.resumeTimer ∧ s.resumeTimer.Sealed := by
  rcases resumeTimer_eq hu.toLocated hu.opened_of_timer with
    ⟨timer, hresume, _⟩ | ⟨_, _, timer, host, hresume, sent, notices, rfl, hmap⟩
  · rw [hresume]
    exact ⟨.of_eq rfl, hs⟩
  · have hnumbers := Sender.numbers_scan o.settings s.host.now s.sender
    rw [hresume]
    refine ⟨⟨rfl, rfl, rfl, fun n hn => ?_, sent, _, rfl, hmap, fun call hcall => ?_⟩,
      fun hcompleted => ⟨hnumbers.trans (hs hcompleted).1, (hs hcompleted).2⟩⟩
    · rwa [hnumbers]
    · obtain ⟨p, hp, rfl⟩ := List.mem_map.1 hcall
      obtain ⟨r, hr, rfl⟩ := List.mem_map.1 (Sender.packet_mem_of_mem_scan hp)
      rw [hnumbers]
      exact List.mem_map_of_mem hr

end Underway

/-- All that the listener leaves alone. -/
def entries (s : Server) :=
  (s.client, s.readFailure, s.report.fileName, s.report.completed, s.host.sent)

/-- **A turn of the listener** brings nothing for the sender, or an acknowledgement from the
client. -/
lemma resumeListener_cases (s : Server) : s.resumeListener.entries = s.entries ∧
    ((s.resumeListener.sender = s.sender ∧ s.resumeListener.stage = s.stage) ∨
      ∃ r, (∃ deadline, s.listener = .reading deadline) ∧ s.receive.1 = some r ∧
        r.source = s.client ∧ r.packet.isAck = true ∧
        s.resumeListener.sender = s.sender.acknowledge r.packet.ack ∧
        s.resumeListener.stage = s.stage.notify) := by
  rw [resumeListener]
  cases s.listener with
  | starting => exact ⟨rfl, .inl ⟨rfl, rfl⟩⟩
  | ended => exact ⟨rfl, .inl ⟨rfl, rfl⟩⟩
  | reading deadline =>
      obtain ⟨received, corrupted, arrivals, notices, hreceive, _⟩ := s.endpoint.receive_eq s.host
      simp only [receive, hreceive]
      cases received with
      | none => exact ⟨rfl, .inl ⟨rfl, rfl⟩⟩
      | some r =>
          rw [heed]
          split_ifs with hack
          · obtain ⟨notices', hnotices⟩ := ({ s.host with arrivals, notices } : Host).noteIf_eq
              s.options.verbose (.acknowledged r.packet.ack)
            refine ⟨?_, .inr ⟨r, ⟨deadline, rfl⟩, rfl, hack.1, hack.2, rfl, rfl⟩⟩
            simp only [entries, listen, heedAck, noteVerbose, hnotices]
          · exact ⟨rfl, .inl ⟨rfl, rfl⟩⟩

lemma Sealed.resumeListener (hs : s.Sealed) : s.resumeListener.Sealed := by
  obtain ⟨hentries, hcases⟩ := s.resumeListener_cases
  simp only [entries, Prod.mk.injEq] at hentries
  obtain ⟨_, hfailure, _, hsame, _⟩ := hentries
  intro hcompleted
  rw [hsame] at hcompleted
  obtain ⟨hnumbers, hstage⟩ := hs hcompleted
  rw [hfailure]
  rcases hcases with ⟨hsender, hstage'⟩ | ⟨r, _, _, _, _, hsender, hstage'⟩
  · rw [hsender, hstage']
    exact ⟨hnumbers, hstage⟩
  · rw [hsender, hstage', Sender.numbers_acknowledge, hnumbers]
    refine ⟨rfl, ?_⟩
    cases hs' : s.stage with
    | _ => rw [hs'] at hstage; exact hstage

/-- **What leaves the sender in a turn of the listener is heeded**, since it was sent before. -/
lemma Vouched.resumeListener (hv : s.Vouched o before (Heeded o before limit s₀ s))
    (hpasses : system.Passes limit s₀ s) (hready : system.firstReady? s = some 2) :
    s.resumeListener.Vouched o before (Heeded o before limit s₀ s.resumeListener) := by
  have hstep : system.Passes limit s s.resumeListener := system.passes_resume limit hready
  obtain ⟨hentries, hcases⟩ := s.resumeListener_cases
  simp only [entries, Prod.mk.injEq] at hentries
  obtain ⟨hclient, _, _, _, hsame⟩ := hentries
  obtain ⟨sent, calls, hsent, hmap, hcalls⟩ := hv
  refine ⟨sent, calls, hsame.trans hsent, by rw [hclient, hmap], fun call hcall => ?_⟩
  rcases hcalls call hcall with hflying | hheeded
  · rcases hcases with ⟨hsender, _⟩ | ⟨r, hreading, hreceive, hsource, hack, hsender, _⟩
    · rw [hsender]
      exact .inl hflying
    · rw [hsender, Sender.numbers_acknowledge]
      by_cases hlt : r.packet.ack < call.2.seq
      · exact .inl (List.mem_filter.2 ⟨hflying, decide_eq_true hlt⟩)
      · refine .inr ⟨s, sent, hpasses, ⟨hready, hreading, r, hreceive, ?_, hack, ?_⟩, .refl, hsent,
          fun x hx => ?_⟩
        · rw [hclient, hsource]
        · exact UInt32.not_lt.1 hlt
        · rw [hclient] at hx
          rw [hmap]
          exact List.mem_filterMap.2 ⟨call, hcall, hx⟩
  · exact .inr (hheeded.later hclient hstep)

/-! ## The run -/

/-- **Where a run stands** that began at `s₀`: it has not got so far as to send anything, or a
transfer is under way. -/
inductive Course (o : ServerOptions) (host : Host) (limit : Option Int) (s₀ s : Server) : Prop
  | waiting (idle : s.Idle o host.files host.sent) (incomplete : s.report.completed = false)
  | refused (refusal : s.Refused host.sent) (incomplete : s.report.completed = false)
  | serving {source : Source} {h : History}
      (underway : s.Underway o host.files host.sent source h)
      (vouched : s.Vouched o host.sent (Heeded o host.sent limit s₀ s))
      (right : s.Sealed)
      (failure_eq : s.readFailure.isNone = !source.fails o.settings.maxPayload)

variable {host : Host}

lemma course_acceptRequest (hi : s.Idle o host.files host.sent)
    (hincomplete : s.report.completed = false) (r : Received) :
    Course o host limit s₀ (s.acceptRequest r) := by
  obtain rfl := hi.options_eq
  have ht : (s.asked r).Idle s.options host.files host.sent :=
    ⟨⟨rfl, hi.address_eq, hi.port_eq⟩, hi.stage_eq, hi.opened, hi.files_eq, hi.sent_eq,
      hi.timer_eq, hi.listener_eq⟩
  have refused : ∀ n, Course s.options host limit s₀ (((s.asked r).note n).finish false) := by
    intro n
    refine .refused (Refused.finish (s := (s.asked r).note n) ht.sent_eq ht.timer_eq
      ht.listener_eq false) ?_
    obtain ⟨endpoint, h, hfinish, _⟩ := finish_eq ((s.asked r).note n) false
    rw [hfinish]
    exact hincomplete
  rw [acceptRequest_eq, hi.files_eq]
  cases hpath : resolveRequest? s.options.directory r.packet.payload with
  | none => exact refused _
  | some path =>
      dsimp only
      cases hsource : host.files.source? path with
      | none => exact refused _
      | some source =>
          dsimp only
          cases hw : Sender.create s.options.settings with
          | error cause =>
              exact .refused ⟨⟨_, rfl⟩, ht.sent_eq, ht.timer_eq, ht.listener_eq⟩ hincomplete
          | ok w =>
              obtain ⟨h, hunderway⟩ := ht.beginTransfer hpath hsource hw
              -- nothing was sent before the transfer begins
              obtain ⟨hadds, hright⟩ := ends_sendData (s := (s.asked r).prepare path source w)
                hincomplete ⟨rfl, hi.address_eq, hi.port_eq⟩ hi.opened
                (source.feed s.options.settings.maxPayload)
              refine .serving hunderway (Vouched.adds ?_ hadds) hright ?_
              · exact .of_sent hi.sent_eq
              refine (congrArg Option.isNone hadds.failure_eq).trans ?_
              show Option.isNone (if source.fails s.options.settings.maxPayload then some path
                else none) = _
              cases source.fails s.options.settings.maxPayload <;> rfl

lemma course_resumeTransfer_of_idle (hi : s.Idle o host.files host.sent)
    (hincomplete : s.report.completed = false) : Course o host limit s₀ s.resumeTransfer := by
  rw [resumeTransfer]
  rcases hi.stage_eq with hstage | ⟨deadline, hstage⟩
  · rw [hstage]
    exact .waiting (hi.awaitRequest s.endpoint.corrupted s.host.arrivals _) hincomplete
  · obtain ⟨received, corrupted, arrivals, notices, hreceive, _⟩ := s.endpoint.receive_eq s.host
    have hi' : ({ s with
        endpoint := { s.endpoint with corrupted }
        host := { s.host with arrivals, notices } } : Server).Idle o host.files host.sent :=
      ⟨⟨hi.options_eq, hi.address_eq, hi.port_eq⟩, hi.stage_eq, hi.opened, hi.files_eq, hi.sent_eq,
        hi.timer_eq, hi.listener_eq⟩
    rw [hstage]
    simp only [receive, hreceive]
    cases received with
    | none => exact .waiting (hi.awaitRequest corrupted arrivals notices) hincomplete
    | some r =>
        rw [considerRequest]
        split_ifs
        · exact course_acceptRequest hi' hincomplete r
        · obtain ⟨notices', hnotices⟩ := ({ s.host with arrivals, notices } : Host).noteIf_eq
            s.options.verbose (.ignoredBeforeRequest r.packet)
          simp only [noteVerbose, hnotices]
          exact .waiting (hi.awaitRequest corrupted arrivals notices') hincomplete

namespace Course

/-- What was heeded stays so while a part of a turn sends. -/
lemma of_adds {h' : History}
    (hv : s.Vouched o host.sent (Heeded o host.sent limit s₀ s))
    (hfailure : s.readFailure.isNone = !source.fails o.settings.maxPayload)
    (hu' : s'.Underway o host.files host.sent source h') (ha : Adds o s s') (hright : s'.Sealed)
    (hstep : system.Passes limit s s') : Course o host limit s₀ s' := by
  refine .serving hu' ((hv.adds ha).imp fun call hcall => ?_) hright ?_
  · exact hcall.later ha.client_eq hstep
  · rw [ha.failure_eq]
    exact hfailure

/-- **One turn.** -/
lemma resume (hc : Course o host limit s₀ s) (hpasses : system.Passes limit s₀ s) {i : Nat}
    (hready : system.firstReady? s = some i) : Course o host limit s₀ (system.resume i s) := by
  have hstep := system.passes_resume limit hready
  have stays : system.resume i s = s → Course o host limit s₀ (system.resume i s) := by
    intro hsame
    rw [hsame]
    exact hc
  cases hc with
  | waiting hi hincomplete =>
      cases i with
      | zero => exact course_resumeTransfer_of_idle hi hincomplete
      | succ i => exact stays (hi.resume_succ i)
  | refused hr hincomplete => exact stays (hr.resume_eq i)
  | serving hu hv hs hfailure =>
      obtain ⟨h', hu'⟩ := hu.resume hready
      match i with
      | 0 =>
          obtain ⟨hadds, hright⟩ := ends_resumeTransfer hu hs
          exact of_adds hv hfailure hu' hadds hright hstep
      | 1 =>
          obtain ⟨hadds, hright⟩ := ends_resumeTimer hu hs
          exact of_adds hv hfailure hu' hadds hright hstep
      | 2 =>
          refine .serving hu' (hv.resumeListener hpasses hready) hs.resumeListener ?_
          rw [← hfailure]
          exact congrArg (·.2.1.isNone) s.resumeListener_cases.1
      | _ + 3 => exact stays rfl

lemma advanceTo (hc : Course o host limit s₀ s) {time : Int}
    (hstep : system.Passes limit s (system.advanceTo time s)) :
    Course o host limit s₀ (system.advanceTo time s) := by
  cases hc with
  | waiting hi hincomplete =>
      exact .waiting ⟨⟨hi.options_eq, hi.address_eq, hi.port_eq⟩, hi.stage_eq, hi.opened,
        hi.files_eq, hi.sent_eq, hi.timer_eq, hi.listener_eq⟩ hincomplete
  | refused hr hincomplete =>
      exact .refused ⟨hr.stage_eq, hr.sent_eq, hr.timer_eq, hr.listener_eq⟩ hincomplete
  | serving hu hv hs hfailure =>
      exact of_adds hv hfailure (hu.of_eq rfl rfl rfl) (.of_eq rfl) hs hstep

end Course

/-- **At every point of a run.** -/
lemma course_of_passes (hstart : start? o host = some s) (hpasses : system.Passes limit s s') :
    Course o host limit s s' := by
  induction hpasses with
  | refl =>
      obtain ⟨hidle, _, _, hincomplete⟩ := idle_of_start? hstart
      exact .waiting hidle hincomplete
  | tail hfirst hstep ih =>
      rcases system.step?_eq_some hstep with ⟨i, hi, rfl⟩ | ⟨time, _, _, _, rfl⟩
      · exact ih.resume hfirst hi
      · exact ih.advanceTo (.single hstep)

/-! ## A complete transfer -/

/-- A sender that came to be has a window. -/
lemma window_ne_of_reachable {settings : Settings} {h : History} (hr : h.Reachable settings) :
    settings.window ≠ 0 := by
  induction hr with
  | start hw =>
      intro hzero
      rw [Sender.create, if_pos hzero] at hw
      cases hw
  | step _ _ ih => exact ih

/-- When a transfer of a file with an end is over, all of its script was given. -/
lemma items_of_over {h : History} (hu : s.Underway o files before source h) {bytes : Bytes}
    (hbytes : source.bytes? o.settings.maxPayload = some bytes) (hover : s.stage.isOver = true) :
    h.log.items = script (chunks o.settings.maxPayload bytes) := by
  obtain ⟨conclusion, hstage⟩ := Stage.exists_conclusion hover
  have hgiven := hu.given
  rw [hstage, Source.feed_eq hbytes] at hgiven
  obtain ⟨n, hitems, hempty⟩ := hgiven
  have hall := List.drop_eq_nil_iff.1 (List.isEmpty_iff.1 hempty)
  rw [hitems, Feed.items, Feed.take, List.take_of_length_le hall]
  rfl

/-- No packet of a script is longer than its pieces. -/
lemma length_payload_le {size : Nat} {bytes : Bytes} {p : Packet}
    (hp : p ∈ numbered (script (chunks size bytes))) : p.payload.length ≤ size := by
  obtain ⟨i, item, hitem, rfl⟩ := mem_numbered.1 hp
  rcases List.mem_append.1 (List.mem_of_getElem? hitem) with hmem | hmem
  · obtain ⟨piece, hpiece, rfl⟩ := List.mem_map.1 hmem
    exact (length_of_mem_chunks hpiece).2
  · rw [List.mem_singleton.1 hmem]
    exact Nat.zero_le _

/-- A datagram is that of one packet only. -/
lemma packet_eq_of_post? {c c' : Int × Packet} {x : Posting} (h : post? o client c = some x)
    (h' : post? o client c' = some x) : c.2 = c'.2 := by
  obtain ⟨_, datagram, hpack, rfl⟩ := exists_pack_of_posting? h
  obtain ⟨_, datagram', hpack', hx⟩ := exists_pack_of_posting? h'
  obtain rfl : datagram = datagram' := congrArg (·.2.2.2) hx
  obtain ⟨app, happ, hframe⟩ := exists_frame_of_pack hpack
  obtain ⟨app', happ', hframe'⟩ := exists_frame_of_pack hpack'
  obtain ⟨_, _, _, _, _, hunframe⟩ := unframe?_frame hframe []
  obtain ⟨_, _, _, _, _, hunframe'⟩ := unframe?_frame hframe' []
  obtain rfl : app = app' := congrArg Datagram.app (Option.some.inj (hunframe.symm.trans hunframe'))
  exact Except.ok.inj ((Packet.decode_of_encode happ).symm.trans (Packet.decode_of_encode happ'))

/-- What is heeded was sent in a frame that holds it. -/
lemma Heeded.exists_frame {call : Int × Packet} (hh : Heeded o before limit s₀ s call)
    {address : Ipv4.Address} (haddress : Ipv4.Address.parse? o.address = some address)
    (hlength : call.2.payload.length ≤ 65493) :
    ∃ t sent x, system.Passes limit s₀ t ∧ t.Hears s.client call.2.seq ∧
      system.Passes limit (system.resume 2 t) s ∧ t.host.sent = before ++ sent ∧ x ∈ sent ∧
      x.Holds address o.settings.serverPort s.client o.settings.clientPort call.2 := by
  obtain ⟨t, sent, hfirst, hhears, hlater, hsent, hposted⟩ := hh
  have hclient := Ipv4.Address.parse?_dotted s.client
  obtain ⟨datagram, hpack⟩ := exists_pack haddress hclient o.settings.serverPort
    o.settings.clientPort hlength
  have hpost : post? o s.client call
      = some (call.1, s.client, o.settings.clientPort, datagram) := by
    rw [post?, posting?, hpack]
  obtain ⟨x, hx, hposting⟩ := List.mem_map.1 (hposted _ hpost)
  obtain rfl : x.frame = datagram := congrArg (·.2.2.2) hposting
  exact ⟨t, sent, x, hfirst, hhears, hlater, hsent, hx,
    Sending.holds_of_pack haddress hclient hpack hposting⟩

/-- **Whatever was sent has been heeded** when nothing is in flight. -/
lemma Vouched.exists_frame {h : History}
    (hv : s.Vouched o before (Heeded o before limit s₀ s))
    (hu : s.Underway o files before source h) (hnumbers : s.sender.numbers = [])
    {address : Ipv4.Address} (haddress : Ipv4.Address.parse? o.address = some address)
    {c : Int × Packet} (hc : c ∈ h.log.calls) (hlength : c.2.payload.length ≤ 65493) :
    ∃ t sent x, system.Passes limit s₀ t ∧ t.Hears s.client c.2.seq ∧
      system.Passes limit (system.resume 2 t) s ∧ t.host.sent = before ++ sent ∧ x ∈ sent ∧
      x.Holds address o.settings.serverPort s.client o.settings.clientPort c.2 := by
  obtain ⟨sent, calls, hsent, hmap, hcalls⟩ := hv
  obtain ⟨sent', hsent', hmap'⟩ := hu.posted
  obtain rfl := List.append_cancel_left (hsent'.symm.trans hsent)
  obtain ⟨datagram, hpack⟩ := exists_pack haddress (Ipv4.Address.parse?_dotted s.client)
    o.settings.serverPort o.settings.clientPort hlength
  have hpost : post? o s.client c = some (c.1, s.client, o.settings.clientPort, datagram) := by
    rw [post?, posting?, hpack]
  -- the datagram was sent for a call that is settled, and the packet is the same
  have hposted := List.mem_filterMap.2 ⟨c, hc, hpost⟩
  rw [← hmap', hmap] at hposted
  obtain ⟨call, hcall, hpost'⟩ := List.mem_filterMap.1 hposted
  have hsame := packet_eq_of_post? hpost hpost'
  have hheeded : Heeded o before limit s₀ s call := by
    rcases hcalls call hcall with hflying | hheeded
    · rw [hnumbers] at hflying
      cases hflying
    · exact hheeded
  rw [hsame] at hlength
  rw [hsame]
  exact hheeded.exists_frame haddress hlength

/-- **Complete means acknowledged.**  When a run is over and its report says that the transfer is
complete, the first request that was read is for something that is offered and that has an end; all
of its bytes were counted, and the run returns whether all of them could be read.  Every packet of
it, the end of the file among them, was handed to the network for the client that asked before a
turn of the listener at which that client acknowledges it. -/
theorem complete_is_acknowledged (hmin : 1 ≤ o.settings.maxPayload)
    (hmax : o.settings.maxPayload ≤ 65493) (hstart : start? o host = some s) :
    (∀ limit, run o limit host = (system.run (some limit) (fuel limit s.host) s).outcome) ∧
    ∀ limit s', system.Passes limit s s' → s'.stage.isOver = true → s'.report.completed = true →
      ∃ read r source address bytes, host.arrivals = read ++ s'.host.arrivals ∧
        firstRequest? o.settings.serverPort read = some r ∧
        offered? o host.files r.packet.payload = some source ∧
        s'.stage = .over (.finished (!source.fails o.settings.maxPayload)) ∧
        source.bytes? o.settings.maxPayload = some bytes ∧ s'.report.fileSize = bytes.length ∧
        Ipv4.Address.parse? o.address = some address ∧
        ∀ p ∈ numbered (script (chunks o.settings.maxPayload bytes)),
          ∃ t sent x, system.Passes limit s t ∧ t.Hears r.source p.seq ∧
            system.Passes limit (system.resume 2 t) s' ∧ t.host.sent = host.sent ++ sent ∧
            x ∈ sent ∧ x.Holds address o.settings.serverPort r.source o.settings.clientPort p := by
  refine ⟨run_of_start? hstart, fun limit s' hpasses hover hcompleted => ?_⟩
  obtain ⟨address, haddress⟩ := exists_address_of_start? hstart
  cases course_of_passes hstart hpasses with
  | waiting _ hincomplete => rw [hincomplete] at hcompleted; cases hcompleted
  | refused _ hincomplete => rw [hincomplete] at hcompleted; cases hcompleted
  | @serving source h hu hv hright hfailure =>
      obtain ⟨conclusion, hstage⟩ := Stage.exists_conclusion hover
      obtain ⟨hnumbers, hconclusion⟩ := hright hcompleted
      rw [hstage, hfailure] at hconclusion
      obtain ⟨read, hread, hphase⟩ :=
        phase_of_passes (window_ne_of_reachable hu.reachable) hmin hstart hpasses
      cases hphase with
      | waiting hi =>
          rcases hi.stage_eq with hs | ⟨deadline, hs⟩
          · rw [hs] at hstage; cases hstage
          · rw [hs] at hstage; cases hstage
      | refused _ _ _ hincomplete => rw [hincomplete] at hcompleted; cases hcompleted
      | @serving r source' h' hrequest hoffered hu' hclient htotal =>
          -- both accounts are of the same file
          obtain ⟨path, hpath, hsource⟩ := hu.source_eq
          obtain ⟨path', hpath', hsource'⟩ := hu'.source_eq
          obtain rfl := Option.some.inj (hpath.symm.trans hpath')
          obtain rfl := Option.some.inj (hsource.symm.trans hsource')
          obtain ⟨bytes, hbytes, hsize⟩ : ∃ bytes,
              source.bytes? o.settings.maxPayload = some bytes ∧
                bytes.length = s'.report.fileSize := by
            rw [total?, hstage] at htotal
            exact Option.map_eq_some_iff.1 htotal.symm
          refine ⟨read, r, source, address, bytes, hread, hrequest, hoffered, ?_, hbytes,
            hsize.symm, haddress, fun p hp => ?_⟩
          · rw [hstage, hconclusion]
          have hlength : p.payload.length ≤ 65493 := Nat.le_trans (length_payload_le hp) hmax
          rw [← items_of_over hu' hbytes hover] at hp
          obtain ⟨c, hc, rfl⟩ := hu'.reachable.drawn.called p hp
          rw [← hclient]
          exact hv.exists_frame hu' hnumbers haddress hc hlength

/-- The transfer is complete, and each packet of the file was sent and acknowledged, though late. -/
theorem complete_is_acknowledged_late :
    1 ≤ smallServer.settings.maxPayload ∧ smallServer.settings.maxPayload ≤ 65493 ∧
    start? smallServer lateHost = some lateStart ∧
    ∃ s', system.Passes (some 1000) lateStart s' ∧ s'.stage = .over (.finished true) ∧
      s'.report.completed = true ∧ s'.report.fileSize = 3 ∧
      ∀ p ∈ numbered (script [[1, 2], [3]]), ∃ t sent x, system.Passes (some 1000) lateStart t ∧
        t.Hears ⟨10, 0, 0, 2⟩ p.seq ∧ system.Passes (some 1000) (system.resume 2 t) s' ∧
        t.host.sent = lateHost.sent ++ sent ∧ x ∈ sent ∧
        x.Holds ⟨10, 0, 0, 1⟩ 12345 ⟨10, 0, 0, 2⟩ 12346 p := by
  have hstart : start? smallServer lateHost = some lateStart := (Option.some_get _).symm
  obtain ⟨_, hall⟩ := complete_is_acknowledged (by decide) (by decide) hstart
  let s' := system.run (some 1000) (fuel 1000 lateStart.host) lateStart
  have hpasses : system.Passes (some 1000) lateStart s' := system.passes_run _ _ _
  have harrivals : s'.host.arrivals = [] := by decide +kernel
  have hover : s'.stage.isOver = true := by decide +kernel
  have hcompleted : s'.report.completed = true := by decide +kernel
  have hrequest : firstRequest? 12345 lateHost.arrivals
      = some ⟨⟨0, 2, Flags.request, text "f"⟩, ⟨10, 0, 0, 2⟩, 12346⟩ := by decide +kernel
  have hoffered : offered? smallServer lateHost.files (text "f") = some (.content [1, 2, 3]) := by
    decide +kernel
  obtain ⟨read, r, source, address, bytes, hread, hfirst, hsource, hstage, hbytes, hsize, haddress,
    hpackets⟩ := hall (some 1000) s' hpasses hover hcompleted
  rw [harrivals, List.append_nil] at hread
  rw [hread] at hrequest
  obtain rfl := Option.some.inj (hfirst.symm.trans hrequest)
  obtain rfl := Option.some.inj (hsource.symm.trans hoffered)
  obtain rfl : [1, 2, 3] = bytes := Option.some.inj hbytes
  obtain rfl : ⟨10, 0, 0, 1⟩ = address :=
    Option.some.inj ((by decide +kernel : _ = some _).symm.trans haddress)
  have hscript : chunks smallServer.settings.maxPayload [1, 2, 3] = [[1, 2], [3]] := by
    decide +kernel
  rw [hscript] at hpackets
  exact ⟨by decide, by decide, hstart, s', hpasses, hstage, hcompleted, hsize, hpackets⟩

/-- A request for something that opens but cannot be read, and an acknowledgement. -/
def unreadableHost : Host where
  files := Files.empty.addDirectory (text "d")
  arrivals := [(10, Flags.request, text "d"), (20, Flags.ack, [])].filterMap
    fun (time, flags, payload) =>
      (posting? (text "10.0.0.2") 12346 smallServer.address 12345
        (time, ⟨0, 0, flags, payload⟩)).map fun x => ⟨time, .datagram x.2.2.2⟩

/-- **Complete without the file**: a file that cannot be read is followed by its end like any other,
and when that is acknowledged the report says that the transfer is complete, while the run returns
that it failed. -/
theorem complete_without_the_file :
    offered? smallServer unreadableHost.files (text "d") = some (.failing []) ∧
    (run smallServer 1000 unreadableHost).conclusion = .finished false ∧
    (run smallServer 1000 unreadableHost).report.completed = true ∧
    (run smallServer 1000 unreadableHost).host.sent.filterMap
        (fun x => Arrival.reading 12346 ⟨x.time, .datagram x.frame⟩)
      = [⟨⟨0, 0, Flags.fin, []⟩, ⟨10, 0, 0, 1⟩, 12345⟩] := by
  decide +kernel

end ReliableTransfer.Server
