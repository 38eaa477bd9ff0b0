import ReliableTransfer.Proofs.Carrying
import ReliableTransfer.Proofs.Server.Account
import ReliableTransfer.Proofs.Server.Stream
import ReliableTransfer.Proofs.Window.Firsts

/-!
# What a server does for its first request

The first request that a server reads decides what it sends, and to whom.  Nothing that is read
before or after makes a difference to that.

* `Server.firstRequest?`, `Server.offered?` — the first request among what was read, and what the
  name in it leads to.
* `Server.start?` — the server with its endpoint open.
* `Server.Phase` — where a run stands, given what it has read; `Server.Phase.resume` is one turn.
* **`Server.phase_of_passes`** — at every point of a run.
* **`Server.first_request_served`** — what a server has sent at any point of a run.
-/

namespace ReliableTransfer.Server

variable {o : ServerOptions} {host : Host} {read : List Arrival} {s s' : Server}

/-- The first request among what was read. -/
def firstRequest? (port : UInt16) (read : List Arrival) : Option Received :=
  (read.filterMap (Arrival.reading port)).find? (·.packet.isRequest)

/-- What a server has under a requested name: nothing if the name is turned down, and else what the
path leads to. -/
def offered? (o : ServerOptions) (files : Files) (name : Bytes) : Option Source :=
  (resolveRequest? o.directory name).bind files.source?

/-- The server when it has opened its endpoint, if that works. -/
def start? (o : ServerOptions) (host : Host) : Option Server :=
  match ({ address := o.address, port := o.settings.serverPort } : Endpoint).attach
      o.settings.receiveTimeout host with
  | (true, endpoint, h) => some
      { options := o, host := h.note (.serverListening o.address o.directory o.settings), endpoint }
  | (false, _, _) => none

/-- A run goes on from there. -/
lemma run_of_start? (hstart : start? o host = some s) (limit : Int) :
    run o limit host = (system.run (some limit) (fuel limit s.host) s).outcome := by
  rw [start?] at hstart
  rw [run]
  dsimp only at hstart ⊢
  split at hstart
  · rename_i endpoint h hattach
    obtain rfl := Option.some.inj hstart
    rw [hattach]
    rfl
  · cases hstart

lemma idle_of_start? (hstart : start? o host = some s) :
    s.Idle o host.files host.sent ∧ s.host.arrivals = host.arrivals ∧ s.report.fileSize = 0 ∧
      s.report.completed = false := by
  obtain ⟨ok, descriptor, h', hattach, hrewired, hopen⟩ :=
    ({ address := o.address, port := o.settings.serverPort } : Endpoint).attach_eq
      o.settings.receiveTimeout host
  rw [start?, hattach] at hstart
  cases ok with
  | false => cases hstart
  | true =>
      obtain rfl := Option.some.inj hstart
      exact ⟨⟨⟨rfl, rfl, rfl⟩, .inl rfl, hopen rfl, hrewired.files_eq, hrewired.sent_eq, rfl, rfl⟩,
        hrewired.arrivals_eq, rfl, rfl⟩

lemma exists_address_of_start? (hstart : start? o host = some s) :
    ∃ address, Ipv4.Address.parse? o.address = some address := by
  rw [start?] at hstart
  split at hstart
  · rename_i endpoint h hattach
    exact Endpoint.exists_address_of_attach (congrArg Prod.fst hattach)
  · cases hstart

/-! ## Phases -/

lemma firstRequest?_append (port : UInt16) (read more : List Arrival) :
    firstRequest? port (read ++ more)
      = (firstRequest? port read).or (firstRequest? port more) := by
  rw [firstRequest?, List.filterMap_append, List.find?_append]
  rfl

lemma firstRequest?_singleton (port : UInt16) (a : Arrival) :
    firstRequest? port [a] = (a.reading port).filter (·.packet.isRequest) := by
  cases hreading : a.reading port with
  | none => simp [firstRequest?, hreading]
  | some r =>
      rw [Option.filter_some]
      cases hr : r.packet.isRequest <;> simp [firstRequest?, hreading, hr]

/-- **Where a run stands** that began on `host` and has read `read`. -/
inductive Phase (o : ServerOptions) (host : Host) (read : List Arrival) (s : Server) : Prop
  | waiting (idle : s.Idle o host.files host.sent)
      (none_yet : firstRequest? o.settings.serverPort read = none)
      (nothing_yet : s.report.fileSize = 0)
      (incomplete : s.report.completed = false)
  | refused {r : Received} (request : firstRequest? o.settings.serverPort read = some r)
      (not_offered : offered? o host.files r.packet.payload = none)
      (refusal : s.Refused host.sent)
      (incomplete : s.report.completed = false)
  | serving {r : Received} {source : Source} {h : History}
      (request : firstRequest? o.settings.serverPort read = some r)
      (offered : offered? o host.files r.packet.payload = some source)
      (underway : s.Underway o host.files host.sent source h)
      (client_eq : s.client = r.source)
      (total_eq : s.total? = (source.bytes? o.settings.maxPayload).map List.length)

/-- The request that ends the waiting is the first one. -/
lemma phase_acceptRequest (hwindow : o.settings.window ≠ 0) (hsize : 1 ≤ o.settings.maxPayload)
    (hi : s.Idle o host.files host.sent) (hzero : s.report.fileSize = 0)
    (hincomplete : s.report.completed = false) {r : Received}
    (hrequest : firstRequest? o.settings.serverPort read = some r) :
    Phase o host read (s.acceptRequest r) ∧
      (s.acceptRequest r).host.arrivals = s.host.arrivals := by
  obtain rfl := hi.options_eq
  have hfiles := hi.files_eq
  have refused : ∀ n, (((s.asked r).note n).finish false).Refused host.sent := fun n =>
    Refused.finish (s := (s.asked r).note n) hi.sent_eq hi.timer_eq hi.listener_eq false
  have kept : ∀ n, (((s.asked r).note n).finish false).host.arrivals = s.host.arrivals :=
    fun n => congrArg (·.2.2) (closes_finish ((s.asked r).note n) false).books_eq
  have incomplete : ∀ n, (((s.asked r).note n).finish false).report.completed = false := fun n => by
    obtain ⟨endpoint, h, hfinish, _⟩ := finish_eq ((s.asked r).note n) false
    rw [hfinish]
    exact hincomplete
  rw [acceptRequest_eq]
  cases hpath : resolveRequest? s.options.directory r.packet.payload with
  | none =>
      exact ⟨.refused hrequest (by rw [offered?, hpath]; rfl) (refused _) (incomplete _), kept _⟩
  | some path =>
      dsimp only
      rw [hfiles]
      cases hsource : host.files.source? path with
      | none =>
          have hnone : offered? s.options host.files r.packet.payload = none := by
            rw [offered?, hpath]
            exact hsource
          exact ⟨.refused hrequest hnone (refused _) (incomplete _), kept _⟩
      | some source =>
          have hcreate : Sender.create s.options.settings = .ok {} := if_neg hwindow
          have ht : (s.asked r).Idle s.options host.files host.sent :=
            ⟨⟨rfl, hi.address_eq, hi.port_eq⟩, hi.stage_eq, hi.opened, hfiles, hi.sent_eq,
              hi.timer_eq, hi.listener_eq⟩
          rw [hcreate]
          obtain ⟨h, hunderway⟩ := ht.beginTransfer hpath hsource hcreate
          obtain ⟨hclient, harrivals, htotal⟩ :=
            sendData_books (s := (s.asked r).prepare path source {})
              ⟨rfl, hi.address_eq, hi.port_eq⟩ hi.opened
              (source.feed s.options.settings.maxPayload)
          refine ⟨.serving hrequest (by rw [offered?, hpath]; exact hsource) hunderway hclient
            (htotal.trans ?_), harrivals⟩
          -- the first piece is counted, and all others lie ahead
          refine (Feed.map_bytes?_drop 1 s.report.fileSize _).trans ?_
          show (source.feed s.options.settings.maxPayload).bytes?.map _ = _
          rw [Source.bytes?_feed hsize]
          simp only [hzero, Nat.zero_add]

lemma phase_resumeTransfer_of_idle (hwindow : o.settings.window ≠ 0)
    (hsize : 1 ≤ o.settings.maxPayload) (hi : s.Idle o host.files host.sent)
    (hnone : firstRequest? o.settings.serverPort read = none) (hzero : s.report.fileSize = 0)
    (hincomplete : s.report.completed = false) :
    ∃ more, s.host.arrivals = more ++ s.resumeTransfer.host.arrivals ∧
      Phase o host (read ++ more) s.resumeTransfer := by
  rw [resumeTransfer]
  rcases hi.stage_eq with hstage | ⟨deadline, hstage⟩
  · rw [hstage]
    refine ⟨[], rfl,
      .waiting (hi.awaitRequest s.endpoint.corrupted s.host.arrivals _) ?_ hzero hincomplete⟩
    rw [List.append_nil, hnone]
  · obtain ⟨received, corrupted, arrivals, notices, hreceive, hcases⟩ :=
      s.endpoint.receive_eq s.host
    have hi' : ({ s with
        endpoint := { s.endpoint with corrupted }
        host := { s.host with arrivals, notices } } : Server).Idle o host.files host.sent :=
      ⟨⟨hi.options_eq, hi.address_eq, hi.port_eq⟩, hi.stage_eq, hi.opened, hi.files_eq, hi.sent_eq,
        hi.timer_eq, hi.listener_eq⟩
    rw [hstage]
    simp only [receive, hreceive]
    -- what was read on the way holds just what was received
    obtain ⟨more, hmore, hfirst⟩ : ∃ more, s.host.arrivals = more ++ arrivals ∧
        firstRequest? o.settings.serverPort (read ++ more)
          = received.filter (·.packet.isRequest) := by
      rcases hcases with ⟨rfl, rfl⟩ | ⟨a, harrivals, _, rfl⟩
      · exact ⟨[], rfl, by rw [List.append_nil, hnone]; rfl⟩
      · refine ⟨[a], harrivals, ?_⟩
        rw [firstRequest?_append, hnone, Option.none_or, firstRequest?_singleton, hi.port_eq]
    refine ⟨more, ?_⟩
    cases received with
    | none =>
        exact ⟨hmore,
          .waiting (hi.awaitRequest corrupted arrivals notices) hfirst hzero hincomplete⟩
    | some r =>
        rw [considerRequest]
        split_ifs with hr
        · rw [Option.filter_some, if_pos hr] at hfirst
          obtain ⟨hphase, harrivals⟩ := phase_acceptRequest hwindow hsize hi' hzero hincomplete hfirst
          exact ⟨by rw [harrivals]; exact hmore, hphase⟩
        · rw [Option.filter_some, if_neg hr] at hfirst
          obtain ⟨notices', hnotices⟩ := ({ s.host with arrivals, notices } : Host).noteIf_eq
            s.options.verbose (.ignoredBeforeRequest r.packet)
          simp only [noteVerbose, hnotices]
          exact ⟨hmore,
            .waiting (hi.awaitRequest corrupted arrivals notices') hfirst hzero hincomplete⟩

namespace Phase

lemma of_goes (hg : Goes s s') {r : Received} {source : Source} {h : History}
    (hrequest : firstRequest? o.settings.serverPort read = some r)
    (hoffered : offered? o host.files r.packet.payload = some source)
    (hunderway : s'.Underway o host.files host.sent source h) (hclient : s.client = r.source)
    (htotal : s.total? = (source.bytes? o.settings.maxPayload).map List.length) :
    ∃ more, s.host.arrivals = more ++ s'.host.arrivals ∧ Phase o host (read ++ more) s' := by
  obtain ⟨more, hmore⟩ := hg.arrivals_eq
  refine ⟨more, hmore, .serving ?_ hoffered hunderway (hg.client_eq.trans hclient)
    (hg.total_eq.trans htotal)⟩
  rw [firstRequest?_append, hrequest, Option.some_or]

/-- **One turn.** -/
lemma resume (hwindow : o.settings.window ≠ 0) (hsize : 1 ≤ o.settings.maxPayload)
    (hp : Phase o host read s) {i : Nat} (hready : system.firstReady? s = some i) :
    ∃ more, s.host.arrivals = more ++ (system.resume i s).host.arrivals ∧
      Phase o host (read ++ more) (system.resume i s) := by
  have stays : system.resume i s = s → ∃ more,
      s.host.arrivals = more ++ (system.resume i s).host.arrivals ∧
        Phase o host (read ++ more) (system.resume i s) := by
    intro hsame
    rw [hsame]
    exact ⟨[], rfl, by rwa [List.append_nil]⟩
  cases hp with
  | waiting hi hnone hzero hincomplete =>
      cases i with
      | zero => exact phase_resumeTransfer_of_idle hwindow hsize hi hnone hzero hincomplete
      | succ i => exact stays (hi.resume_succ i)
  | refused hrequest hoffered hr => exact stays (hr.resume_eq i)
  | serving hrequest hoffered hu hclient htotal =>
      obtain ⟨h', hu'⟩ := hu.resume hready
      match i with
      | 0 => exact of_goes (goes_resumeTransfer hu) hrequest hoffered hu' hclient htotal
      | 1 => exact of_goes (goes_resumeTimer hu) hrequest hoffered hu' hclient htotal
      | 2 => exact of_goes (goes_resumeListener s) hrequest hoffered hu' hclient htotal
      | _ + 3 => exact stays rfl

lemma advanceTo (hp : Phase o host read s) (time : Int) :
    Phase o host read (system.advanceTo time s) := by
  cases hp with
  | waiting hi hnone hzero hincomplete =>
      exact .waiting ⟨⟨hi.options_eq, hi.address_eq, hi.port_eq⟩, hi.stage_eq, hi.opened,
        hi.files_eq, hi.sent_eq, hi.timer_eq, hi.listener_eq⟩ hnone hzero hincomplete
  | refused hrequest hoffered hr hincomplete =>
      exact .refused hrequest hoffered ⟨hr.stage_eq, hr.sent_eq, hr.timer_eq, hr.listener_eq⟩
        hincomplete
  | serving hrequest hoffered hu hclient htotal =>
      exact .serving hrequest hoffered (hu.of_eq rfl rfl rfl) hclient htotal

end Phase

/-- **At every point of a run** there is a list of arrivals it has read, and it stands where these
have brought it. -/
lemma phase_of_passes (hwindow : o.settings.window ≠ 0) (hsize : 1 ≤ o.settings.maxPayload)
    (hstart : start? o host = some s) {limit : Option Int} (hpasses : system.Passes limit s s') :
    ∃ read, host.arrivals = read ++ s'.host.arrivals ∧ Phase o host read s' := by
  induction hpasses with
  | refl =>
      obtain ⟨hidle, harrivals, hzero, hincomplete⟩ := idle_of_start? hstart
      exact ⟨[], harrivals.symm, .waiting hidle rfl hzero hincomplete⟩
  | tail _ hstep ih =>
      obtain ⟨read, hread, hphase⟩ := ih
      rcases system.step?_eq_some hstep with ⟨i, hi, rfl⟩ | ⟨time, _, _, _, rfl⟩
      · obtain ⟨more, hmore, hphase'⟩ := hphase.resume hwindow hsize hi
        exact ⟨read ++ more, by rw [hread, hmore, List.append_assoc], hphase'⟩
      · exact ⟨read, hread, hphase.advanceTo time⟩

/-! ## The file -/

/-- What a transfer has called its link with, given that the file has an end and as long as numbers
last. -/
lemma packets_of_underway {files : Files} {before : List Sending} {source : Source} {h : History}
    (hsize : 1 ≤ o.settings.maxPayload) (hu : s.Underway o files before source h) {bytes : Bytes}
    (hbytes : source.bytes? o.settings.maxPayload = some bytes)
    (hcount : pieceCount o.settings.maxPayload bytes + 1 ≤ 4294967296) :
    (∀ c ∈ h.log.calls, IsPacketOf o.settings.maxPayload bytes c.2) ∧
      h.log.items.length ≤ pieceCount o.settings.maxPayload bytes + 1 ∧ h.Climbs ∧
      (s.stage.isOver = true →
        h.log.items.length = pieceCount o.settings.maxPayload bytes + 1) := by
  have hchunks := length_chunks hsize bytes
  have hfeed : source.feed o.settings.maxPayload = _ := Source.feed_eq hbytes
  have hscript := prefix_script (hfeed ▸ items_of_given hu.given)
  have hlength := hscript.length_le
  rw [length_script, hchunks] at hlength
  refine ⟨fun c hc => ?_, hlength, hu.reachable.climbs (by omega), fun hover => ?_⟩
  · obtain ⟨more, hmore⟩ := hscript
    refine isPacketOf_of_mem_numbered hsize hcount ?_
    rw [← hmore]
    exact numbered_subset_append _ _ (hu.reachable.drawn.packet_mem c hc)
  · have hgiven := hu.given
    obtain ⟨conclusion, hs⟩ := Stage.exists_conclusion hover
    rw [hs, hfeed] at hgiven
    obtain ⟨n, hitems, hempty⟩ := hgiven
    have hall : (chunks o.settings.maxPayload bytes).length ≤ n :=
      List.drop_eq_nil_iff.1 (List.isEmpty_iff.1 hempty)
    rw [hitems, List.length_append, Feed.items, List.length_map, Feed.take,
      List.take_of_length_le hall, hchunks]
    rfl

/-- **What a server sends.**  At every point of a run that has opened its endpoint, nothing has been
sent if no request was read or the first one is for nothing that is offered.  Otherwise, as long as
numbers last, all that was sent are packets of the file, from the server to the client that asked;
their first copies come in order, and in the end all of them have been sent and counted. -/
theorem first_request_served (hwindow : o.settings.window ≠ 0) (hmin : 1 ≤ o.settings.maxPayload)
    (hmax : o.settings.maxPayload ≤ 65493) (hstart : start? o host = some s) :
    (∀ limit, run o limit host = (system.run (some limit) (fuel limit s.host) s).outcome) ∧
    ∀ limit s', system.Passes limit s s' → ∃ read sent,
      host.arrivals = read ++ s'.host.arrivals ∧ s'.host.sent = host.sent ++ sent ∧
      (firstRequest? o.settings.serverPort read = none → sent = []) ∧
      ∀ r, firstRequest? o.settings.serverPort read = some r →
        (offered? o host.files r.packet.payload = none → sent = []) ∧
        ∀ source bytes, offered? o host.files r.packet.payload = some source →
          source.bytes? o.settings.maxPayload = some bytes →
          pieceCount o.settings.maxPayload bytes + 1 ≤ 4294967296 →
          ∃ address packets, Ipv4.Address.parse? o.address = some address ∧
            List.Forall₂ (Sending.Holds address o.settings.serverPort r.source
              o.settings.clientPort) sent packets ∧
            (∀ p ∈ packets, IsPacketOf o.settings.maxPayload bytes p) ∧
            ∃ n ≤ pieceCount o.settings.maxPayload bytes + 1,
              (packets.map (·.seq.toNat)).eraseDups = List.range n ∧
              (s'.stage.isOver = true → n = pieceCount o.settings.maxPayload bytes + 1 ∧
                s'.report.fileSize = bytes.length) := by
  refine ⟨run_of_start? hstart, fun limit s' hpasses => ?_⟩
  obtain ⟨address, haddress⟩ := exists_address_of_start? hstart
  obtain ⟨read, hread, hphase⟩ := phase_of_passes hwindow hmin hstart hpasses
  cases hphase with
  | waiting hi hnone hzero =>
      refine ⟨read, [], hread, by rw [hi.sent_eq, List.append_nil], fun _ => rfl, fun r hr => ?_⟩
      rw [hnone] at hr
      cases hr
  | refused hrequest hoffered hover =>
      refine ⟨read, [], hread, by rw [hover.sent_eq, List.append_nil], fun _ => rfl,
        fun r hr => ⟨fun _ => rfl, fun source bytes hsource => ?_⟩⟩
      obtain rfl := Option.some.inj (hrequest.symm.trans hr)
      rw [hoffered] at hsource
      cases hsource
  | @serving r source h hrequest hoffered hu hclient htotal =>
      obtain ⟨sent, hsent, hposted⟩ := hu.posted
      refine ⟨read, sent, hread, hsent, fun hnone => ?_, fun r' hr => ⟨fun hnone => ?_, ?_⟩⟩
      · rw [hrequest] at hnone
        cases hnone
      · obtain rfl := Option.some.inj (hrequest.symm.trans hr)
        rw [hoffered] at hnone
        cases hnone
      intro source' bytes hsource hbytes hcount
      obtain rfl := Option.some.inj (hrequest.symm.trans hr)
      obtain rfl := Option.some.inj (hoffered.symm.trans hsource)
      obtain ⟨hpackets, hlength, hclimbs, hall⟩ := packets_of_underway hmin hu hbytes hcount
      have hfits : ∀ p ∈ h.log.calls.map Prod.snd,
          decide (p.payload.length ≤ 65493) = true := by
        intro p hp
        rw [decide_eq_true_eq]
        obtain ⟨c, hc, rfl⟩ := List.mem_map.1 hp
        rcases (hpackets c hc).kind with ⟨_, _, hpayload, _⟩ | ⟨_, _, hpayload⟩
        · rw [hpayload, pieceAt]
          exact Nat.le_trans (List.length_take_le _ _) hmax
        · rw [hpayload]
          exact Nat.zero_le _
      rw [hclient] at hposted
      have hholds :=
        Sending.holds_of_postings haddress (Ipv4.Address.parse?_dotted r.source) hposted
      rw [List.filter_eq_self.2 hfits] at hholds
      refine ⟨address, h.log.calls.map Prod.snd, haddress, hholds, ?_, h.log.items.length, hlength,
        ?_, fun hover => ⟨hall hover, ?_⟩⟩
      · intro p hp
        obtain ⟨c, hc, rfl⟩ := List.mem_map.1 hp
        exact hpackets c hc
      · rw [List.map_map]
        exact hclimbs
      · rw [hbytes, total?] at htotal
        obtain ⟨conclusion, hs⟩ := Stage.exists_conclusion hover
        rw [hs] at htotal
        exact Option.some.inj htotal

/-- A server with pieces of two bytes. -/
def smallServer : ServerOptions where
  address := text "10.0.0.1"
  directory := []
  settings := { maxPayload := 2 }

/-- Something without a meaning, a failed read, a request, and an acknowledgement that comes too
late for the file to be sent only once. -/
def lateHost : Host where
  files := Files.empty.addFile (text "f") [1, 2, 3]
  arrivals := ⟨0, .datagram [0, 0]⟩ :: ⟨0, .fault .connectionRefused⟩ ::
    [(0, Flags.request, text "f"), (700, Flags.ack, [])].filterMap fun (time, flags, payload) =>
      (posting? (text "10.0.0.2") 12346 smallServer.address 12345
        (time, ⟨0, 2, flags, payload⟩)).map fun x => ⟨time, .datagram x.2.2.2⟩

/-- The server on that machine, before its first turn. -/
def lateStart : Server :=
  (start? smallServer lateHost).get (by decide +kernel)

/-- Of the file that was asked for, every packet is sent, and those that were not acknowledged in
time are sent again. -/
theorem first_request_served_late :
    ∃ packets, List.Forall₂ (Sending.Holds ⟨10, 0, 0, 1⟩ 12345 ⟨10, 0, 0, 2⟩ 12346)
        (run smallServer 1000 lateHost).host.sent packets ∧
      (∀ p ∈ packets, IsPacketOf 2 [1, 2, 3] p) ∧ packets.length = 6 ∧
      (packets.map (·.seq.toNat)).eraseDups = [0, 1, 2] ∧
      (run smallServer 1000 lateHost).report.fileSize = 3 := by
  have harrivals :
      (system.run (some 1000) (fuel 1000 lateStart.host) lateStart).host.arrivals = [] := by
    decide +kernel
  have hlength :
      (system.run (some 1000) (fuel 1000 lateStart.host) lateStart).host.sent.length = 6 := by
    decide +kernel
  have hover :
      (system.run (some 1000) (fuel 1000 lateStart.host) lateStart).stage.isOver = true := by
    decide +kernel
  have hrequest : firstRequest? 12345 lateHost.arrivals
      = some ⟨⟨0, 2, Flags.request, text "f"⟩, ⟨10, 0, 0, 2⟩, 12346⟩ := by decide +kernel
  have hstart : start? smallServer lateHost = some lateStart := (Option.some_get _).symm
  obtain ⟨hrun, hall⟩ := first_request_served (by decide) (by decide) (by decide) hstart
  obtain ⟨read, sent, hread, hsent, _, hserve⟩ :=
    hall (some 1000) _ (system.passes_run (some 1000) (fuel 1000 lateStart.host) lateStart)
  obtain ⟨hreport, hsame⟩ :=
    outcome_eq (system.run (some 1000) (fuel 1000 lateStart.host) lateStart)
  rw [harrivals, List.append_nil] at hread
  rw [hread] at hrequest
  obtain ⟨address, packets, haddress, hholds, hpackets, n, _, hfirsts, hdone⟩ :=
    (hserve _ hrequest).2 (.content [1, 2, 3]) [1, 2, 3] (by decide +kernel) rfl
      (by decide)
  obtain ⟨rfl, hsize⟩ := hdone hover
  obtain rfl : ⟨10, 0, 0, 1⟩ = address :=
    Option.some.inj ((by decide +kernel : _ = some _).symm.trans haddress)
  rw [hrun 1000, hreport, hsame, hsent]
  refine ⟨packets, hholds, hpackets, ?_, hfirsts, hsize⟩
  rw [← hholds.length_eq, ← hlength, hsent]
  rfl

end ReliableTransfer.Server
