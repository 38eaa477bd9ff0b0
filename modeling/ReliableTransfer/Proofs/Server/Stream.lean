import ReliableTransfer.Proofs.Server.Transfer

/-!
# What a run of the server sends

Before a request is accepted nothing is sent, and after that only packets of the file that was
asked for.

* `Server.Idle`, `Server.Refused` — before a request, and after one that was turned down.
* `Server.Sound` — one of these, or a transfer under way; `Server.Sound.run` says that a run keeps
  it.
* **`Server.stream`** — all that a run has handed to the network.
-/

namespace ReliableTransfer.Server

variable {o : ServerOptions} {files : Files} {before : List Sending} {s : Server}

/-! ## Before a transfer -/

/-- The server waits for a request. -/
structure Idle (o : ServerOptions) (files : Files) (before : List Sending) (s : Server) : Prop
    extends s.Located o where
  stage_eq : s.stage = .starting ∨ ∃ deadline, s.stage = .awaitingRequest deadline
  opened : s.endpoint.Open s.host
  files_eq : s.host.files = files
  sent_eq : s.host.sent = before
  timer_eq : s.timer = .ended
  listener_eq : s.listener = .ended

/-- The request was turned down, and the run is over. -/
structure Refused (before : List Sending) (s : Server) : Prop where
  stage_eq : ∃ conclusion, s.stage = .over conclusion
  sent_eq : s.host.sent = before
  timer_eq : s.timer = .ended
  listener_eq : s.listener = .ended

/-- **What a run may look like at any point.** -/
def Sound (o : ServerOptions) (files : Files) (before : List Sending) (s : Server) : Prop :=
  s.Idle o files before ∨ s.Refused before ∨
    ∃ source h, s.Underway o files before source h

/-- Without a timer and a listener there is only the transfer. -/
lemma resumeTimer_of_ended (htimer : s.timer = .ended) : s.resumeTimer = s := by
  obtain ⟨_, _, _, _, _, _, _, timer, _, _, _⟩ := s
  obtain rfl : timer = .ended := htimer
  rfl

lemma resumeListener_of_ended (hlistener : s.listener = .ended) : s.resumeListener = s := by
  rw [resumeListener, hlistener]

/-- The server that has noted a request. -/
def asked (r : Received) (s : Server) : Server :=
  { s.note (.requestReceived r.packet.payload r.source r.port) with
    client := r.source
    report := { s.report with role := text "server", fileName := r.packet.payload } }

lemma acceptRequest_eq (s : Server) (r : Received) :
    s.acceptRequest r =
      match resolveRequest? s.options.directory r.packet.payload with
      | none => ((s.asked r).note (.nameRejected r.packet.payload)).finish false
      | some path =>
        match s.host.files.source? path with
        | none => ((s.asked r).note (.fileNotFound path)).finish false
        | some source =>
          match Sender.create s.options.settings with
          | .error cause => { s.asked r with stage := .over (.broken cause) }
          | .ok w => (s.asked r).beginTransfer path source w :=
  rfl

lemma Refused.finish (hsent : s.host.sent = before) (htimer : s.timer = .ended)
    (hlistener : s.listener = .ended) (ok : Bool) : (s.finish ok).Refused before := by
  obtain ⟨endpoint, host, hfinish, _, _, hsent'⟩ := finish_eq s ok
  rw [hfinish]
  exact ⟨⟨_, rfl⟩, hsent'.trans hsent, htimer, hlistener⟩

namespace Idle

/-- Waiting (again) for a request; what was read or written in between makes no difference. -/
lemma awaitRequest (hi : s.Idle o files before) (corrupted : Nat) (arrivals : List Arrival)
    (notices : List Notice) :
    ({ s with
        endpoint := { s.endpoint with corrupted }
        host := { s.host with arrivals, notices } } : Server).awaitRequest.Idle o files before :=
  ⟨⟨hi.options_eq, hi.address_eq, hi.port_eq⟩, .inr ⟨_, rfl⟩, hi.opened, hi.files_eq, hi.sent_eq,
    hi.timer_eq, hi.listener_eq⟩

lemma beginTransfer (hi : s.Idle o files before) {path : Bytes} {source : Source}
    (hpath : resolveRequest? o.directory s.report.fileName = some path)
    (hsource : files.source? path = some source) {w : Sender}
    (hw : Sender.create o.settings = .ok w) :
    ∃ h, (s.beginTransfer path source w).Underway o files before source h := by
  obtain rfl := hi.options_eq
  have hrunning : w.running = true := by
    rw [Sender.eq_of_create hw]
  have hsent : s.host.sent = before ++ [] := by rw [List.append_nil, hi.sent_eq]
  have hworking : (s.prepare path source w).Working s.options files before source ⟨w, []⟩ :=
    ⟨⟨⟨⟨rfl, hi.address_eq, hi.port_eq⟩, .start hw, rfl, [], hsent, rfl⟩, path, hpath, hsource⟩,
      hi.opened, hrunning⟩
  have hdrop : (source.feed s.options.settings.maxPayload).drop 0
      = source.feed s.options.settings.maxPayload := by
    cases source.feed s.options.settings.maxPayload <;> rfl
  rw [Server.beginTransfer, ← hdrop]
  refine hworking.sendData (n := 0) ?_
  cases source.feed s.options.settings.maxPayload <;> rfl

/-- **A request** begins a transfer, or it is turned down and the sender stays as it was. -/
lemma acceptRequest (hi : s.Idle o files before) (r : Received) :
    ((s.acceptRequest r).Refused before ∧ (s.acceptRequest r).sender = s.sender) ∨
      ∃ source h, (s.acceptRequest r).Underway o files before source h := by
  obtain rfl := hi.options_eq
  obtain rfl := hi.files_eq
  have ht : (s.asked r).Idle s.options s.host.files before :=
    ⟨⟨rfl, hi.address_eq, hi.port_eq⟩, hi.stage_eq, hi.opened, rfl, hi.sent_eq, hi.timer_eq,
      hi.listener_eq⟩
  -- whatever is wrong with a request, the run ends before anything is sent
  have refused : ∀ n, (((s.asked r).note n).finish false).Refused before :=
    fun n => Refused.finish (s := (s.asked r).note n) ht.sent_eq ht.timer_eq ht.listener_eq false
  rw [acceptRequest_eq]
  cases hpath : resolveRequest? s.options.directory r.packet.payload with
  | none => exact .inl ⟨refused _, rfl⟩
  | some path =>
      dsimp only
      cases hsource : s.host.files.source? path with
      | none => exact .inl ⟨refused _, rfl⟩
      | some source =>
          dsimp only
          cases hw : Sender.create s.options.settings with
          | error cause =>
              exact .inl ⟨⟨⟨_, rfl⟩, ht.sent_eq, ht.timer_eq, ht.listener_eq⟩, rfl⟩
          | ok w =>
              obtain ⟨h, hunderway⟩ := ht.beginTransfer hpath hsource hw
              exact .inr ⟨source, h, hunderway⟩

/-- **A turn of the transfer** that waits for a request: as long as none is accepted, the sender
stays as it was. -/
lemma resumeTransfer (hi : s.Idle o files before) :
    ((s.resumeTransfer.Idle o files before ∨ s.resumeTransfer.Refused before) ∧
      s.resumeTransfer.sender = s.sender) ∨
      ∃ source h, s.resumeTransfer.Underway o files before source h := by
  rw [Server.resumeTransfer]
  rcases hi.stage_eq with hstage | ⟨deadline, hstage⟩
  · rw [hstage]
    exact .inl ⟨.inl (hi.awaitRequest s.endpoint.corrupted s.host.arrivals _), rfl⟩
  · obtain ⟨received, corrupted, arrivals, notices, hreceive, _⟩ := s.endpoint.receive_eq s.host
    have hi' : ({ s with
        endpoint := { s.endpoint with corrupted }
        host := { s.host with arrivals, notices } } : Server).Idle o files before :=
      ⟨⟨hi.options_eq, hi.address_eq, hi.port_eq⟩, hi.stage_eq, hi.opened, hi.files_eq, hi.sent_eq,
        hi.timer_eq, hi.listener_eq⟩
    rw [hstage]
    simp only [receive, hreceive]
    cases received with
    | none => exact .inl ⟨.inl (hi.awaitRequest corrupted arrivals notices), rfl⟩
    | some r =>
        rw [considerRequest]
        split_ifs
        · exact (hi'.acceptRequest r).imp (fun hrefused => ⟨.inr hrefused.1, hrefused.2⟩) id
        · obtain ⟨notices', hnotices⟩ := ({ s.host with arrivals, notices } : Host).noteIf_eq
            s.options.verbose (.ignoredBeforeRequest r.packet)
          simp only [noteVerbose, hnotices]
          exact .inl ⟨.inl (hi.awaitRequest corrupted arrivals notices'), rfl⟩

end Idle

/-! ## The run -/

/-- As long as the server waits for a request, nothing but the transfer has turns. -/
lemma Idle.resume_succ (hi : s.Idle o files before) (i : Nat) : system.resume (i + 1) s = s := by
  match i with
  | 0 => exact resumeTimer_of_ended hi.timer_eq
  | 1 => exact resumeListener_of_ended hi.listener_eq
  | _ + 2 => rfl

/-- After a refusal nothing has. -/
lemma Refused.resume_eq (hr : s.Refused before) (i : Nat) : system.resume i s = s := by
  match i with
  | 0 =>
      obtain ⟨conclusion, hstage⟩ := hr.stage_eq
      show s.resumeTransfer = s
      rw [resumeTransfer, hstage]
  | 1 => exact resumeTimer_of_ended hr.timer_eq
  | 2 => exact resumeListener_of_ended hr.listener_eq
  | _ + 3 => rfl

/-- A transfer under way goes on, whichever task has its turn. -/
lemma Underway.resume {source : Source} {h : History} (hu : s.Underway o files before source h)
    {i : Nat} (hready : system.firstReady? s = some i) :
    ∃ h', (system.resume i s).Underway o files before source h' := by
  obtain ⟨readiness, htask, hnow⟩ := system.ready_of_firstReady? hready
  match i with
  | 0 =>
      obtain rfl : s.transferReadiness = readiness := Option.some.inj htask
      exact hu.resumeTransfer hnow
  | 1 => exact hu.resumeTimer
  | 2 => exact hu.resumeListener
  | _ + 3 => exact ⟨h, hu⟩

namespace Sound

/-- **A turn that is taken** keeps a run sound. -/
lemma resume (hs : s.Sound o files before) {i : Nat} (hready : system.firstReady? s = some i) :
    (system.resume i s).Sound o files before := by
  rcases hs with hi | hr | ⟨source, h, hu⟩
  · cases i with
    | zero =>
        rcases hi.resumeTransfer with ⟨hi' | hr, _⟩ | hu
        · exact .inl hi'
        · exact .inr (.inl hr)
        · exact .inr (.inr hu)
    | succ i =>
        rw [hi.resume_succ]
        exact .inl hi
  · rw [hr.resume_eq]
    exact .inr (.inl hr)
  · obtain ⟨h', hu'⟩ := hu.resume hready
    exact .inr (.inr ⟨source, h', hu'⟩)

lemma advanceTo (hs : s.Sound o files before) (time : Int) :
    (system.advanceTo time s).Sound o files before := by
  rcases hs with hi | hr | ⟨source, h, hu⟩
  · exact .inl ⟨⟨hi.options_eq, hi.address_eq, hi.port_eq⟩, hi.stage_eq, hi.opened, hi.files_eq,
      hi.sent_eq, hi.timer_eq, hi.listener_eq⟩
  · exact .inr (.inl ⟨hr.stage_eq, hr.sent_eq, hr.timer_eq, hr.listener_eq⟩)
  · exact .inr (.inr ⟨source, h, hu.of_eq rfl rfl rfl⟩)

lemma run (hs : s.Sound o files before) (limit : Option Int) (fuel : Nat) :
    (system.run limit fuel s).Sound o files before :=
  system.run_invariant_of_ready (fun _ _ hready hs => hs.resume hready)
    (fun time _ hs => hs.advanceTo time) limit fuel hs

end Sound

/-- What the sender has been given at any stage is a front part of the file, with the end of the
file behind the whole of it or not at all. -/
lemma items_of_given {feed : Feed} {items : List Item} {stage : Stage}
    (hgiven : stage.Given feed items) :
    (∃ n, items = feed.items n) ∨ feed.Finished items := by
  cases stage with
  | starting => exact hgiven.elim
  | awaitingRequest deadline => exact hgiven.elim
  | sendingData rest notified =>
      obtain ⟨n, hitems, _⟩ := hgiven
      exact .inl ⟨n, hitems⟩
  | sendingEnd notified =>
      obtain ⟨n, hitems, _⟩ := hgiven
      exact .inl ⟨n, hitems⟩
  | _ => exact .inr hgiven

/-- What a sender is given of a file is a front part of its script. -/
lemma prefix_script {pieces : List Bytes} {items : List Item}
    (h : (∃ n, items = (Feed.pieces pieces).items n) ∨ (Feed.pieces pieces).Finished items) :
    items <+: script pieces := by
  have hitems : ∀ n, (Feed.pieces pieces).items n <+: pieces.map (·, Flags.data) := by
    intro n
    rw [Feed.items, Feed.take, List.map_take]
    exact List.take_prefix n _
  rcases h with ⟨n, rfl⟩ | ⟨n, rfl, hempty⟩
  · exact (hitems n).trans (List.prefix_append _ _)
  · have hall : pieces.take n = pieces :=
      List.take_of_length_le (List.drop_eq_nil_iff.1 (List.isEmpty_iff.1 hempty))
    rw [Feed.items, Feed.take, hall]
    exact List.prefix_rfl

lemma outcome_eq (s : Server) :
    s.outcome.report = s.report ∧ s.outcome.host.sent = s.host.sent := by
  rw [outcome]
  split
  · obtain ⟨host, hdetach, hrewired⟩ := s.endpoint.detach_eq s.host
    rw [hdetach]
    exact ⟨rfl, hrewired.sent_eq⟩
  · exact ⟨rfl, rfl⟩

/-- A run comes to nothing before it starts, or it starts idle. -/
lemma run_cases (o : ServerOptions) (limit : Int) (host : Host) :
    (∃ h', host.Rewired h' ∧ run o limit host = ⟨.notStarted, {}, h'⟩) ∨
    ∃ s fuel, s.Idle o host.files host.sent ∧
      run o limit host = (system.run (some limit) fuel s).outcome := by
  obtain ⟨ok, descriptor, h', hattach, hrewired, hopen⟩ :=
    ({ address := o.address, port := o.settings.serverPort } : Endpoint).attach_eq
      o.settings.receiveTimeout host
  rw [run]
  dsimp only at hattach ⊢
  rw [hattach]
  cases ok with
  | false =>
      obtain ⟨h'', hdetach, hrewired'⟩ := ({
        address := o.address, port := o.settings.serverPort, descriptor } : Endpoint).detach_eq h'
      refine .inl ⟨h'', hrewired.trans hrewired', ?_⟩
      dsimp only
      rw [hdetach]
  | true =>
      exact .inr ⟨_, _, ⟨⟨rfl, rfl, rfl⟩, .inl rfl, hopen rfl, hrewired.files_eq, hrewired.sent_eq,
        rfl, rfl⟩, rfl⟩

/-- **What a run of the server sends**: nothing, or there is a file that the requested name leads
to, and a history of a sender that was given a front part of it in order, such that the frames sent
are those of its calls. -/
lemma stream (o : ServerOptions) (limit : Int) (host : Host) :
    (run o limit host).host.sent = host.sent ∨
    ∃ (path : Bytes) (source : Source) (h : History) (client : Ipv4.Address) (sent : List Sending),
      resolveRequest? o.directory (run o limit host).report.fileName = some path ∧
      host.files.source? path = some source ∧ h.Reachable o.settings ∧
      ((∃ n, h.log.items = (source.feed o.settings.maxPayload).items n) ∨
        (source.feed o.settings.maxPayload).Finished h.log.items) ∧
      (run o limit host).host.sent = host.sent ++ sent ∧
      sent.map Sending.posting = h.log.calls.filterMap (post? o client) := by
  rcases run_cases o limit host with ⟨h', hrewired, hrun⟩ | ⟨s, fuel, hidle, hrun⟩
  · rw [hrun]
    exact .inl hrewired.sent_eq
  · obtain ⟨hreport, hsent⟩ := outcome_eq (system.run (some limit) fuel s)
    rw [hrun, hreport, hsent]
    rcases Sound.run (.inl hidle) (some limit) fuel with hi | hr | ⟨source, h, hu⟩
    · exact .inl hi.sent_eq
    · exact .inl hr.sent_eq
    · obtain ⟨path, hpath, hsource⟩ := hu.source_eq
      obtain ⟨sent, hsent', hmap⟩ := hu.posted
      exact .inr ⟨path, source, h, _, sent, hpath, hsource, hu.reachable,
        items_of_given hu.given, hsent', hmap⟩

end ReliableTransfer.Server
