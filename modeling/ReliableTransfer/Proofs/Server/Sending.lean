import ReliableTransfer.Proofs.Posting
import ReliableTransfer.Proofs.Window.Invariant
import ReliableTransfer.Server.Run

/-!
# What a server sends

What a server hands to the network comes from its sender alone: there is a history of the sender
whose calls of the link, framed for the client, are all that was sent.

* `Server.performAll_link` — what the actions of the sender come to.
* `Server.Serving` — the server's sender has a history, and what was sent is what its calls come
  to.
* `Server.Serving.sendNow`, `Server.Serving.resumeTimer`, `Server.Serving.acknowledge`,
  `Server.Serving.stop` — what a server does with its sender is a turn of the history.
-/

namespace ReliableTransfer.Server

/-- The datagram of a packet of the sender, if the packet can be framed. -/
def post? (o : ServerOptions) (client : Ipv4.Address) : Int × Packet → Option Posting :=
  posting? o.address o.settings.serverPort client.dotted o.settings.clientPort

/-- The server has the endpoint it was told to have. -/
structure Located (o : ServerOptions) (s : Server) : Prop where
  options_eq : s.options = o
  address_eq : s.endpoint.address = o.address
  port_eq : s.endpoint.port = o.settings.serverPort

/-! ## What the sender's actions come to -/

section Actions

variable {o : ServerOptions} {s : Server}

lemma Located.post?_eq (hl : s.Located o) : posting? s.endpoint.address s.endpoint.port
    s.client.dotted s.options.settings.clientPort = post? o s.client := by
  rw [hl.address_eq, hl.port_eq, hl.options_eq]
  rfl

/-- A packet goes to the network, framed, and nothing else changes but what was written. -/
lemma transmit_link (hl : s.Located o) (hopen : s.endpoint.Open s.host) (p : Packet) :
    ∃ ok host, link.transmit p s = (ok, { s with host }) ∧
      s.host.Posted (post? o s.client (s.host.now, p)).toList host := by
  have hnote := Host.Posted.noteIf s.host s.options.verbose (.transmitting p)
  have hsend := Endpoint.posted_send (hopen.of_eq rfl hnote.sockets_eq) s.client.dotted
    s.options.settings.clientPort p
  rw [hl.post?_eq, hnote.now_eq] at hsend
  exact ⟨_, _, rfl, hnote.trans hsend⟩

/-- One action comes to the frame of its packet, if it has one. -/
lemma perform_link (hl : s.Located o) (hopen : s.endpoint.Open s.host) (action : Action) :
    ∃ host, action.perform link s = { s with host } ∧ s.host.Posted
      (action.packet?.bind fun p => post? o s.client (s.host.now, p)).toList host := by
  cases action with
  | transmit p =>
      obtain ⟨ok, host, hsend, hposted⟩ := transmit_link hl hopen p
      simp only [Action.perform, hsend]
      cases ok with
      | true => exact ⟨host, rfl, hposted⟩
      | false => exact ⟨_, rfl, hposted.and_note (.transmitFailed p.seq)⟩
  | retransmit p =>
      obtain ⟨ok, host, hsend, hposted⟩ := transmit_link hl hopen p
      simp only [Action.perform, hsend]
      cases ok with
      | true => exact ⟨host, rfl, hposted⟩
      | false => exact ⟨_, rfl, hposted.and_note (.retransmitFailed p.seq)⟩
  | giveUp maxRetries seq => exact ⟨_, rfl, .note s.host (.retriesExceeded maxRetries seq)⟩

/-- **The actions of the sender** come to the frames of their packets. -/
lemma performAll_link (hl : s.Located o) (hopen : s.endpoint.Open s.host)
    (actions : List Action) :
    ∃ host, performAll link actions s = { s with host } ∧
      s.host.Posted
        (((actions.filterMap Action.packet?).map (s.host.now, ·)).filterMap (post? o s.client))
        host := by
  -- each action contributes the frame of its own packet
  rw [List.filterMap_map, List.filterMap_filterMap, List.filterMap_eq_flatMap_toList]
  induction actions generalizing s with
  | nil => exact ⟨s.host, rfl, .refl s.host⟩
  | cons action actions ih =>
      obtain ⟨host, hfirst, hposted⟩ := perform_link hl hopen action
      have hl' : Located o { s with host } := ⟨hl.options_eq, hl.address_eq, hl.port_eq⟩
      obtain ⟨host', hrest, hposted'⟩ := ih hl' (hopen.of_eq rfl hposted.sockets_eq)
      refine ⟨host', by rw [performAll_cons, hfirst, hrest], ?_⟩
      rw [show ({ s with host } : Server).host.now = s.host.now from hposted.now_eq] at hposted'
      rw [List.flatMap_cons]
      exact hposted.trans hposted'

lemma sendNow_eq (hl : s.Located o) (hopen : s.endpoint.Open s.host) (payload : Bytes)
    (flags : Flags) :
    ∃ host, s.sendNow payload flags
        = { s with host, sender := (s.sender.send s.host.now payload flags).1 } ∧
      s.host.Posted
        ([(s.host.now, s.sender.packet payload flags)].filterMap (post? o s.client)) host :=
  performAll_link (s := { s with sender := (s.sender.send s.host.now payload flags).1 })
    ⟨hl.options_eq, hl.address_eq, hl.port_eq⟩ hopen [.transmit (s.sender.packet payload flags)]

/-- A turn of the timer, seen from outside: it scans, or it does nothing with the sender. -/
lemma resumeTimer_eq (hl : s.Located o) (hopen : s.timer ≠ .ended → s.endpoint.Open s.host) :
    (∃ timer, s.resumeTimer = { s with timer } ∧ (s.timer = .ended → timer = .ended)) ∨
    (s.sender.running = true ∧ s.timer ≠ .ended ∧
      ∃ timer host, s.resumeTimer
          = { s with timer, host, sender := (s.sender.scan o.settings s.host.now).1 } ∧
        s.host.Posted ((((s.sender.scan o.settings s.host.now).2.filterMap Action.packet?).map
          (s.host.now, ·)).filterMap (post? o s.client)) host) := by
  obtain rfl := hl.options_eq
  rw [resumeTimer]
  rcases Timer.resume_cases s.options.settings s.host.now s.sender s.timer with
    ⟨timer, hresume, hended⟩ | ⟨running, htimer, timer, hresume⟩
  · rw [hresume]
    exact .inl ⟨timer, rfl, hended⟩
  · rw [hresume]
    let w := s.sender.scan s.options.settings s.host.now
    obtain ⟨host, hperform, hposted⟩ := performAll_link (s := { s with timer, sender := w.1 })
      ⟨rfl, hl.address_eq, hl.port_eq⟩ (hopen htimer) w.2
    exact .inr ⟨running, htimer, timer, host, hperform, hposted⟩

end Actions

/-! ## The history of the sender -/

/-- All of a server that bears on what was sent and on how more is sent. -/
def outgoing (s : Server) :
    ServerOptions × Bytes × UInt16 × Ipv4.Address × Sender × List Sending :=
  (s.options, s.endpoint.address, s.endpoint.port, s.client, s.sender, s.host.sent)

/-- **The server's sender has this history**, and what was handed to the network since `before` is
what the calls of the link come to. -/
structure Serving (o : ServerOptions) (before : List Sending) (h : History) (s : Server) : Prop
    extends s.Located o where
  reachable : h.Reachable o.settings
  sender_eq : s.sender = h.sender
  posted : ∃ sent, s.host.sent = before ++ sent ∧
    sent.map Sending.posting = h.log.calls.filterMap (post? o s.client)

namespace Serving

variable {o : ServerOptions} {before : List Sending} {h h' : History} {s s' : Server}

/-- What has nothing to do with the sender or the network makes no difference. -/
lemma of_eq (hs : s.Serving o before h) (heq : s'.outgoing = s.outgoing) :
    s'.Serving o before h := by
  simp only [outgoing, Prod.mk.injEq] at heq
  obtain ⟨hoptions, haddress, hport, hclient, hsender, hsent⟩ := heq
  refine ⟨⟨?_, ?_, ?_⟩, hs.reachable, ?_, ?_⟩
  · rw [hoptions, hs.options_eq]
  · rw [haddress, hs.address_eq]
  · rw [hport, hs.port_eq]
  · rw [hsender, hs.sender_eq]
  · rw [hsent, hclient]
    exact hs.posted

/-- A turn of the sender, with the frames it comes to. -/
lemma turn (hs : s.Serving o before h) (hstep : History.Step o.settings h h')
    (calls : List (Int × Packet)) (hcalls : h'.log.calls = h.log.calls ++ calls) {host : Host}
    (hposted : s.host.Posted (calls.filterMap (post? o s.client)) host) :
    ({ s with host, sender := h'.sender } : Server).Serving o before h' := by
  obtain ⟨sent, hsent, hmap⟩ := hs.posted
  obtain ⟨sent', notices, rfl, hmap'⟩ := hposted
  refine ⟨⟨hs.options_eq, hs.address_eq, hs.port_eq⟩, hs.reachable.step hstep, rfl, sent ++ sent',
    ?_, ?_⟩
  · show s.host.sent ++ sent' = before ++ (sent ++ sent')
    rw [hsent, List.append_assoc]
  · show _ = h'.log.calls.filterMap (post? o s.client)
    rw [List.map_append, hmap, hmap', hcalls, List.filterMap_append]

/-- **A packet is sent.**  Whether the network takes it makes no difference to the sender. -/
lemma sendNow (hs : s.Serving o before h) (hopen : s.endpoint.Open s.host) (payload : Bytes)
    (flags : Flags) (running : s.sender.running = true)
    (room : s.sender.hasRoom o.settings = true)
    (fits : Sender.refusal? o.settings payload = none) :
    ∃ host h', s.sendNow payload flags
        = { s with host, sender := (s.sender.send s.host.now payload flags).1 } ∧
      host.sockets = s.host.sockets ∧ h'.log.items = h.log.items ++ [(payload, flags)] ∧
      (s.sendNow payload flags).Serving o before h' := by
  obtain ⟨host, hsend, hposted⟩ := sendNow_eq hs.toLocated hopen payload flags
  have hsender := hs.sender_eq
  rw [hsender] at running room hposted
  let h' := h.send (fun _ => true) s.host.now payload flags
  have hstep : History.Step o.settings h h' := .send _ _ payload flags running room fits
  obtain ⟨more, hmore, _, hcalls, _⟩ :=
    History.log_send (fun _ => true) s.host.now payload flags h
  have hturn := hs.turn hstep _ (by rw [hmore, Log.calls_append, hcalls]) hposted
  refine ⟨host, h', hsend, hposted.sockets_eq, History.items_send _ _ _ _ h, ?_⟩
  rw [hsend, hsender]
  exact hturn

/-- **The timer's turn**: the packets that are overdue are sent again, or nothing happens. -/
lemma resumeTimer (hs : s.Serving o before h)
    (hopen : s.timer ≠ .ended → s.endpoint.Open s.host) :
    ∃ host timer sender h', s.resumeTimer = { s with host, timer, sender } ∧
      host.sockets = s.host.sockets ∧ (s.timer = .ended → timer = .ended) ∧
      sender.running = s.sender.running ∧ h'.log.items = h.log.items ∧
      s.resumeTimer.Serving o before h' := by
  rcases resumeTimer_eq hs.toLocated hopen with
    ⟨timer, hresume, hended⟩ | ⟨running, htimer, timer, host, hresume, hposted⟩
  · refine ⟨s.host, timer, s.sender, h, hresume, rfl, hended, rfl, rfl, ?_⟩
    rw [hresume]
    exact hs.of_eq rfl
  · have hsender := hs.sender_eq
    rw [hsender] at running hposted
    let h' := h.scan o.settings (fun _ => true) s.host.now
    have hstep : History.Step o.settings h h' := .scan _ _ running
    obtain ⟨more, hmore, _, hcalls, _⟩ := History.log_scan o.settings (fun _ => true) s.host.now h
    have hturn := hs.turn hstep _ (by rw [hmore, Log.calls_append, hcalls]) hposted
    refine ⟨host, timer, _, h', hresume, hposted.sockets_eq, fun h => absurd h htimer, rfl,
      History.items_scan _ _ _ h, ?_⟩
    rw [hresume, hsender]
    exact hturn.of_eq rfl

lemma acknowledge (hs : s.Serving o before h) (number : UInt32) :
    ({ s with sender := s.sender.acknowledge number } : Server).Serving o before
      (h.acknowledge number) := by
  have hcalls := (Log.append_order h.log (d := .acknowledged number) rfl).2.1
  have hturn := hs.turn (.acknowledge number) []
    (by rw [List.append_nil]; exact hcalls) (.refl s.host)
  rw [hs.sender_eq]
  exact hturn

lemma stop (hs : s.Serving o before h) :
    ({ s with sender := s.sender.stop } : Server).Serving o before h.stop := by
  have hcalls := (Log.append_order h.log (d := .stopped) rfl).2.1
  have hturn := hs.turn .stop [] (by rw [List.append_nil]; exact hcalls)
    (.refl s.host)
  rw [hs.sender_eq]
  exact hturn

end Serving

end ReliableTransfer.Server
