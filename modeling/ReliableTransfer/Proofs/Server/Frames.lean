import ReliableTransfer.Proofs.Opening
import ReliableTransfer.Proofs.Reading
import ReliableTransfer.Proofs.Window.Scan
import ReliableTransfer.Server.Run

/-!
# What parts of a turn leave alone

Whether or not there is a socket, sending touches only what was sent and what was written, and the
end of a run touches only the endpoint, the output and the files.

* `Server.ground` — all of a server that sending leaves alone and waiting depends on.
* `Server.performAll_frame`, `Server.sendNow_frame`, `Server.sendPieces_frame`,
  `Server.resumeTimer_frame` — sending.
* `Server.heed_cases` — what the listener makes of what it read.
* **`Server.finish_frame`** — the end of a run.
-/

namespace ReliableTransfer

/-- The files when a report was saved, if it was to be. -/
def Report.filed (r : Report) (path : Option Bytes) (files : Files) : Files :=
  match path.bind files.create? with
  | some (place, files) => files.put place r.render
  | none => files

namespace Server

variable {s : Server}

/-- All of a server that sending leaves alone and waiting depends on. -/
def ground (s : Server) :=
  (s.options, s.endpoint.descriptor, s.listener, s.host.now, s.host.arrivals, s.host.files,
    s.host.sockets, s.host.printed)

/-! ## Sending -/

/-- Sending touches none of that. -/
lemma ground_of_posted {more : List Posting} {h : Host} (hposted : s.host.Posted more h)
    (sender : Sender) (report : Report) :
    ({ s with host := h, sender, report } : Server).ground = s.ground := by
  simp only [ground, hposted.now_eq, hposted.arrivals_eq, hposted.files_eq, hposted.sockets_eq,
    hposted.printed_eq]

lemma perform_frame (action : Action) (s : Server) :
    ∃ host more, action.perform link s = { s with host } ∧ s.host.Posted more host := by
  have transmits : ∀ p, ∃ ok host more, link.transmit p s = (ok, { s with host }) ∧
      s.host.Posted more host := by
    intro p
    obtain ⟨more, hsend⟩ := s.endpoint.exists_posted_send
      (s.host.noteIf s.options.verbose (.transmitting p)) s.client.dotted
      s.options.settings.clientPort p
    exact ⟨_, _, _, rfl, (Host.Posted.noteIf s.host s.options.verbose _).trans hsend⟩
  cases action with
  | transmit p =>
      obtain ⟨ok, host, more, hsend, hposted⟩ := transmits p
      simp only [Action.perform, hsend]
      cases ok with
      | true => exact ⟨host, more, rfl, hposted⟩
      | false => exact ⟨_, more, rfl, hposted.and_note (.transmitFailed p.seq)⟩
  | retransmit p =>
      obtain ⟨ok, host, more, hsend, hposted⟩ := transmits p
      simp only [Action.perform, hsend]
      cases ok with
      | true => exact ⟨host, more, rfl, hposted⟩
      | false => exact ⟨_, more, rfl, hposted.and_note (.retransmitFailed p.seq)⟩
  | giveUp maxRetries seq => exact ⟨_, [], rfl, .note s.host (.retriesExceeded maxRetries seq)⟩

/-- **The actions of the sender** touch nothing but what was sent and written. -/
lemma performAll_frame (actions : List Action) (s : Server) :
    ∃ host more, performAll link actions s = { s with host } ∧ s.host.Posted more host := by
  induction actions generalizing s with
  | nil => exact ⟨s.host, [], rfl, .refl s.host⟩
  | cons action actions ih =>
      obtain ⟨host, more, hfirst, hposted⟩ := perform_frame action s
      obtain ⟨host', more', hrest, hposted'⟩ := ih { s with host }
      exact ⟨host', more ++ more', by rw [performAll_cons, hfirst, hrest], hposted.trans hposted'⟩

lemma sendNow_frame (s : Server) (payload : Bytes) (flags : Flags) :
    ∃ host more, s.sendNow payload flags
        = { s with host, sender := (s.sender.send s.host.now payload flags).1 } ∧
      s.host.Posted more host :=
  performAll_frame _ { s with sender := (s.sender.send s.host.now payload flags).1 }

/-- **Pieces of a file** that are sent each take one place in the window. -/
lemma sendPieces_frame (pieces : List Bytes) (s : Server) :
    ∃ host sender more, pieces.foldl sendPiece s = { s with host, sender } ∧
      s.host.Posted more host ∧
      (pieces.length ≤ s.sender.room s.options.settings →
        sender.room s.options.settings + pieces.length = s.sender.room s.options.settings) := by
  induction pieces generalizing s with
  | nil => exact ⟨s.host, s.sender, [], rfl, .refl s.host, fun _ => rfl⟩
  | cons piece rest ih =>
      obtain ⟨host, more, hsend, hposted⟩ := sendNow_frame s piece Flags.data
      have hpiece : s.sendPiece piece
          = { s with host, sender := (s.sender.send s.host.now piece Flags.data).1 } := hsend
      obtain ⟨host', sender, more', hrest, hposted', hroom⟩ := ih (s.sendPiece piece)
      rw [hpiece] at hrest hposted' hroom
      refine ⟨host', sender, more ++ more', by rw [List.foldl_cons, hpiece, hrest],
        hposted.trans hposted', fun hlength => ?_⟩
      rw [List.length_cons] at hlength ⊢
      have hone := Sender.room_send ((Sender.hasRoom_iff_room_pos s.options.settings s.sender).2
        (by omega)) s.host.now piece Flags.data
      dsimp only at hroom
      have hothers := hroom (by omega)
      omega

/-- **The end of a run** prints the report and files it, and closes the endpoint. -/
lemma finish_frame (s : Server) (ok : Bool) :
    ∃ endpoint host, s.finish ok = { s with endpoint, host, stage := .over (.finished ok) } ∧
      host.now = s.host.now ∧ host.arrivals = s.host.arrivals ∧
      host.printed = s.host.printed ++ s.report.render ∧
      host.files = s.report.filed s.options.reportPath s.host.files := by
  have closed : ∀ h : Host, ∃ endpoint h', s.endpoint.detach h = (endpoint, h') ∧
      h.Rewired h' := by
    intro h
    obtain ⟨h', hdetach, hrewired⟩ := s.endpoint.detach_eq h
    exact ⟨_, h', hdetach, hrewired⟩
  rw [finish, Report.filed]
  cases s.options.reportPath with
  | none =>
      obtain ⟨endpoint, h', hdetach, hrewired⟩ := closed (s.host.print s.report.render)
      dsimp only
      rw [hdetach]
      exact ⟨endpoint, _, rfl, hrewired.now_eq, hrewired.arrivals_eq, hrewired.printed_eq,
        hrewired.files_eq⟩
  | some path =>
      obtain ⟨endpoint, h', hdetach, hrewired⟩ :=
        closed (s.report.save path (s.host.print s.report.render)).2
      have hfiles := hrewired.files_eq
      dsimp only
      rw [hdetach]
      rw [Report.save] at hrewired hfiles
      refine ⟨endpoint, _, rfl, ?_⟩
      rw [Option.bind_some]
      change h'.now = _ ∧ h'.arrivals = _ ∧ h'.printed = _ ∧ h'.files = _
      rw [hrewired.now_eq, hrewired.arrivals_eq, hrewired.printed_eq, hfiles]
      rw [show (s.host.print s.report.render).files.create? path = s.host.files.create? path
        from rfl]
      cases s.host.files.create? path with
      | none => exact ⟨rfl, rfl, rfl, rfl⟩
      | some created => exact ⟨rfl, rfl, rfl, rfl⟩

/-! ## The other tasks -/

/-- A turn of the timer, seen from outside. -/
lemma resumeTimer_frame (s : Server) :
    ∃ h more sender, s.resumeTimer = { s with
        host := h
        timer := (s.timer.resume s.options.settings s.host.now s.sender).1
        sender } ∧
      s.host.Posted more h ∧ sender.running = s.sender.running ∧
      sender.hasRoom s.options.settings = s.sender.hasRoom s.options.settings := by
  rw [Server.resumeTimer]
  rcases Timer.resume_cases s.options.settings s.host.now s.sender s.timer with
    ⟨timer, hresume, _⟩ | ⟨_, _, timer, hresume⟩
  · rw [hresume]
    exact ⟨s.host, [], s.sender, rfl, .refl s.host, rfl, rfl⟩
  · rw [hresume]
    obtain ⟨h, more, hperform, hposted⟩ := performAll_frame
      (s.sender.scan s.options.settings s.host.now).2
      { s with timer, sender := (s.sender.scan s.options.settings s.host.now).1 }
    exact ⟨h, more, _, hperform, hposted, rfl, rfl⟩

/-- What the listener makes of what it read: nothing, or an acknowledgement that wakes the
transfer. -/
lemma heed_cases (received : Option Received) (s : Server) :
    s.heed received = s ∨ ∃ number notices report, s.heed received = { s with
      host := { s.host with notices }
      sender := s.sender.acknowledge number
      stage := s.stage.notify
      report } := by
  cases received with
  | none => exact .inl rfl
  | some r =>
      rw [heed]
      split_ifs
      · obtain ⟨notices, hnotices⟩ :=
          s.host.noteIf_eq s.options.verbose (.acknowledged r.packet.ack)
        refine .inr ⟨r.packet.ack, notices,
          { s.report with packetsReceived := s.report.packetsReceived + 1 }, ?_⟩
        rw [heedAck, noteVerbose, hnotices]
      · exact .inl rfl

end Server

end ReliableTransfer
