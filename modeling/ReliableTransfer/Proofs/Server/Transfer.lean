import ReliableTransfer.Proofs.Opening
import ReliableTransfer.Proofs.Reading
import ReliableTransfer.Proofs.Schedule
import ReliableTransfer.Proofs.Server.Sending
import ReliableTransfer.Proofs.Window.Delivery

/-!
# A server's transfer

From the request on, a server gives its sender the pieces of one file in order, and then the end
of the file.  Nothing that happens on the network changes what is given, only when.

* `Stage.Given` — what the sender has been given at a stage of the transfer.
* `Server.Chosen` — the file that was asked for.
* `Server.Underway` — where a transfer stands, and what the sender has been given by then.
* **`Server.Underway.resumeTransfer`**, **`Server.Underway.resumeTimer`**,
  **`Server.Underway.resumeListener`** — every turn keeps it.
-/

namespace ReliableTransfer

namespace Stage

/-- Whether the sender is at work. -/
def isSending : Stage → Bool
  | sendingData _ _ | sendingEnd _ | awaitingAcks _ _ => true
  | _ => false

/-- Whether the timer has ended for good. -/
def isPastTimer : Stage → Bool
  | joiningListener | .over _ => true
  | _ => false

/-- Whether the run is over. -/
def isOver : Stage → Bool
  | .over _ => true
  | _ => false

/-- A run whose sender is at work is not over. -/
lemma isOver_of_isSending {stage : Stage} (h : stage.isSending = true) : stage.isOver = false := by
  cases stage with
  | «over» conclusion => cases h
  | _ => rfl

/-- A run is over only after its timer has ended. -/
lemma isPastTimer_of_isOver {stage : Stage} (h : stage.isOver = true) :
    stage.isPastTimer = true := by
  cases stage with
  | «over» conclusion => rfl
  | _ => cases h

lemma exists_conclusion : ∀ {stage : Stage}, stage.isOver = true →
    ∃ conclusion, stage = .over conclusion
  | .over conclusion, _ => ⟨conclusion, rfl⟩

end Stage

/-- The items that the first `n` pieces of a feed are given as. -/
def Feed.items (n : Nat) (feed : Feed) : List Item :=
  (feed.take n).map (·, Flags.data)

/-- No piece of a source is longer than it may be. -/
lemma Source.length_le_of_mem_feed {source : Source} {size n : Nat} {piece : Bytes}
    (h : piece ∈ (source.feed size).take n) : piece.length ≤ size := by
  cases source with
  | content bytes => exact (length_of_mem_chunks (List.mem_of_mem_take h)).2
  | failing bytes => exact (length_of_mem_chunks (List.mem_of_mem_take h)).2
  | zeros =>
      rw [feed] at h
      split_ifs at h
      · exact absurd (List.mem_of_mem_take h) List.not_mem_nil
      · exact Nat.le_of_eq (by rw [(List.mem_replicate.1 h).2, List.length_replicate])

/-- All of a feed was given, and then the end of the file. -/
def Feed.Finished (feed : Feed) (items : List Item) : Prop :=
  ∃ n, items = feed.items n ++ [([], Flags.fin)] ∧ (feed.drop n).isEmpty = true

/-- **What the sender has been given** at a stage of the transfer. -/
def Stage.Given (feed : Feed) (items : List Item) : Stage → Prop
  | starting | awaitingRequest _ => False
  | sendingData rest _ => ∃ n, items = feed.items n ∧ rest = feed.drop n
  | sendingEnd _ => ∃ n, items = feed.items n ∧ (feed.drop n).isEmpty = true
  | awaitingAcks _ _ | joiningTimer | joiningListener | .over _ => feed.Finished items

lemma Timer.eq_ended {t : Timer} (h : t.hasEnded = true) : t = .ended := by
  cases t with
  | starting => cases h
  | sleeping wake notified => cases h
  | ended => rfl

namespace Server

/-- All of a server that bears on a transfer, apart from how far it is. -/
def footing (s : Server) := (s.outgoing, s.report.fileName, s.endpoint.descriptor, s.host.sockets)

/-- The server sends this source, which the requested name leads to. -/
structure Chosen (o : ServerOptions) (files : Files) (before : List Sending) (source : Source)
    (h : History) (s : Server) : Prop extends s.Serving o before h where
  source_eq : ∃ path, resolveRequest? o.directory s.report.fileName = some path ∧
    files.source? path = some source

/-- **A transfer under way**: what its sender has been given fits the stage, the sender is at work
as long as there is anything to send or to wait for, and socket and timer are there as long as the
sender may need them. -/
structure Underway (o : ServerOptions) (files : Files) (before : List Sending) (source : Source)
    (h : History) (s : Server) : Prop extends s.Chosen o files before source h where
  given : s.stage.Given (source.feed o.settings.maxPayload) h.log.items
  running_eq : s.sender.running = s.stage.isSending
  opened : s.stage.isOver = false → s.endpoint.Open s.host
  ended : s.stage.isPastTimer = true → s.timer = .ended

variable {o : ServerOptions} {files : Files} {before : List Sending} {source : Source}
  {h : History} {s s' : Server}

/-! ## The end of a run -/

lemma sent_save (r : Report) (path : Bytes) (h : Host) : (r.save path h).2.sent = h.sent := by
  rw [Report.save]
  split <;> rfl

/-- The end of a run, seen from outside: nothing is sent any more. -/
lemma finish_eq (s : Server) (ok : Bool) :
    ∃ endpoint host, s.finish ok = { s with endpoint, host, stage := .over (.finished ok) } ∧
      endpoint.address = s.endpoint.address ∧ endpoint.port = s.endpoint.port ∧
      host.sent = s.host.sent := by
  have closed : ∀ host : Host, host.sent = s.host.sent →
      ∃ host', s.endpoint.detach host = ({ s.endpoint with descriptor := none }, host') ∧
        host'.sent = s.host.sent := by
    intro host hsent
    obtain ⟨host', hdetach, hrewired⟩ := s.endpoint.detach_eq host
    exact ⟨host', hdetach, hrewired.sent_eq.trans hsent⟩
  rw [finish]
  cases s.options.reportPath with
  | none =>
      obtain ⟨host, hdetach, hsent⟩ := closed (s.host.print s.report.render) rfl
      dsimp only
      rw [hdetach]
      exact ⟨_, _, rfl, rfl, rfl, hsent⟩
  | some path =>
      obtain ⟨host, hdetach, hsent⟩ := closed _
        (sent_save s.report path (s.host.print s.report.render))
      dsimp only
      rw [hdetach]
      exact ⟨_, _, rfl, rfl, rfl, hsent⟩

namespace Chosen

/-- What has nothing to do with the sender, the network or the file makes no difference. -/
lemma of_eq (hc : s.Chosen o files before source h) (houtgoing : s'.outgoing = s.outgoing)
    (hname : s'.report.fileName = s.report.fileName) : s'.Chosen o files before source h := by
  refine ⟨hc.toServing.of_eq houtgoing, ?_⟩
  rw [hname]
  exact hc.source_eq

lemma finish (hc : s.Chosen o files before source h)
    (hfinished : (source.feed o.settings.maxPayload).Finished h.log.items)
    (hstopped : s.sender.running = false) (htimer : s.timer = .ended) (ok : Bool) :
    (s.finish ok).Underway o files before source h := by
  obtain ⟨endpoint, host, hfinish, haddress, hport, hsent⟩ := finish_eq s ok
  rw [hfinish]
  exact ⟨hc.of_eq (by simp only [outgoing, haddress, hport, hsent]) rfl, hfinished, hstopped,
    Bool.noConfusion, fun _ => htimer⟩

lemma conclude (hc : s.Chosen o files before source h)
    (hfinished : (source.feed o.settings.maxPayload).Finished h.log.items)
    (hstopped : s.sender.running = false) (htimer : s.timer = .ended) :
    s.conclude.Underway o files before source h := by
  have hc' : ({ s with report := { s.report with
      packetsSent := s.sender.packetsSent
      retransmissions := s.sender.retransmissions
      corrupted := s.endpoint.corrupted } } : Server).Chosen o files before source h :=
    hc.of_eq rfl rfl
  exact hc'.finish hfinished hstopped htimer _

lemma stopListening (hc : s.Chosen o files before source h)
    (hfinished : (source.feed o.settings.maxPayload).Finished h.log.items)
    (hopen : s.endpoint.Open s.host) (hstopped : s.sender.running = false)
    (htimer : s.timer = .ended) : s.stopListening.Underway o files before source h := by
  have hc' : ({ s with listening := false } : Server).Chosen o files before source h :=
    hc.of_eq rfl rfl
  rw [Server.stopListening]
  split_ifs
  · exact hc'.conclude hfinished hstopped htimer
  · exact ⟨hc'.of_eq rfl rfl, hfinished, hstopped, fun _ => hopen,
      fun _ => htimer⟩

lemma endTransfer (hc : s.Chosen o files before source h)
    (hfinished : (source.feed o.settings.maxPayload).Finished h.log.items)
    (hopen : s.endpoint.Open s.host) (completed : Bool) :
    ∃ h', (s.endTransfer completed).Underway o files before source h' := by
  have hitems := History.items_stop h
  have hc' : ({ s with
      report := { s.report with completed, endTime := reportTime s.host.now }
      sender := s.sender.stop
      timer := s.timer.notify } : Server).Chosen o files before source h.stop :=
    ⟨hc.stop.of_eq rfl, hc.source_eq⟩
  refine ⟨h.stop, ?_⟩
  rw [Server.endTransfer]
  split_ifs with hended
  · exact hc'.stopListening (hitems ▸ hfinished) hopen rfl (Timer.eq_ended hended)
  · exact ⟨hc'.of_eq rfl rfl, hitems ▸ hfinished, rfl, fun _ => hopen,
      Bool.noConfusion⟩

end Chosen

/-! ## Sending the file -/

/-- The server is in a position to send. -/
structure Working (o : ServerOptions) (files : Files) (before : List Sending) (source : Source)
    (h : History) (s : Server) : Prop extends s.Chosen o files before source h where
  opened : s.endpoint.Open s.host
  running : s.sender.running = true

namespace Working

/-- What has nothing to do with sending makes no difference. -/
lemma of_eq (hw : s.Working o files before source h) (heq : s'.footing = s.footing) :
    s'.Working o files before source h := by
  simp only [footing, Prod.mk.injEq] at heq
  obtain ⟨houtgoing, hname, hdescriptor, hsockets⟩ := heq
  refine ⟨hw.toChosen.of_eq houtgoing hname, hw.opened.of_eq hdescriptor hsockets, ?_⟩
  rw [show s'.sender = s.sender from congrArg (·.2.2.2.2.1) houtgoing]
  exact hw.running

lemma note (hw : s.Working o files before source h) (n : Notice) :
    (s.note n).Working o files before source h :=
  hw.of_eq rfl

lemma readPieces (hw : s.Working o files before source h) (pieces : List Bytes) :
    (s.readPieces pieces).Working o files before source h :=
  hw.of_eq rfl

lemma tryComplete (hw : s.Working o files before source h)
    (hfinished : (source.feed o.settings.maxPayload).Finished h.log.items) (deadline : Int)
    (waited : Bool) :
    ∃ h', (s.tryComplete deadline waited).Underway o files before source h' := by
  rw [Server.tryComplete]
  split_ifs
  · exact (hw.note _).toChosen.endTransfer hfinished hw.opened true
  · exact (hw.note _).toChosen.endTransfer hfinished hw.opened false
  · exact ⟨h, hw.toChosen.of_eq rfl rfl, hfinished, hw.running,
      fun _ => hw.opened, Bool.noConfusion⟩

/-- **A packet is sent**, and takes up one place in the window. -/
lemma sendNow (hw : s.Working o files before source h) (payload : Bytes) (flags : Flags)
    (room : s.sender.hasRoom o.settings = true)
    (fits : Sender.refusal? o.settings payload = none) :
    ∃ h', h'.log.items = h.log.items ++ [(payload, flags)] ∧
      (s.sendNow payload flags).Working o files before source h' ∧
      (s.sendNow payload flags).sender.room o.settings + 1 = s.sender.room o.settings := by
  obtain ⟨host, h', hsend, hsockets, hitems, hserving⟩ :=
    hw.toServing.sendNow hw.opened payload flags hw.running room fits
  refine ⟨h', hitems, ⟨⟨hserving, ?_⟩, ?_, ?_⟩, ?_⟩
  · rw [hsend]
    exact hw.source_eq
  · rw [hsend]
    exact hw.opened.of_eq rfl hsockets
  · rw [hsend]
    exact hw.running
  · rw [hsend]
    exact Sender.room_send room s.host.now payload flags

/-- **The pieces of the file** for which there is room are sent one after the other. -/
lemma sendPieces (hw : s.Working o files before source h) {pieces : List Bytes}
    (room : pieces.length ≤ s.sender.room o.settings)
    (fits : ∀ piece ∈ pieces, piece.length ≤ o.settings.maxPayload) :
    ∃ h', h'.log.items = h.log.items ++ pieces.map (·, Flags.data) ∧
      (pieces.foldl sendPiece s).Working o files before source h' := by
  induction pieces generalizing s h with
  | nil => exact ⟨h, (List.append_nil _).symm, hw⟩
  | cons piece rest ih =>
      -- the piece takes one place, and the rest still has room
      rw [List.length_cons] at room
      have hroom : s.sender.hasRoom o.settings = true :=
        (Sender.hasRoom_iff_room_pos o.settings s.sender).2 (by omega)
      have hfits : Sender.refusal? o.settings piece = none :=
        if_neg (Nat.not_lt.2 (fits piece List.mem_cons_self))
      obtain ⟨h₁, hitems, hworking, hleft⟩ := hw.sendNow piece Flags.data hroom hfits
      obtain ⟨h', hitems', hrest⟩ := ih hworking (by omega)
        fun piece' hpiece' => fits piece' (List.mem_cons_of_mem piece hpiece')
      refine ⟨h', ?_, hrest⟩
      rw [hitems', hitems, List.append_assoc, List.map_cons, List.singleton_append]

/-- **The end of the file** is sent as soon as there is room. -/
lemma sendEnd (hw : s.Working o files before source h) {n : Nat}
    (hitems : h.log.items = (source.feed o.settings.maxPayload).items n)
    (hall : ((source.feed o.settings.maxPayload).drop n).isEmpty = true) :
    ∃ h', s.sendEnd.Underway o files before source h' := by
  obtain rfl := hw.options_eq
  rw [Server.sendEnd]
  split_ifs with hroom
  · obtain ⟨h', hitems', hworking, _⟩ :=
      hw.sendNow [] Flags.fin hroom (if_neg (Nat.not_lt_zero _))
    exact (hworking.note _).tryComplete ⟨n, by rw [hitems', hitems], hall⟩ _ false
  · exact ⟨h, hw.toChosen.of_eq rfl rfl, ⟨n, hitems, hall⟩, hw.running,
      fun _ => hw.opened, Bool.noConfusion⟩

/-- **The rest of the file** is sent as far as there is room. -/
lemma sendData (hw : s.Working o files before source h) {n : Nat}
    (hitems : h.log.items = (source.feed o.settings.maxPayload).items n) :
    ∃ h', (s.sendData ((source.feed o.settings.maxPayload).drop n)).Underway o files before
      source h' := by
  obtain rfl := hw.options_eq
  -- as many pieces are taken as there is room for, and none is longer than it may be
  obtain ⟨h', hitems', hworking⟩ :=
    hw.sendPieces (Feed.length_take_le _ ((source.feed s.options.settings.maxPayload).drop n))
      fun piece hpiece => by
        have hmem := List.mem_append_right
          ((source.feed s.options.settings.maxPayload).take n) hpiece
        rw [← Feed.take_add] at hmem
        exact Source.length_le_of_mem_feed hmem
  have hgiven : h'.log.items = (source.feed s.options.settings.maxPayload).items
      (n + s.sender.room s.options.settings) := by
    rw [hitems', hitems, Feed.items, Feed.items, Feed.take_add, List.map_append]
  have hread := hworking.readPieces ((((source.feed s.options.settings.maxPayload).drop n).drop
    1).take (s.sender.room s.options.settings))
  rw [Server.sendData]
  split_ifs with hempty
  · rw [← Feed.drop_add] at hempty
    split
    · exact (hread.note _).sendEnd hgiven hempty
    · exact hread.sendEnd hgiven hempty
  · exact ⟨h', hread.toChosen.of_eq rfl rfl, ⟨_, hgiven, (Feed.drop_add ..).symm⟩,
      hread.running, fun _ => hread.opened, Bool.noConfusion⟩

end Working

/-! ## Turns of a transfer under way -/

namespace Underway

lemma working (hu : s.Underway o files before source h) (hstage : s.stage.isSending = true) :
    s.Working o files before source h :=
  ⟨hu.toChosen, hu.opened (Stage.isOver_of_isSending hstage), hu.running_eq.trans hstage⟩

lemma resumeTransfer (hu : s.Underway o files before source h)
    (hready : s.transferReadiness.isReadyAt s.host.now = true) :
    ∃ h', s.resumeTransfer.Underway o files before source h' := by
  have hgiven := hu.given
  rw [Server.resumeTransfer]
  cases hs : s.stage with
  | starting =>
      rw [hs] at hgiven
      exact hgiven.elim
  | awaitingRequest deadline =>
      rw [hs] at hgiven
      exact hgiven.elim
  | sendingData rest notified =>
      rw [hs] at hgiven
      obtain ⟨n, hitems, rfl⟩ := hgiven
      exact (hu.working (by rw [hs]; rfl)).sendData hitems
  | sendingEnd notified =>
      rw [hs] at hgiven
      obtain ⟨n, hitems, hall⟩ := hgiven
      exact (hu.working (by rw [hs]; rfl)).sendEnd hitems hall
  | awaitingAcks deadline notified =>
      rw [hs] at hgiven
      exact (hu.working (by rw [hs]; rfl)).tryComplete hgiven deadline true
  | joiningTimer =>
      -- this stage is only left once the timer has ended
      have hrunning := hu.running_eq
      have hopened := hu.opened
      rw [hs] at hgiven hrunning hopened
      have htimer : s.timer.hasEnded = true := by
        rw [transferReadiness, hs] at hready
        cases hended : s.timer.hasEnded with
        | true => rfl
        | false => rw [hended] at hready; cases hready
      exact ⟨h, hu.toChosen.stopListening hgiven (hopened rfl) hrunning (Timer.eq_ended htimer)⟩
  | joiningListener =>
      have hrunning := hu.running_eq
      have hended := hu.ended
      rw [hs] at hgiven hrunning hended
      exact ⟨h, hu.toChosen.conclude hgiven hrunning (hended rfl)⟩
  | _ => exact ⟨h, hu⟩

/-- The socket is there as long as the timer is. -/
lemma opened_of_timer (hu : s.Underway o files before source h) (htimer : s.timer ≠ .ended) :
    s.endpoint.Open s.host := by
  refine hu.opened (Bool.eq_false_iff.2 fun hover => ?_)
  exact htimer (hu.ended (Stage.isPastTimer_of_isOver hover))

lemma resumeTimer (hu : s.Underway o files before source h) :
    ∃ h', s.resumeTimer.Underway o files before source h' := by
  obtain ⟨host, timer, sender, h', hresume, hsockets, hended, hrunning, hitems, hserving⟩ :=
    hu.toServing.resumeTimer hu.opened_of_timer
  refine ⟨h', ⟨hserving, ?_⟩, ?_, ?_, ?_, ?_⟩
  · rw [hresume]
    exact hu.source_eq
  · rw [hresume, hitems]
    exact hu.given
  · rw [hresume]
    exact hrunning.trans hu.running_eq
  · rw [hresume]
    exact fun hover => (hu.opened hover).of_eq rfl hsockets
  · rw [hresume]
    exact fun hpast => hended (hu.ended hpast)

/-- Waking the transfer does not bring it any further. -/
lemma notify (hu : s.Underway o files before source h) :
    s.stage.notify.Given (source.feed o.settings.maxPayload) h.log.items ∧
      s.stage.notify.isSending = s.stage.isSending ∧ s.stage.notify.isOver = s.stage.isOver ∧
      s.stage.notify.isPastTimer = s.stage.isPastTimer := by
  have hgiven := hu.given
  cases hs : s.stage with
  | _ => rw [hs] at hgiven; exact ⟨hgiven, rfl, rfl, rfl⟩

/-- What has nothing to do with the transfer makes no difference. -/
lemma of_eq (hu : s.Underway o files before source h) (heq : s'.footing = s.footing)
    (hstage : s'.stage = s.stage) (htimer : s'.timer = s.timer) :
    s'.Underway o files before source h := by
  simp only [footing, Prod.mk.injEq] at heq
  obtain ⟨houtgoing, hname, hdescriptor, hsockets⟩ := heq
  refine ⟨hu.toChosen.of_eq houtgoing hname, ?_, ?_, ?_, ?_⟩
  · rw [hstage]
    exact hu.given
  · rw [hstage, show s'.sender = s.sender from congrArg (·.2.2.2.2.1) houtgoing]
    exact hu.running_eq
  · rw [hstage]
    exact fun hover => (hu.opened hover).of_eq hdescriptor hsockets
  · rw [hstage, htimer]
    exact hu.ended

lemma heedAck (hu : s.Underway o files before source h) (number : UInt32) :
    ∃ h', (s.heedAck number).Underway o files before source h' := by
  obtain ⟨hgiven, hsending, hover, hpast⟩ := hu.notify
  have hitems := History.items_acknowledge number h
  obtain ⟨notices, hnotices⟩ := s.host.noteIf_eq s.options.verbose (.acknowledged number)
  refine ⟨h.acknowledge number, ⟨?_, ?_⟩, ?_, ?_, ?_, ?_⟩
  · refine (hu.toServing.acknowledge number).of_eq ?_
    simp only [outgoing, Server.heedAck, noteVerbose, hnotices]
  · exact hu.source_eq
  · rw [hitems]
    exact hgiven
  · exact hu.running_eq.trans hsending.symm
  · intro hstage
    refine (hu.opened (hover.symm.trans hstage)).of_eq rfl ?_
    show (s.host.noteIf _ _).sockets = s.host.sockets
    rw [hnotices]
  · exact fun hstage => hu.ended (hpast.symm.trans hstage)

lemma resumeListener (hu : s.Underway o files before source h) :
    ∃ h', s.resumeListener.Underway o files before source h' := by
  have listen : ∀ {t : Server} {h' : History}, t.Underway o files before source h' →
      t.listen.Underway o files before source h' :=
    fun ht => ht.of_eq rfl rfl rfl
  rw [Server.resumeListener]
  cases s.listener with
  | starting => exact ⟨h, listen hu⟩
  | ended => exact ⟨h, hu⟩
  | reading deadline =>
      obtain ⟨received, corrupted, arrivals, notices, hreceive, _⟩ := s.endpoint.receive_eq s.host
      have hu' : ({ s with
          endpoint := { s.endpoint with corrupted }
          host := { s.host with arrivals, notices } } : Server).Underway o files before source h :=
        hu.of_eq rfl rfl rfl
      simp only [receive, hreceive]
      cases received with
      | none => exact ⟨h, listen hu'⟩
      | some r =>
          rw [heed]
          split_ifs
          · obtain ⟨h', hheed⟩ := hu'.heedAck r.packet.ack
            exact ⟨h', listen hheed⟩
          · exact ⟨h, listen hu'⟩

end Underway

end Server

end ReliableTransfer
