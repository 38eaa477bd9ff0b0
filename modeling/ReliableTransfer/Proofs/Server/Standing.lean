import ReliableTransfer.Proofs.Server.Frames
import ReliableTransfer.Proofs.Server.Stream
import ReliableTransfer.Proofs.Window.Settling

/-!
# Where a server stands

Where a server stands says what its tasks wait for, and how many turns are left to them before the
clock has to move.

* `Server.Base`, `Server.Waits`, **`Server.Standing`** — where a server stands.
* `Server.work` — a bound on the turns that are left.
* `Server.Comes` — what a part of a turn comes to; one lemma for each function that a turn of the
  transfer may lead through.
-/

namespace ReliableTransfer

/-- How long a read waits; for ever if there is no timeout. -/
def Settings.patience (settings : Settings) : Option Int :=
  if settings.receiveTimeout = 0 then none else some settings.receiveTimeout

/-- A read with such a deadline has not come to its end yet. -/
lemma Settings.lt_of_patience {settings : Settings} (htimeout : 0 ≤ settings.receiveTimeout)
    {now t : Int} (h : settings.patience.map (now + ·) = some t) : now < t := by
  rw [patience] at h
  by_cases hzero : settings.receiveTimeout = 0
  · rw [if_pos hzero] at h
    cases h
  · rw [if_neg hzero] at h
    obtain rfl := Option.some.inj h
    show now < now + settings.receiveTimeout
    omega

/-! ## The turns that are left -/

/-- The turns that a transfer can still take before the clock moves.  What a turn costs that brings
the other tasks to life, or wakes them, is paid for in advance. -/
def Stage.work (now : Int) : Stage → Nat
  | starting => 14
  | awaitingRequest deadline => 12 + if deadline.any (· ≤ now) then 1 else 0
  | sendingData _ notified => 7 + notified.toNat
  | sendingEnd notified => 5 + notified.toNat
  | awaitingAcks _ notified => 4 + notified.toNat
  | joiningTimer => 2
  | joiningListener => 1
  | .over _ => 0

/-- The turns that a listener can still take before the clock moves, arrivals apart. -/
def Listener.work (now : Int) : Listener → Nat
  | starting => 1
  | reading deadline => if deadline.any (· ≤ now) then 1 else 0
  | ended => 0

lemma Listener.eq_ended {listener : Listener} (h : listener.hasEnded = true) :
    listener = .ended := by
  cases listener with
  | ended => rfl
  | starting | reading => cases h

/-- Being woken makes work for one turn. -/
lemma Stage.work_notify_le (now : Int) (stage : Stage) :
    stage.notify.work now ≤ stage.work now + 1 := by
  cases stage with
  | sendingData rest notified => cases notified <;> simp [notify, work]
  | sendingEnd notified => cases notified <;> simp [notify, work]
  | awaitingAcks deadline notified => cases notified <;> simp [notify, work]
  | _ => exact Nat.le_add_right _ 1

/-- Time makes work for one turn. -/
lemma Stage.work_le_add_one (now time : Int) (stage : Stage) :
    stage.work time ≤ stage.work now + 1 := by
  cases stage with
  | awaitingRequest deadline =>
      simp only [work]
      split_ifs <;> omega
  | _ => exact Nat.le_add_right _ 1

lemma Listener.work_le_add_one (now time : Int) (listener : Listener) :
    listener.work time ≤ listener.work now + 1 := by
  cases listener with
  | reading deadline =>
      simp only [work]
      split_ifs <;> omega
  | starting | ended => exact Nat.le_add_right _ 1

namespace Server

variable {o : ServerOptions} {host : Host} {s s' t : Server}

/-- The turns that are left to the timer and the listener. -/
def others (s : Server) : Nat :=
  s.timer.work s.host.now + s.listener.work s.host.now

/-- **The turns that are left** before the clock moves, arrivals apart. -/
def work (s : Server) : Nat :=
  s.stage.work s.host.now + s.others

lemma others_eq (hground : t.ground = s.ground) (htimer : t.timer = s.timer) :
    t.others = s.others := by
  simp only [ground, Prod.mk.injEq] at hground
  rw [others, others, htimer, hground.2.2.1, hground.2.2.2.1]

/-! ## Where a server stands -/

/-- What holds of a server from its start to the end of its run: it has a socket whose reads wait as
long as they should, the listener's read began in the past, and nothing was printed or filed. -/
structure Base (o : ServerOptions) (host : Host) (s : Server) : Prop where
  options_eq : s.options = o
  patient : (s.endpoint.descriptor.bind s.host.socket?).map Socket.receiveTimeout
    = some o.settings.patience
  printed_eq : s.host.printed = host.printed
  files_eq : s.host.files = host.files
  reading : ∀ deadline, s.listener = .reading deadline →
    ∃ begun ≤ s.host.now, deadline = o.settings.patience.map (begun + ·)

namespace Base

lemma of_ground (hb : Base o host s) (hground : s'.ground = s.ground) : Base o host s' := by
  simp only [ground, Prod.mk.injEq] at hground
  obtain ⟨hoptions, hdescriptor, hlistener, hnow, _, hfiles, hsockets, hprinted⟩ := hground
  have hsocket : s'.host.socket? = s.host.socket? := by
    funext descriptor
    rw [Host.socket?, hsockets]
    rfl
  refine ⟨hoptions.trans hb.options_eq, ?_, hprinted.trans hb.printed_eq,
    hfiles.trans hb.files_eq, ?_⟩
  · rw [hdescriptor, hsocket]
    exact hb.patient
  · rw [hlistener, hnow]
    exact hb.reading

lemma opened (hb : Base o host s) : s.endpoint.Open s.host := by
  rw [Endpoint.Open, ← Option.isSome_map, hb.patient]
  rfl

/-- How long a read waits that begins now. -/
lemma readDeadline_eq (hb : Base o host s) :
    s.readDeadline = o.settings.patience.map (s.host.now + ·) := by
  obtain ⟨socket, hsocket⟩ := Option.isSome_iff_exists.1 hb.opened
  have hpatient := hb.patient
  rw [hsocket] at hpatient
  rw [readDeadline, Host.readDeadline, hsocket]
  exact congrArg (Option.map (s.host.now + ·)) (Option.some.inj hpatient)

/-- A read that has begun just now has not come to its end. -/
lemma any_readDeadline (hb : Base o host s) (htimeout : 0 ≤ o.settings.receiveTimeout) :
    s.readDeadline.any (· ≤ s.host.now) = false := by
  rw [hb.readDeadline_eq]
  cases hdeadline : o.settings.patience.map (s.host.now + ·) with
  | none => rfl
  | some t =>
      exact decide_eq_false (Int.not_le.2 (Settings.lt_of_patience htimeout hdeadline))

end Base

/-- What a transfer under way waits for at its stage. -/
def Waits (s : Server) : Prop :=
  match s.stage with
  | .sendingData _ notified | .sendingEnd notified =>
      notified = false → s.sender.hasRoom s.options.settings = false
  | .awaitingAcks deadline _ =>
      deadline ≤ s.host.now + max 0 s.options.settings.completionTimeout
  | .joiningTimer => s.sender.running = false ∧ ∀ wake, s.timer ≠ .sleeping wake false
  | _ => False

/-- **Where a server stands** that began on `host`. -/
inductive Standing (o : ServerOptions) (host : Host) (s : Server) : Prop
  /-- It waits for a request. -/
  | asking (base : Base o host s) (timer_eq : s.timer = .ended) (listener_eq : s.listener = .ended)
      (stage_eq : s.stage = .starting ∨ ∃ deadline, s.stage = .awaitingRequest deadline)
  /-- It sends a file, or waits for the end of that. -/
  | serving (base : Base o host s) (listening : s.listening = true) (hears : s.listener ≠ .ended)
      (waits : s.Waits)
  /-- It waits for its listener to end. -/
  | leaving (base : Base o host s) (timer_eq : s.timer = .ended) (listening : s.listening = false)
      (stage_eq : s.stage = .joiningListener)
  /-- It has come to its end and left its report. -/
  | finished {ok : Bool} (options_eq : s.options = o) (timer_eq : s.timer = .ended)
      (listener_eq : s.listener = .ended) (stage_eq : s.stage = .over (.finished ok))
      (printed_eq : s.host.printed = host.printed ++ s.report.render)
      (files_eq : s.host.files = s.report.filed o.reportPath host.files)
  /-- It could not set up its sender. -/
  | broken {cause : SetupError} (options_eq : s.options = o) (timer_eq : s.timer = .ended)
      (listener_eq : s.listener = .ended) (stage_eq : s.stage = .over (.broken cause))
      (window_eq : o.settings.window = 0)

/-- **What a part of a turn comes to**: the server stands somewhere, no time has passed, nothing was
read, and there is only so much left to do. -/
structure Comes (o : ServerOptions) (host : Host) (s : Server) (bound : Nat) (s' : Server) :
    Prop where
  standing : Standing o host s'
  now_eq : s'.host.now = s.host.now
  arrivals_eq : s'.host.arrivals = s.host.arrivals
  work_le : s'.work ≤ bound

namespace Comes

variable {bound bound' : Nat}

lemma of_eq (hc : Comes o host t bound s') (hnow : t.host.now = s.host.now)
    (harrivals : t.host.arrivals = s.host.arrivals) (hle : bound ≤ bound') :
    Comes o host s bound' s' :=
  ⟨hc.standing, hc.now_eq.trans hnow, hc.arrivals_eq.trans harrivals, Nat.le_trans hc.work_le hle⟩

lemma of_ground (hc : Comes o host t bound s') (hground : t.ground = s.ground)
    (hle : bound ≤ bound') : Comes o host s bound' s' := by
  simp only [ground, Prod.mk.injEq] at hground
  exact hc.of_eq hground.2.2.2.1 hground.2.2.2.2.1 hle

end Comes

/-! ## The end of a run -/

section End

variable (hb : Base o host s)
include hb

lemma comes_finish (htimer : s.timer = .ended) (hlistener : s.listener = .ended) (ok : Bool) :
    Comes o host s 0 (s.finish ok) := by
  obtain ⟨endpoint, h, hfinish, hnow, harrivals, hprinted, hfiles⟩ := finish_frame s ok
  rw [hfinish]
  refine ⟨.finished hb.options_eq htimer hlistener rfl ?_ ?_, hnow, harrivals, ?_⟩
  · rw [← hb.printed_eq]
    exact hprinted
  · rw [← hb.files_eq, ← hb.options_eq]
    exact hfiles
  · rw [work, others, htimer, hlistener]
    exact Nat.le_refl 0

lemma comes_conclude (htimer : s.timer = .ended) (hlistener : s.listener = .ended) :
    Comes o host s 0 s.conclude := by
  have hb' : Base o host { s with report := { s.report with
      packetsSent := s.sender.packetsSent
      retransmissions := s.sender.retransmissions
      corrupted := s.endpoint.corrupted } } := hb.of_ground rfl
  have hcomes := comes_finish hb' htimer hlistener s.readFailure.isNone
  exact ⟨hcomes.standing, hcomes.now_eq, hcomes.arrivals_eq, hcomes.work_le⟩

lemma comes_stopListening (htimer : s.timer = .ended) :
    Comes o host s (s.others + 1) s.stopListening := by
  have hb' : Base o host { s with listening := false } := hb.of_ground rfl
  rw [stopListening]
  split_ifs with hended
  · exact (comes_conclude hb' htimer (Listener.eq_ended hended)).of_ground rfl (Nat.zero_le _)
  · refine ⟨.leaving (hb'.of_ground rfl) htimer rfl rfl, rfl, rfl, ?_⟩
    show 1 + s.others ≤ s.others + 1
    omega

end End

/-- A transfer with a listener that is to go on. -/
structure Attended (o : ServerOptions) (host : Host) (s : Server) : Prop
    extends Base o host s where
  listening_eq : s.listening = true
  hears : s.listener ≠ .ended

lemma Attended.of_ground (ha : Attended o host s) (hground : t.ground = s.ground)
    (hlistening : t.listening = s.listening) : Attended o host t := by
  refine ⟨ha.toBase.of_ground hground, hlistening.trans ha.listening_eq, ?_⟩
  simp only [ground, Prod.mk.injEq] at hground
  rw [hground.2.2.1]
  exact ha.hears

section Attended

variable (ha : Attended o host s)
include ha

lemma comes_endTransfer (completed : Bool) :
    Comes o host s (s.others + 3) (s.endTransfer completed) := by
  have hb : Base o host { s with
      report := { s.report with completed, endTime := reportTime s.host.now }
      sender := s.sender.stop
      timer := s.timer.notify } := ha.toBase.of_ground rfl
  have hnotify : s.timer.notify.work s.host.now + s.listener.work s.host.now ≤ s.others + 1 := by
    have hle := s.timer.work_notify_le s.host.now
    rw [others]
    omega
  rw [endTransfer]
  split_ifs with hended
  · have htimer : s.timer.notify = .ended := Timer.eq_ended hended
    refine (comes_stopListening hb htimer).of_ground rfl ?_
    show s.timer.notify.work s.host.now + s.listener.work s.host.now + 1 ≤ _
    omega
  · refine ⟨.serving (hb.of_ground rfl) ha.listening_eq ha.hears ⟨rfl, ?_⟩, rfl, rfl, ?_⟩
    · intro wake
      show s.timer.notify ≠ _
      cases s.timer <;> simp [Timer.notify]
    · show 2 + (s.timer.notify.work s.host.now + s.listener.work s.host.now) ≤ _
      omega

lemma comes_tryComplete {deadline : Int} (waited : Bool)
    (hdeadline : deadline ≤ s.host.now + max 0 s.options.settings.completionTimeout) :
    Comes o host s (s.others + if waited && deadline ≤ s.host.now then 3 else 4)
      (s.tryComplete deadline waited) := by
  have ha' : ∀ n, Attended o host (s.note n) := fun n => ha.of_ground rfl rfl
  rw [tryComplete]
  by_cases hacked : s.sender.allAcked = true
  · rw [if_pos hacked]
    refine (comes_endTransfer (ha' _) true).of_ground rfl ?_
    show s.others + 3 ≤ _
    split_ifs <;> omega
  · rw [if_neg hacked]
    split_ifs with hover
    · exact (comes_endTransfer (ha' _) false).of_ground rfl (Nat.le_refl _)
    · refine ⟨.serving (ha.toBase.of_ground rfl) ha.listening_eq ha.hears hdeadline, rfl, rfl, ?_⟩
      show 4 + s.others ≤ _
      omega

/-! ## Sending -/

lemma comes_sendEnd : Comes o host s (s.others + 5) s.sendEnd := by
  rw [sendEnd]
  split_ifs with hroom
  · obtain ⟨h, more, hsend, hposted⟩ := sendNow_frame s [] Flags.fin
    have completes : ∀ t : Server, t.ground = s.ground → t.listening = s.listening →
        t.timer = s.timer → Comes o host s (s.others + 5)
          (t.tryComplete (t.host.now + t.options.settings.completionTimeout) false) := by
      intro t hground hlistening htimer
      refine (comes_tryComplete (ha.of_ground hground hlistening) false ?_).of_ground hground ?_
      · omega
      · rw [others_eq hground htimer, Bool.false_and, if_neg Bool.false_ne_true]
        omega
    rw [hsend]
    exact completes (note _ _) (ground_of_posted hposted _ s.report) rfl rfl
  · refine ⟨.serving (ha.toBase.of_ground rfl) ha.listening_eq ha.hears
      fun _ => Bool.eq_false_iff.2 hroom, rfl, rfl, ?_⟩
    show 5 + s.others ≤ _
    omega

lemma comes_sendData (feed : Feed) : Comes o host s (s.others + 7) (s.sendData feed) := by
  obtain ⟨h, sender, more, hsend, hposted, hroom⟩ :=
    sendPieces_frame (feed.take (s.sender.room s.options.settings)) s
  have hground := fun report => ground_of_posted hposted sender report
  have ends : ∀ t : Server, t.ground = s.ground → t.listening = s.listening →
      t.timer = s.timer → Comes o host s (s.others + 7) t.sendEnd := by
    intro t hsame hlistening htimer
    refine (comes_sendEnd (ha.of_ground hsame hlistening)).of_ground hsame ?_
    rw [others_eq hsame htimer]
    omega
  rw [sendData, hsend]
  dsimp only [readPieces]
  split_ifs with hempty
  · split
    · exact ends (note _ _) (hground _) rfl rfl
    · exact ends _ (hground _) rfl rfl
  · -- as many pieces were taken as there was room for
    have hlength : (feed.take (s.sender.room s.options.settings)).length
        = s.sender.room s.options.settings := by
      refine Nat.le_antisymm (feed.length_take_le _) (Nat.not_lt.1 fun hlt => hempty ?_)
      exact Feed.isEmpty_drop_of_length_lt hlt
    have hzero := hroom (Nat.le_of_eq hlength)
    refine ⟨.serving ((ha.toBase.of_ground (hground s.report)).of_ground rfl) ha.listening_eq ha.hears
      fun _ => Bool.eq_false_iff.2 fun hr => ?_, hposted.now_eq, hposted.arrivals_eq, ?_⟩
    · have hpos := (Sender.hasRoom_iff_room_pos s.options.settings sender).1 hr
      omega
    · have hothers := others_eq (t := { s with host := h, sender }) (hground s.report) rfl
      show 7 + others _ ≤ _
      rw [← hothers]
      exact Nat.le_of_eq (Nat.add_comm 7 _)

end Attended

/-! ## The request -/

section Request

variable (hb : Base o host s)
include hb

/-- Another listener whose read, if it reads, began in the past. -/
lemma Base.withListener (listener : Listener) (hlistener : ∀ deadline,
    listener = .reading deadline →
      ∃ begun ≤ s.host.now, deadline = o.settings.patience.map (begun + ·)) :
    Base o host { s with listener } :=
  ⟨hb.options_eq, hb.patient, hb.printed_eq, hb.files_eq, hlistener⟩

lemma comes_beginTransfer (path : Bytes) (source : Source) (sender : Sender) :
    Comes o host s 9 (s.beginTransfer path source sender) := by
  have ha : Attended o host (s.prepare path source sender) :=
    ⟨(hb.withListener .starting nofun).of_ground rfl, rfl, nofun⟩
  exact (comes_sendData ha (source.feed s.options.settings.maxPayload)).of_eq rfl rfl
    (Nat.le_refl 9)

variable (htimer : s.timer = .ended) (hlistener : s.listener = .ended)
include htimer hlistener

lemma comes_acceptRequest (r : Received) : Comes o host s 9 (s.acceptRequest r) := by
  have hb' : Base o host (s.asked r) := hb.of_ground rfl
  have refused : ∀ n, Comes o host s 9 (((s.asked r).note n).finish false) := fun n =>
    (comes_finish (s := (s.asked r).note n) (hb'.of_ground rfl) htimer hlistener false).of_ground
      rfl (Nat.zero_le 9)
  rw [acceptRequest_eq]
  split
  · exact refused _
  · split
    · exact refused _
    · split
      · rename_i cause hcreate
        have hwindow : s.options.settings.window = 0 := by
          by_contra hpos
          rw [Sender.create, if_neg hpos] at hcreate
          cases hcreate
        refine ⟨.broken hb.options_eq htimer hlistener rfl (hb.options_eq ▸ hwindow), rfl, rfl, ?_⟩
        show 0 + (s.timer.work s.host.now + s.listener.work s.host.now) ≤ 9
        rw [htimer, hlistener]
        exact Nat.zero_le 9
      · exact (comes_beginTransfer hb' _ _ _).of_ground rfl (Nat.le_refl 9)

variable (htimeout : 0 ≤ o.settings.receiveTimeout)
include htimeout

lemma comes_awaitRequest : Comes o host s 12 s.awaitRequest := by
  refine ⟨.asking (hb.of_ground rfl) htimer hlistener (.inr ⟨_, rfl⟩), rfl, rfl, ?_⟩
  show 12 + (if s.readDeadline.any (· ≤ s.host.now) then 1 else 0)
    + (s.timer.work s.host.now + s.listener.work s.host.now) ≤ 12
  rw [hb.any_readDeadline htimeout, htimer, hlistener]
  exact Nat.le_refl 12

lemma comes_considerRequest (received : Option Received) :
    Comes o host s 12 (s.considerRequest received) := by
  cases received with
  | none => exact comes_awaitRequest hb htimer hlistener htimeout
  | some r =>
      rw [considerRequest]
      split_ifs
      · exact (comes_acceptRequest hb htimer hlistener r).of_ground rfl (by decide)
      · obtain ⟨notices, hnotices⟩ :=
          s.host.noteIf_eq s.options.verbose (.ignoredBeforeRequest r.packet)
        rw [noteVerbose, hnotices]
        exact (comes_awaitRequest (s := { s with host := { s.host with notices } })
          (hb.of_ground rfl) htimer hlistener htimeout).of_ground rfl (Nat.le_refl 12)

end Request

end Server

end ReliableTransfer
