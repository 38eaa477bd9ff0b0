import ReliableTransfer.Proofs.Server.Standing

/-!
# The turns of a server

Whatever the network does, every turn takes a server further: there is less left to do before the
clock has to move.

* `Server.Turned` — what a turn comes to.
* `Server.Standing.resumeTransfer`, `Server.Standing.resumeTimer`, `Server.Standing.resumeListener`
  — one lemma for each task.
* **`Server.Standing.resume`**, **`Server.Standing.advanceTo`** — every turn leaves less to do, and
  a jump of the clock makes little work.
-/

namespace ReliableTransfer

/-- A stopped sender ends its timer. -/
lemma Timer.resume_of_stopped {w : Sender} (h : w.running = false) (settings : Settings)
    (now : Int) (t : Timer) : t.resume settings now w = (ended, w, []) := by
  cases t with
  | starting => simp only [resume, next, h, Bool.false_eq_true, if_false]
  | sleeping wake notified => simp only [resume, h, Bool.not_false, if_true]
  | ended => rfl

namespace Server

variable {o : ServerOptions} {host : Host} {s s' t : Server}

/-! ## Turns -/

/-- **What a turn comes to**: the server stands somewhere, no time has passed, some arrivals may
have been read, and less is left to do; each arrival still to be read is worth two turns. -/
structure Turned (o : ServerOptions) (host : Host) (s s' : Server) : Prop where
  standing : Standing o host s'
  now_eq : s'.host.now = s.host.now
  suffix : s'.host.arrivals <:+ s.host.arrivals
  lt : 2 * s'.host.arrivals.length + s'.work < 2 * s.host.arrivals.length + s.work

lemma Comes.turned {bound : Nat} (hc : Comes o host s bound s') (hlt : bound < s.work) :
    Turned o host s s' := by
  have hle := hc.work_le
  refine ⟨hc.standing, hc.now_eq, hc.arrivals_eq ▸ List.suffix_rfl, ?_⟩
  rw [hc.arrivals_eq]
  omega

/-- The same when an arrival was read first. -/
lemma Comes.turned_of_read {bound : Nat} (hc : Comes o host t bound s')
    (hnow : t.host.now = s.host.now) {a : Arrival}
    (harrivals : s.host.arrivals = a :: t.host.arrivals) (hlt : bound < s.work + 2) :
    Turned o host s s' := by
  have hle := hc.work_le
  refine ⟨hc.standing, hc.now_eq.trans hnow, ?_, ?_⟩
  · rw [hc.arrivals_eq, harrivals]
    exact List.suffix_cons a _
  rw [hc.arrivals_eq, harrivals, List.length_cons]
  omega

/-- A read is over when its time has passed, whatever the network brings. -/
lemma due_of_deadline (h : Host) (t : Int) :
    ∃ due ≤ t, readReadiness h (some t) = .dueAt due := by
  rw [readReadiness]
  cases harrivals : h.arrivals.head? with
  | none =>
      simp only [Host.readDue?, harrivals]
      exact ⟨_, Int.le_refl _, rfl⟩
  | some a =>
      simp only [Host.readDue?, harrivals]
      exact ⟨_, Int.min_le_right _ _, rfl⟩

/-- A read is over when the next arrival has come, however long it may wait. -/
lemma due_of_arrival (h : Host) (deadline : Option Int) {a : Arrival} {rest : List Arrival}
    (harrivals : h.arrivals = a :: rest) :
    ∃ due ≤ a.time, readReadiness h deadline = .dueAt due := by
  rw [readReadiness]
  cases deadline with
  | none =>
      simp only [Host.readDue?, harrivals, List.head?_cons]
      exact ⟨_, Int.le_refl _, rfl⟩
  | some t =>
      simp only [Host.readDue?, harrivals, List.head?_cons]
      exact ⟨_, Int.min_le_left _ _, rfl⟩

/-- A read that can go on although no arrival is due has waited long enough. -/
lemma any_of_readReadiness {h : Host} {deadline : Option Int} {now : Int}
    (hready : (readReadiness h deadline).isReadyAt now = true)
    (hlater : ∀ a ∈ h.arrivals.head?, now < a.time) : deadline.any (· ≤ now) = true := by
  rw [readReadiness] at hready
  cases harrivals : h.arrivals.head? with
  | none =>
      cases deadline with
      | none =>
          simp only [Host.readDue?, harrivals, Readiness.isReadyAt, Bool.false_eq_true] at hready
      | some t =>
          simp only [Host.readDue?, harrivals] at hready
          exact hready
  | some a =>
      have hlt := hlater a harrivals
      cases deadline with
      | none =>
          simp only [Host.readDue?, harrivals] at hready
          exact absurd (of_decide_eq_true hready) (Int.not_le.2 hlt)
      | some t =>
          simp only [Host.readDue?, harrivals] at hready
          have hle : min a.time t ≤ now := of_decide_eq_true hready
          exact decide_eq_true (by omega)

namespace Standing

lemma resumeTransfer (hs : Standing o host s) (htimeout : 0 ≤ o.settings.receiveTimeout)
    (hready : s.transferReadiness.isReadyAt s.host.now = true) :
    Turned o host s s.resumeTransfer := by
  rw [Server.resumeTransfer]
  rw [transferReadiness] at hready
  cases hs with
  | asking hb htimer hlistener hstage =>
      rcases hstage with hstage | ⟨deadline, hstage⟩ <;> rw [hstage] at hready ⊢
      · have hcomes : Comes o host s 12 (s.note .awaitingRequest).awaitRequest :=
          (comes_awaitRequest (s := s.note .awaitingRequest) (hb.of_ground rfl) htimer hlistener
            htimeout).of_ground rfl (Nat.le_refl 12)
        refine hcomes.turned ?_
        rw [work, hstage, Stage.work]
        omega
      · have hwork : 12 ≤ s.work := by
          rw [work, hstage, Stage.work]
          omega
        rcases Endpoint.receive_cases hb.opened with
          ⟨a, rest, corrupted, notices, harrivals, _, hreceive⟩ | ⟨hlater, hreceive⟩
        · have hcomes := comes_considerRequest (s := { s with
              endpoint := { s.endpoint with corrupted }
              host := { s.host with arrivals := rest, notices } })
            ⟨hb.options_eq, hb.patient, hb.printed_eq, hb.files_eq, hb.reading⟩ htimer hlistener
            htimeout (a.reading s.endpoint.port)
          simp only [receive, hreceive]
          exact hcomes.turned_of_read rfl harrivals (by omega)
        · simp only [receive, hreceive]
          refine (comes_considerRequest hb htimer hlistener htimeout none).turned ?_
          rw [work, hstage, Stage.work, any_of_readReadiness hready hlater, if_pos rfl]
          omega
  | serving hb hlistening hears hwaits =>
      have ha : Attended o host s := ⟨hb, hlistening, hears⟩
      rw [Waits] at hwaits
      cases hstage : s.stage with
      | sendingData rest notified =>
          rw [hstage] at hready
          cases notified with
          | false => cases hready
          | true =>
              refine (comes_sendData ha rest).turned ?_
              rw [work, hstage, Stage.work, Bool.toNat_true]
              omega
      | sendingEnd notified =>
          rw [hstage] at hready
          cases notified with
          | false => cases hready
          | true =>
              refine (comes_sendEnd ha).turned ?_
              rw [work, hstage, Stage.work, Bool.toNat_true]
              omega
      | awaitingAcks deadline notified =>
          rw [hstage] at hready hwaits
          refine (comes_tryComplete ha true hwaits).turned ?_
          rw [work, hstage, Stage.work, Bool.true_and]
          cases notified with
          | false =>
              have hover : deadline ≤ s.host.now := of_decide_eq_true hready
              rw [if_pos (decide_eq_true hover)]
              omega
          | true =>
              rw [Bool.toNat_true]
              split_ifs <;> omega
      | joiningTimer =>
          rw [hstage] at hready
          have htimer : s.timer = .ended := by
            cases hended : s.timer.hasEnded with
            | true => exact Timer.eq_ended hended
            | false => rw [hended] at hready; cases hready
          refine (comes_stopListening hb htimer).turned ?_
          rw [work, hstage, Stage.work]
          omega
      | starting | awaitingRequest | joiningListener | «over» =>
          rw [hstage] at hwaits
          exact hwaits.elim
  | leaving hb htimer hlistening hstage =>
      rw [hstage] at hready ⊢
      have hlistener : s.listener = .ended := by
        cases hended : s.listener.hasEnded with
        | true => exact Listener.eq_ended hended
        | false => rw [hended] at hready; cases hready
      refine (comes_conclude hb htimer hlistener).turned ?_
      rw [work, hstage, Stage.work]
      omega
  | finished _ _ _ hstage | broken _ _ _ hstage =>
      rw [hstage] at hready
      cases hready

/-! ### The timer -/

lemma resumeTimer (hs : Standing o host s) (hpoll : 1 ≤ o.settings.poll)
    (hready : s.timer.readiness.isReadyAt s.host.now = true) :
    Turned o host s s.resumeTimer := by
  have absent : s.timer ≠ .ended := by
    intro hended
    rw [hended] at hready
    cases hready
  cases hs with
  | serving hb hlistening hears hwaits =>
      have hlt := Timer.work_resume_lt (hb.options_eq ▸ hpoll) hready s.sender
      obtain ⟨h, more, sender, hresume, hposted, hrunning, hroom⟩ := resumeTimer_frame s
      have hstopped := fun h : s.sender.running = false =>
        congrArg Prod.fst (Timer.resume_of_stopped h s.options.settings s.host.now s.timer)
      rw [hresume]
      generalize (s.timer.resume s.options.settings s.host.now s.sender).1 = timer at hlt hstopped
      have hnow := hposted.now_eq
      have hground := ground_of_posted hposted sender s.report
      refine ⟨.serving ((hb.of_ground hground).of_ground rfl) hlistening hears ?_, hnow,
        hposted.arrivals_eq ▸ List.suffix_rfl, ?_⟩
      · rw [Waits] at hwaits ⊢
        cases hstage : s.stage with
        | sendingData rest notified => rw [hstage] at hwaits; exact hroom ▸ hwaits
        | sendingEnd notified => rw [hstage] at hwaits; exact hroom ▸ hwaits
        | awaitingAcks deadline notified => rw [hstage] at hwaits; exact hnow ▸ hwaits
        | joiningTimer =>
            rw [hstage] at hwaits
            refine ⟨hrunning.trans hwaits.1, ?_⟩
            show ∀ wake, timer ≠ .sleeping wake false
            rw [hstopped hwaits.1]
            nofun
        | starting | awaitingRequest | joiningListener | «over» =>
            rw [hstage] at hwaits
            exact hwaits
      · rw [work, work, others, others]
        show 2 * h.arrivals.length
          + (s.stage.work h.now + (timer.work h.now + s.listener.work h.now)) < _
        rw [hnow, hposted.arrivals_eq]
        omega
  | asking _ htimer | leaving _ htimer | finished _ htimer | broken _ htimer =>
      exact absurd htimer absent

/-! ### The listener -/

/-- A transfer that is woken waits for nothing it did not wait for before. -/
lemma Waits.notify (hw : s.Waits) (number : UInt32) (notices : List Notice) (report : Report) :
    ({ s with
      host := { s.host with notices }
      sender := s.sender.acknowledge number
      stage := s.stage.notify
      report } : Server).Waits := by
  rw [Waits] at hw ⊢
  cases hstage : s.stage with
  | sendingData | sendingEnd => exact fun h => absurd h.symm Bool.false_ne_true
  | awaitingAcks | joiningTimer => rw [hstage] at hw; exact hw
  | starting | awaitingRequest | joiningListener | «over» => rw [hstage] at hw; exact hw

/-- The listener is only there before the end of a run. -/
lemma base_of_listener (hs : Standing o host s) (hlistener : s.listener ≠ .ended) :
    Base o host s := by
  cases hs with
  | serving hb | leaving hb => exact hb
  | asking _ _ hended | finished _ _ hended | broken _ _ hended => exact absurd hended hlistener

/-- What the listener reads changes neither what the server stands for nor what it waits for. -/
lemma of_read (hs : Standing o host s) (hlistener : s.listener ≠ .ended) (corrupted : Nat)
    (arrivals : List Arrival) (notices : List Notice) :
    Standing o host { s with
      endpoint := { s.endpoint with corrupted }
      host := { s.host with arrivals, notices } } := by
  have hb := hs.base_of_listener hlistener
  have hb' : Base o host { s with
      endpoint := { s.endpoint with corrupted }
      host := { s.host with arrivals, notices } } :=
    ⟨hb.options_eq, hb.patient, hb.printed_eq, hb.files_eq, hb.reading⟩
  cases hs with
  | serving _ hlistening hears hwaits => exact .serving hb' hlistening hears hwaits
  | leaving _ htimer hlistening hstage => exact .leaving hb' htimer hlistening hstage
  | asking _ _ hended | finished _ _ hended | broken _ _ hended => exact absurd hended hlistener

/-- Nor does what it heeds, apart from waking the transfer. -/
lemma heed (hs : Standing o host s) (hlistener : s.listener ≠ .ended)
    (received : Option Received) :
    Standing o host (s.heed received) ∧ (s.heed received).ground = s.ground ∧
      (s.heed received).timer = s.timer ∧
      (s.heed received).stage.work s.host.now ≤ s.stage.work s.host.now + 1 := by
  have hb := hs.base_of_listener hlistener
  rcases heed_cases received s with hsame | ⟨number, notices, report, hheed⟩
  · rw [hsame]
    exact ⟨hs, rfl, rfl, Nat.le_add_right _ 1⟩
  · rw [hheed]
    refine ⟨?_, rfl, rfl, s.stage.work_notify_le s.host.now⟩
    cases hs with
    | serving _ hlistening hears hwaits =>
        exact .serving (hb.of_ground rfl) hlistening hears
          (Waits.notify hwaits number notices report)
    | leaving _ htimer hlistening hstage =>
        exact .leaving (hb.of_ground rfl) htimer hlistening (by rw [hstage]; rfl)
    | asking _ _ hended | finished _ _ hended | broken _ _ hended =>
        exact absurd hended hlistener

lemma standing_listen (hs : Standing o host t) (hlistener : t.listener ≠ .ended)
    (htimeout : 0 ≤ o.settings.receiveTimeout) :
    Standing o host t.listen ∧ t.listen.listener.work t.host.now = 0 := by
  cases hs with
  | serving hb hlistening hears hwaits =>
      rw [listen, if_pos hlistening]
      refine ⟨.serving (hb.withListener _ fun deadline hd => ?_) hlistening nofun hwaits, ?_⟩
      · obtain rfl := Listener.reading.inj hd
        exact ⟨t.host.now, Int.le_refl _, hb.readDeadline_eq⟩
      · show (if t.readDeadline.any (· ≤ t.host.now) then 1 else 0) = 0
        rw [hb.any_readDeadline htimeout]
        rfl
  | leaving hb htimer hlistening hstage =>
      rw [listen, if_neg (by rw [hlistening]; exact Bool.false_ne_true)]
      exact ⟨.leaving (hb.withListener .ended nofun) htimer hlistening hstage, rfl⟩
  | asking _ _ hended | finished _ _ hended | broken _ _ hended => exact absurd hended hlistener

lemma resumeListener (hs : Standing o host s) (htimeout : 0 ≤ o.settings.receiveTimeout)
    (hready : s.listenerReadiness.isReadyAt s.host.now = true) :
    Turned o host s s.resumeListener := by
  rw [listenerReadiness] at hready
  rw [Server.resumeListener]
  cases hlistener : s.listener with
  | ended =>
      rw [hlistener] at hready
      cases hready
  | starting =>
      obtain ⟨hstanding, hwork⟩ :=
        standing_listen hs (by simp [hlistener]) htimeout
      refine ⟨hstanding, rfl, List.suffix_rfl, ?_⟩
      rw [work, work, others, others, hlistener]
      show 2 * s.host.arrivals.length
        + (s.stage.work s.host.now
          + (s.timer.work s.host.now + s.listen.listener.work s.host.now)) < _
      rw [hwork, Listener.work]
      omega
  | reading deadline =>
      have hears : s.listener ≠ .ended := by simp [hlistener]
      rw [hlistener] at hready
      rcases Endpoint.receive_cases (hs.base_of_listener hears).opened with
        ⟨a, rest, corrupted, notices, harrivals, _, hreceive⟩ | ⟨hlater, hreceive⟩
      · simp only [receive, hreceive]
        have ht := hs.of_read hears corrupted rest notices
        obtain ⟨hheed, hground, htimer, hstage⟩ := ht.heed hears (a.reading s.endpoint.port)
        generalize Server.heed _ _ = u at hheed hground htimer hstage ⊢
        simp only [ground, Prod.mk.injEq] at hground
        obtain ⟨_, _, hsame, hnow, hrest, _⟩ := hground
        obtain ⟨hstanding, hwork⟩ := standing_listen hheed (by rw [hsame]; exact hears) htimeout
        refine ⟨hstanding, hnow, ?_, ?_⟩
        · rw [harrivals]
          exact hrest ▸ List.suffix_cons a rest
        rw [work, work, others, others, harrivals, List.length_cons]
        show 2 * u.host.arrivals.length + (u.stage.work u.host.now
          + (u.timer.work u.host.now + u.listen.listener.work u.host.now)) < _
        rw [hwork, hnow, hrest, htimer]
        show 2 * rest.length + (u.stage.work s.host.now + (s.timer.work s.host.now + 0)) < _
        have hle : u.stage.work s.host.now ≤ s.stage.work s.host.now + 1 := hstage
        omega
      · simp only [receive, hreceive]
        obtain ⟨hstanding, hwork⟩ := standing_listen hs hears htimeout
        refine ⟨hstanding, rfl, List.suffix_rfl, ?_⟩
        rw [work, work, others, others, hlistener]
        show 2 * s.host.arrivals.length
          + (s.stage.work s.host.now
            + (s.timer.work s.host.now + s.listen.listener.work s.host.now)) < _
        rw [hwork, Listener.work, any_of_readReadiness hready hlater, if_pos rfl]
        omega

/-! ### All of them -/

/-- **Every turn** leaves less to do. -/
lemma resume (hs : Standing o host s) (hpoll : 1 ≤ o.settings.poll)
    (htimeout : 0 ≤ o.settings.receiveTimeout) {i : Nat}
    (hready : system.firstReady? s = some i) : Turned o host s (system.resume i s) := by
  obtain ⟨r, hr, hnow⟩ := system.ready_of_firstReady? hready
  match i with
  | 0 =>
      obtain rfl : s.transferReadiness = r := Option.some.inj hr
      exact hs.resumeTransfer htimeout hnow
  | 1 =>
      obtain rfl : s.timer.readiness = r := Option.some.inj hr
      exact hs.resumeTimer hpoll hnow
  | 2 =>
      obtain rfl : s.listenerReadiness = r := Option.some.inj hr
      exact hs.resumeListener htimeout hnow
  | _ + 3 => cases hr

/-- **A jump of the clock** makes at most one turn of work for each task. -/
lemma advanceTo (hs : Standing o host s) (time : Int) :
    Standing o host (system.advanceTo time s) ∧ (system.advanceTo time s).work ≤ s.work + 3 := by
  have hle : s.host.now ≤ max s.host.now time := Int.le_max_left ..
  have later : Base o host s → Base o host (system.advanceTo time s) := by
    intro hb
    refine ⟨hb.options_eq, hb.patient, hb.printed_eq, hb.files_eq, fun deadline hd => ?_⟩
    obtain ⟨begun, hbegun, heq⟩ := hb.reading deadline hd
    exact ⟨begun, Int.le_trans hbegun hle, heq⟩
  constructor
  · cases hs with
    | asking hb htimer hlistener hstage => exact .asking (later hb) htimer hlistener hstage
    | serving hb hlistening hears hwaits =>
        refine .serving (later hb) hlistening hears ?_
        rw [Waits] at hwaits ⊢
        rw [show (system.advanceTo time s).stage = s.stage from rfl]
        cases hstage : s.stage with
        | awaitingAcks deadline notified =>
            rw [hstage] at hwaits
            show deadline ≤ max s.host.now time + max 0 s.options.settings.completionTimeout
            dsimp only at hwaits
            omega
        | _ => rw [hstage] at hwaits; exact hwaits
    | leaving hb htimer hlistening hstage => exact .leaving (later hb) htimer hlistening hstage
    | finished hoptions htimer hlistener hstage hprinted hfiles =>
        exact .finished hoptions htimer hlistener hstage hprinted hfiles
    | broken hoptions htimer hlistener hstage hwindow =>
        exact .broken hoptions htimer hlistener hstage hwindow
  · have hstage := s.stage.work_le_add_one s.host.now (max s.host.now time)
    have htimer := s.timer.work_le_add_one s.host.now (max s.host.now time)
    have hlistener := s.listener.work_le_add_one s.host.now (max s.host.now time)
    show s.stage.work (max s.host.now time)
      + (s.timer.work (max s.host.now time) + s.listener.work (max s.host.now time)) ≤ _
    rw [work, others]
    omega

end Standing

end Server

end ReliableTransfer
