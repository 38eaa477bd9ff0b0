import ReliableTransfer.Proofs.Server.Settling

/-!
# How the run of a server ends

A server that has sent the end of its file gives up waiting after a while, and then only its own
read keeps it.  Before that it waits for room in the window without a limit.  If the client stops
acknowledging then, and the network has nothing else to bring, the server waits for good.

* `Outcome.Reported` — a run that has come to its end and left its report.
* `Server.Stalled` — a server that waits for good; `Server.Stalled.passes` says so.
* `Server.Ending` — a server that will not wait beyond a time.
* **`Server.accepted_transfer_ends`** — once a request was accepted, the run comes to its end or the
  server stalls, and it does not stall once the end of the file was sent.
* **`Server.stalls_unacknowledged`** — a server that does stall.
-/

namespace ReliableTransfer

/-- **The run has come to its end** and left its report, on the output and in its file. -/
def Outcome.Reported (o : ServerOptions) (host : Host) (out : Outcome) : Prop :=
  (∃ ok, out.conclusion = .finished ok) ∧ out.host.printed = host.printed ++ out.report.render ∧
    out.host.files = out.report.filed o.reportPath host.files

/-- Whether the end of the file has been sent. -/
def Stage.hasSentEnd : Stage → Bool
  | awaitingAcks _ _ | joiningTimer | joiningListener | .over _ => true
  | _ => false

namespace Server

variable {o : ServerOptions} {host : Host} {s s' : Server} {limit bound : Int}

/-! ## Waiting for good -/

/-- **The server waits for good**: it waits for room in the window, and the network has nothing more
to bring. -/
structure Stalled (s : Server) : Prop where
  arrivals_eq : s.host.arrivals = []
  full : s.sender.hasRoom s.options.settings = false
  stage_eq : s.stage = .sendingEnd false ∨ ∃ feed, s.stage = .sendingData feed false

namespace Stalled

lemma conclusion_eq (hs : s.Stalled) : s.outcome.conclusion = .unfinished := by
  rw [outcome]
  rcases hs.stage_eq with h | ⟨feed, h⟩ <;> rw [h]

/-- No turn changes that. -/
lemma resume (hs : s.Stalled) {i : Nat} (hready : system.firstReady? s = some i) :
    (system.resume i s).Stalled := by
  obtain ⟨r, hr, hnow⟩ := system.ready_of_firstReady? hready
  match i with
  | 0 =>
      obtain rfl : s.transferReadiness = r := Option.some.inj hr
      rw [transferReadiness] at hnow
      rcases hs.stage_eq with h | ⟨feed, h⟩ <;> rw [h] at hnow <;> cases hnow
  | 1 =>
      obtain ⟨h, more, sender, hresume, hposted, _, hroom⟩ := resumeTimer_frame s
      show s.resumeTimer.Stalled
      rw [hresume]
      exact ⟨hposted.arrivals_eq.trans hs.arrivals_eq, hroom.trans hs.full, hs.stage_eq⟩
  | 2 =>
      show s.resumeListener.Stalled
      rw [resumeListener]
      cases s.listener with
      | starting => exact ⟨hs.arrivals_eq, hs.full, hs.stage_eq⟩
      | ended => exact hs
      | reading deadline =>
          obtain ⟨received, corrupted, arrivals, notices, hreceive, hcases⟩ :=
            s.endpoint.receive_eq s.host
          rw [hs.arrivals_eq] at hcases
          rcases hcases with ⟨rfl, rfl⟩ | ⟨a, hcons, _⟩
          · simp only [receive, hreceive]
            exact ⟨rfl, hs.full, hs.stage_eq⟩
          · cases hcons
  | _ + 3 => cases hr

/-- **Once it waits so, it does not come any further.** -/
lemma passes (hs : s.Stalled) (hpasses : system.Passes (some limit) s s') : s'.Stalled := by
  induction hpasses with
  | refl => exact hs
  | tail _ hstep ih =>
      rcases system.step?_eq_some hstep with ⟨i, hi, rfl⟩ | ⟨time, _, _, _, rfl⟩
      · exact ih.resume hi
      · exact ⟨ih.arrivals_eq, ih.full, ih.stage_eq⟩

end Stalled

/-! ## Waiting no longer than to a time -/

/-- **The server will not wait beyond a time**, apart from a read it has begun by then. -/
def Ending (bound : Int) (s : Server) : Prop :=
  match s.stage with
  | .awaitingAcks deadline _ => deadline ≤ bound ∧ s.host.now ≤ bound
  | .joiningTimer => s.host.now ≤ bound
  | .joiningListener => ∀ t, s.listener = .reading (some t) →
      t ≤ bound + s.options.settings.receiveTimeout
  | .over _ => True
  | _ => False

/-- A read that has begun ends when its time has passed. -/
lemma Base.le_of_reading (hb : Base o host s) {t : Int}
    (hreading : s.listener = .reading (some t)) :
    t ≤ s.host.now + o.settings.receiveTimeout := by
  obtain ⟨begun, hbegun, heq⟩ := hb.reading _ hreading
  rw [Settings.patience] at heq
  split_ifs at heq
  · cases heq
  · have ht : t = begun + o.settings.receiveTimeout := Option.some.inj heq
    omega

/-- Once the end of the file was sent, the server waits only for so long. -/
lemma ending_of_hasSentEnd (hs : Standing o host s) (hsent : s.stage.hasSentEnd = true) :
    Ending (s.host.now + max 0 o.settings.completionTimeout) s := by
  rw [Ending]
  cases hs with
  | asking hb htimer hlistener hstage =>
      rcases hstage with h | ⟨deadline, h⟩ <;> rw [h] at hsent <;> cases hsent
  | serving hb hlistening hears hwaits =>
      rw [Waits, hb.options_eq] at hwaits
      cases hstage : s.stage with
      | awaitingAcks deadline notified =>
          rw [hstage] at hwaits
          exact ⟨hwaits, by omega⟩
      | joiningTimer => exact show s.host.now ≤ _ by omega
      | sendingData | sendingEnd => rw [hstage] at hsent; cases hsent
      | starting | awaitingRequest | joiningListener | «over» =>
          rw [hstage] at hwaits
          exact hwaits.elim
  | leaving hb htimer hlistening hstage =>
      rw [hstage, hb.options_eq]
      intro t ht
      have hle := hb.le_of_reading ht
      omega
  | finished _ _ _ hstage | broken _ _ _ hstage =>
      rw [hstage]
      trivial

namespace Ending

lemma stopListening (hb : Base o host s) (hnow : s.host.now ≤ bound) :
    Ending bound s.stopListening := by
  rw [Server.stopListening]
  split_ifs
  · trivial
  · intro t ht
    have hle := hb.le_of_reading ht
    show t ≤ bound + s.options.settings.receiveTimeout
    rw [hb.options_eq]
    omega

lemma endTransfer (hb : Base o host s) (hnow : s.host.now ≤ bound) (completed : Bool) :
    Ending bound (s.endTransfer completed) := by
  rw [Server.endTransfer]
  split_ifs
  · exact stopListening (hb.of_ground rfl) hnow
  · exact hnow

lemma tryComplete (hb : Base o host s) (hnow : s.host.now ≤ bound) {deadline : Int}
    (hdeadline : deadline ≤ bound) (waited : Bool) :
    Ending bound (s.tryComplete deadline waited) := by
  have hb' : ∀ n, Base o host (s.note n) := fun n => hb.of_ground rfl
  rw [Server.tryComplete]
  split_ifs
  · exact endTransfer (hb' _) hnow true
  · exact endTransfer (hb' _) hnow false
  · exact ⟨hdeadline, hnow⟩

lemma resumeTransfer (he : Ending bound s) (hs : Standing o host s) :
    Ending bound s.resumeTransfer := by
  rw [Server.resumeTransfer]
  rw [Ending] at he
  cases hs with
  | asking hb htimer hlistener hstage =>
      rcases hstage with h | ⟨deadline, h⟩ <;> rw [h] at he <;> exact he.elim
  | serving hb hlistening hears hwaits =>
      rw [Waits] at hwaits
      cases hstage : s.stage with
      | awaitingAcks deadline notified =>
          rw [hstage] at he
          exact tryComplete hb he.2 he.1 true
      | joiningTimer =>
          rw [hstage] at he
          exact stopListening hb he
      | sendingData | sendingEnd => rw [hstage] at he; exact he.elim
      | starting | awaitingRequest | joiningListener | «over» =>
          rw [hstage] at hwaits
          exact hwaits.elim
  | leaving hb htimer hlistening hstage =>
      rw [hstage]
      trivial
  | finished _ _ _ hstage | broken _ _ _ hstage =>
      rw [hstage] at he ⊢
      rw [Ending, hstage]
      trivial

lemma resumeTimer (he : Ending bound s) : Ending bound s.resumeTimer := by
  obtain ⟨h, more, sender, hresume, hposted, _, _⟩ := resumeTimer_frame s
  rw [hresume]
  rw [Ending] at he ⊢
  cases hstage : s.stage with
  | awaitingAcks deadline notified => rw [hstage] at he; exact hposted.now_eq ▸ he
  | joiningTimer => rw [hstage] at he; exact hposted.now_eq ▸ he
  | _ => rw [hstage] at he; exact he

lemma heed (he : Ending bound s) (received : Option Received) :
    Ending bound (s.heed received) := by
  rcases heed_cases received s with hsame | ⟨number, notices, report, hheed⟩
  · rwa [hsame]
  · rw [hheed]
    rw [Ending] at he ⊢
    cases hstage : s.stage with
    | _ => rw [hstage] at he; exact he

lemma listen (he : Ending bound s) (hs : Standing o host s) (hlistener : s.listener ≠ .ended) :
    Ending bound s.listen := by
  rw [Ending] at he ⊢
  cases hs with
  | serving hb hlistening hears hwaits =>
      rw [Waits] at hwaits
      rw [Server.listen]
      cases hstage : s.stage with
      | awaitingAcks | joiningTimer => rw [hstage] at he; exact he
      | sendingData | sendingEnd => rw [hstage] at he; exact he.elim
      | starting | awaitingRequest | joiningListener | «over» =>
          rw [hstage] at hwaits
          exact hwaits.elim
  | leaving hb htimer hlistening hstage =>
      rw [Server.listen, if_neg (by rw [hlistening]; exact Bool.false_ne_true), hstage]
      simp
  | asking _ _ hended | finished _ _ hended | broken _ _ hended => exact absurd hended hlistener

lemma resumeListener (he : Ending bound s) (hs : Standing o host s) :
    Ending bound s.resumeListener := by
  rw [Server.resumeListener]
  cases hlistener : s.listener with
  | starting => exact he.listen hs (by simp [hlistener])
  | ended => exact he
  | reading deadline =>
      have hears : s.listener ≠ .ended := by simp [hlistener]
      obtain ⟨received, corrupted, arrivals, notices, hreceive, _⟩ := s.endpoint.receive_eq s.host
      simp only [receive, hreceive]
      have ht := hs.of_read hears corrupted arrivals notices
      have het : Ending bound { s with
          endpoint := { s.endpoint with corrupted }
          host := { s.host with arrivals, notices } } := he
      obtain ⟨hheed, hground, _, _⟩ := ht.heed hears received
      simp only [ground, Prod.mk.injEq] at hground
      exact (het.heed received).listen hheed (by rw [hground.2.2.1]; exact hears)

/-- Where nothing can happen now, the transfer waits for a time that is not too late, or for the
listener alone. -/
lemma idle_cases (he : Ending bound s) (hs : Standing o host s) (hidle : system.Idle s) :
    (∃ deadline, s.stage = .awaitingAcks deadline false) ∨
    (s.stage = .joiningListener ∧ ∃ deadline, s.listener = .reading deadline) ∨
    s.stage.isOver = true := by
  have htransfer := hidle.not_ready (r := s.transferReadiness) (List.mem_cons_self ..)
  have htimer := hidle.not_ready (r := s.timer.readiness)
    (List.mem_cons_of_mem _ (List.mem_cons_self ..))
  have hlistener := hidle.not_ready (r := s.listenerReadiness)
    (List.mem_cons_of_mem _ (List.mem_cons_of_mem _ (List.mem_cons_self ..)))
  rw [Ending] at he
  rw [transferReadiness] at htransfer
  cases hs with
  | asking hb _ _ hstage =>
      rcases hstage with h | ⟨deadline, h⟩ <;> rw [h] at he <;> exact he.elim
  | serving hb hlistening hears hwaits =>
      rw [Waits] at hwaits
      cases hstage : s.stage with
      | awaitingAcks deadline notified =>
          rw [hstage] at he htransfer
          cases notified with
          | true => cases htransfer
          | false => exact .inl ⟨deadline, rfl⟩
      | joiningTimer =>
          -- the timer was told to end and has not done so, so it can go on
          rw [hstage] at hwaits htransfer
          have hgoes : s.timer.readiness.isReadyAt s.host.now = true := by
            cases ht : s.timer with
            | starting => rfl
            | ended => rw [ht] at htransfer; cases htransfer
            | sleeping wake notified =>
                cases notified with
                | true => rfl
                | false => exact absurd ht (hwaits.2 wake)
          exact absurd hgoes (Bool.eq_false_iff.1 htimer)
      | sendingData | sendingEnd => rw [hstage] at he; exact he.elim
      | starting | awaitingRequest | joiningListener | «over» =>
          rw [hstage] at hwaits
          exact hwaits.elim
  | leaving hb _ _ hstage =>
      rw [hstage] at htransfer
      rw [listenerReadiness] at hlistener
      cases hl : s.listener with
      | starting => rw [hl] at hlistener; cases hlistener
      | ended => rw [hl] at htransfer; cases htransfer
      | reading deadline => exact .inr (.inl ⟨hstage, deadline, rfl⟩)
  | finished _ _ _ hstage | broken _ _ _ hstage => exact .inr (.inr (by rw [hstage]; rfl))

/-- **Every step keeps it.** -/
lemma step (he : Ending bound s) (hs : Standing o host s)
    (hstep : system.step? (some limit) s = some s') : Ending bound s' := by
  rcases system.step?_eq_some hstep with ⟨i, hi, rfl⟩ | ⟨time, hidle, hdue, _, rfl⟩
  · match i with
    | 0 => exact he.resumeTransfer hs
    | 1 => exact he.resumeTimer
    | 2 => exact he.resumeListener hs
    | _ + 3 =>
        obtain ⟨r, hr, _⟩ := system.ready_of_firstReady? hi
        cases hr
  · show Ending bound { s with host := s.host.advanceTo time }
    rcases he.idle_cases hs hidle with ⟨deadline, hstage⟩ | ⟨hstage, _⟩ | hover
    · -- the clock jumps no further than to what the transfer waits for
      have hmem : .dueAt deadline ∈ system.tasks s := by
        refine List.mem_cons.2 (.inl ?_)
        rw [transferReadiness, hstage]
        rfl
      have hjump := (system.mem_of_nextDue? hdue).2 deadline hmem
      rw [Ending, hstage] at he ⊢
      exact ⟨he.1, show max s.host.now time ≤ bound by omega⟩
    · rw [Ending, hstage] at he ⊢
      exact he
    · obtain ⟨conclusion, hstage⟩ := Stage.exists_conclusion hover
      rw [Ending, hstage]
      trivial

/-- A run that will not wait beyond a time goes on so. -/
lemma passes (he : Ending bound s) (hs : Standing o host s) (hpoll : 1 ≤ o.settings.poll)
    (htimeout : 0 ≤ o.settings.receiveTimeout) (hpasses : system.Passes (some limit) s s') :
    Standing o host s' ∧ Ending bound s' := by
  induction hpasses with
  | refl => exact ⟨hs, he⟩
  | tail _ hstep ih => exact ⟨(ih.1.step hpoll htimeout hstep).1, ih.2.step ih.1 hstep⟩

/-- **When the read that was begun by then is over, so is the run.** -/
lemma isOver (he : Ending bound s) (hs : Standing o host s)
    (htimeout : 1 ≤ o.settings.receiveTimeout)
    (hlimit : bound + o.settings.receiveTimeout ≤ limit)
    (hlast : system.step? (some limit) s = none) : s.stage.isOver = true := by
  rcases he.idle_cases hs (system.step?_eq_none hlast).1 with
    ⟨deadline, hstage⟩ | ⟨hstage, deadline, hreading⟩ | hover
  · have hmem : .dueAt deadline ∈ system.tasks s := by
      refine List.mem_cons.2 (.inl ?_)
      rw [transferReadiness, hstage]
      rfl
    have hlt := system.lt_of_step?_eq_none hlast hmem
    rw [Ending, hstage] at he
    have hle := he.1
    omega
  · have hb := hs.base_of_listener (by simp [hreading])
    obtain ⟨begun, _, heq⟩ := hb.reading deadline hreading
    rw [Settings.patience, if_neg (by omega), Option.map_some] at heq
    subst heq
    rw [Ending, hstage, hb.options_eq] at he
    have hle := he _ hreading
    -- the read is over by its time, whatever the network brings
    obtain ⟨due, hsoon, hdue⟩ :=
      due_of_deadline s.host (begun + o.settings.receiveTimeout)
    have hmem : .dueAt due ∈ system.tasks s := by
      refine List.mem_cons_of_mem _ (List.mem_cons_of_mem _ (List.mem_cons.2 (.inl ?_)))
      rw [listenerReadiness, hreading]
      exact hdue.symm
    have hlt := system.lt_of_step?_eq_none hlast hmem
    omega
  · exact hover

end Ending

/-! ## The end -/

/-- A run that is over has left its report, unless it had no window to send in. -/
lemma reported_of_isOver (hs : Standing o host s) (hwindow : o.settings.window ≠ 0)
    (hover : s.stage.isOver = true) : s.outcome.Reported o host := by
  obtain ⟨conclusion, hstage⟩ := Stage.exists_conclusion hover
  cases hs with
  | finished hoptions htimer hlistener hfinished hprinted hfiles =>
      obtain ⟨h, hdetach, hrewired⟩ := s.endpoint.detach_eq s.host
      rw [outcome, hfinished]
      dsimp only
      rw [hdetach]
      exact ⟨⟨_, rfl⟩, hrewired.printed_eq.trans hprinted, hrewired.files_eq.trans hfiles⟩
  | broken _ _ _ _ hzero => exact absurd hzero hwindow
  | asking _ _ _ hother =>
      rcases hother with h | ⟨deadline, h⟩ <;> rw [h] at hstage <;> cases hstage
  | serving _ _ _ hwaits =>
      rw [Waits, hstage] at hwaits
      exact hwaits.elim
  | leaving _ _ _ hother =>
      rw [hother] at hstage
      cases hstage

/-- All that the network brings has come by some time. -/
lemma exists_time_le (arrivals : List Arrival) : ∃ time, ∀ a ∈ arrivals, a.time ≤ time := by
  induction arrivals with
  | nil => exact ⟨0, nofun⟩
  | cons a rest ih =>
      obtain ⟨time, htime⟩ := ih
      refine ⟨max a.time time, fun b hb => ?_⟩
      rcases List.mem_cons.1 hb with rfl | hb
      · exact Int.le_max_left ..
      · exact Int.le_trans (htime b hb) (Int.le_max_right ..)

/-- **Once everything has come**, a run that is done for now has read it all, or it is over. -/
lemma arrivals_eq_nil_of_last (hs : Standing o host s)
    (hcome : ∀ a ∈ s.host.arrivals, a.time ≤ limit)
    (hlast : system.step? (some limit) s = none) :
    s.host.arrivals = [] ∨ s.stage.isOver = true := by
  cases harrivals : s.host.arrivals with
  | nil => exact .inl rfl
  | cons a rest =>
      have hidle := (system.step?_eq_none hlast).1
      have hcome' : a.time ≤ limit := hcome a (by rw [harrivals]; exact List.mem_cons_self ..)
      -- whoever reads would take the next arrival
      have transfer : s.transferReadiness ≠ .ready := by
        intro hready
        have hnot := hidle.not_ready (r := s.transferReadiness) (List.mem_cons_self ..)
        rw [hready] at hnot
        cases hnot
      have listener : s.listener ≠ .ended → False := by
        intro hears
        have hmem : s.listenerReadiness ∈ system.tasks s :=
          List.mem_cons_of_mem _ (List.mem_cons_of_mem _ (List.mem_cons_self ..))
        rw [listenerReadiness] at hmem
        cases hl : s.listener with
        | starting =>
            rw [hl] at hmem
            cases hidle.not_ready hmem
        | ended => exact hears hl
        | reading deadline =>
            rw [hl] at hmem
            obtain ⟨due, hle, hdue⟩ := due_of_arrival s.host deadline harrivals
            dsimp only at hmem
            rw [hdue] at hmem
            have hlt := system.lt_of_step?_eq_none hlast hmem
            omega
      cases hs with
      | asking hb _ _ hstage =>
          rcases hstage with h | ⟨deadline, h⟩
          · exact absurd (by rw [transferReadiness, h]) transfer
          · obtain ⟨due, hle, hdue⟩ := due_of_arrival s.host deadline harrivals
            have hmem : .dueAt due ∈ system.tasks s := by
              refine List.mem_cons.2 (.inl ?_)
              rw [transferReadiness, h]
              exact hdue.symm
            have hlt := system.lt_of_step?_eq_none hlast hmem
            omega
      | serving _ _ hears => exact (listener hears).elim
      | leaving _ _ _ hstage =>
          refine (listener fun hended => transfer ?_).elim
          rw [transferReadiness, hstage, hended]
          rfl
      | finished _ _ _ hstage | broken _ _ _ hstage => exact .inr (by rw [hstage]; rfl)

/-- A run that has read a request and is done for now waits for good, or has sent the end of the
file. -/
lemma stalled_or_hasSentEnd (hs : Standing o host s)
    (hasks : ∀ deadline, s.stage ≠ .starting ∧ s.stage ≠ .awaitingRequest deadline)
    (harrivals : s.host.arrivals = []) (hidle : system.Idle s) :
    s.Stalled ∨ s.stage.hasSentEnd = true := by
  have htransfer := hidle.not_ready (r := s.transferReadiness) (List.mem_cons_self ..)
  rw [transferReadiness] at htransfer
  cases hs with
  | asking _ _ _ hstage =>
      rcases hstage with h | ⟨deadline, h⟩
      · exact absurd h (hasks none).1
      · exact absurd h (hasks deadline).2
  | serving _ _ _ hwaits =>
      rw [Waits] at hwaits
      cases hstage : s.stage with
      | sendingData feed notified =>
          rw [hstage] at hwaits htransfer
          cases notified with
          | true => cases htransfer
          | false => exact .inl ⟨harrivals, hwaits rfl, .inr ⟨feed, hstage⟩⟩
      | sendingEnd notified =>
          rw [hstage] at hwaits htransfer
          cases notified with
          | true => cases htransfer
          | false => exact .inl ⟨harrivals, hwaits rfl, .inl hstage⟩
      | awaitingAcks | joiningTimer => exact .inr rfl
      | starting | awaitingRequest | joiningListener | «over» =>
          rw [hstage] at hwaits
          exact hwaits.elim
  | leaving _ _ _ hstage | finished _ _ _ hstage | broken _ _ _ hstage =>
      exact .inr (by rw [hstage]; rfl)

/-- A run that has read all the network brings has left the request behind, if there was one. -/
lemma not_asking_of_phase {read : List Arrival} {r : Received} (hp : Phase o host read s)
    (hrequest : firstRequest? o.settings.serverPort read = some r) (deadline : Option Int) :
    s.stage ≠ .starting ∧ s.stage ≠ .awaitingRequest deadline := by
  cases hp with
  | waiting _ hnone =>
      rw [hnone] at hrequest
      cases hrequest
  | refused _ _ hr =>
      obtain ⟨conclusion, hstage⟩ := hr.stage_eq
      rw [hstage]
      exact ⟨nofun, nofun⟩
  | serving _ _ hu =>
      have hgiven := hu.given
      exact ⟨fun h => by rw [h] at hgiven; exact hgiven, fun h => by rw [h] at hgiven; exact hgiven⟩

/-- **Once a request is accepted**, there is a time from which on the run has come to its end and
left its report, or it waits for room in the window, and for good.  It does not wait so once the
end of the file was sent: then the run comes to its end as soon as the time for the last
acknowledgements and a read have passed. -/
theorem accepted_transfer_ends (hwindow : o.settings.window ≠ 0) (hsize : 1 ≤ o.settings.maxPayload)
    (hpoll : 1 ≤ o.settings.poll) (htimeout : 1 ≤ o.settings.receiveTimeout) (hnow : 0 ≤ host.now)
    (hstart : start? o host = some s) {r : Received}
    (hrequest : firstRequest? o.settings.serverPort host.arrivals = some r) :
    (∃ time, (∀ limit ≥ time, (run o limit host).Reported o host) ∨
      ∀ limit ≥ time, (run o limit host).conclusion = .unfinished ∧
        (system.run (some limit) (fuel limit s.host) s).Stalled) ∧
    ∀ limit s', system.Passes (some limit) s s' → s'.stage.hasSentEnd = true →
      s'.host.now + max 0 o.settings.completionTimeout + o.settings.receiveTimeout ≤ limit →
      (run o limit host).Reported o host := by
  have hstanding := (standing_of_start? hstart).1
  have hwait : 0 ≤ o.settings.receiveTimeout := by omega
  have hlast := step?_run hpoll hwait hnow hstart
  have hrun := run_of_start? hstart
  -- what was sent to its end comes to its end
  have hends : ∀ limit s', system.Passes (some limit) s s' → s'.stage.hasSentEnd = true →
      s'.host.now + max 0 o.settings.completionTimeout + o.settings.receiveTimeout ≤ limit →
      (run o limit host).Reported o host := by
    intro limit s' hpasses hsent hlimit
    have hs' := hstanding.passes hpoll hwait hpasses
    have hon := hpasses.to_last (system.passes_run (some limit) (fuel limit s.host) s) (hlast limit)
    obtain ⟨hs'', hending⟩ := (ending_of_hasSentEnd hs' hsent).passes hs' hpoll hwait hon
    rw [hrun]
    exact reported_of_isOver hs'' hwindow (hending.isOver hs'' htimeout hlimit (hlast limit))
  refine ⟨?_, hends⟩
  -- how it ends shows once everything has come
  obtain ⟨time, htime⟩ := exists_time_le host.arrivals
  have hpasses := system.passes_run (some time) (fuel time s.host) s
  have hs' := hstanding.passes hpoll hwait hpasses
  have hidle := hlast time
  obtain ⟨read, hread, hphase⟩ := phase_of_passes hwindow hsize hstart hpasses
  generalize system.run (some time) (fuel time s.host) s = s' at hpasses hs' hidle hread hphase
  have hwhich : s'.Stalled ∨ s'.stage.hasSentEnd = true := by
    rcases arrivals_eq_nil_of_last hs'
        (fun a ha => htime a (by rw [hread]; exact List.mem_append_right _ ha)) hidle with
      hnil | hover
    · rw [hnil, List.append_nil] at hread
      exact stalled_or_hasSentEnd hs' (not_asking_of_phase hphase (hread ▸ hrequest)) hnil
        (system.step?_eq_none hidle).1
    · obtain ⟨conclusion, hstage⟩ := Stage.exists_conclusion hover
      exact .inr (by rw [hstage]; rfl)
  rcases hwhich with hstalled | hsent
  · refine ⟨time, .inr fun limit hlimit => ?_⟩
    have hon := (hpasses.mono system hlimit).to_last
      (system.passes_run (some limit) (fuel limit s.host) s) (hlast limit)
    rw [hrun]
    exact ⟨(hstalled.passes hon).conclusion_eq, hstalled.passes hon⟩
  · refine ⟨max time (s'.host.now + max 0 o.settings.completionTimeout
      + o.settings.receiveTimeout), .inl fun limit hlimit => ?_⟩
    exact hends limit s' (hpasses.mono system (by omega)) hsent (by omega)

/-- A machine with a file, and a client that asks for it and is not heard of again. -/
def silentHost (bytes : Bytes) : Host where
  files := Files.empty.addFile (text "f") bytes
  arrivals := ((posting? (text "10.0.0.2") 12346 smallServer.address 12345
    (0, ⟨0, 0, Flags.request, text "f"⟩)).map fun x => ⟨0, .datagram x.2.2.2⟩).toList

/-- Two pieces and the end of a file are sent at once; a minute and a read later the run is over. -/
theorem accepted_transfer_ends_silent :
    firstRequest? 12345 (silentHost [1, 2, 3]).arrivals
      = some ⟨⟨0, 0, Flags.request, text "f"⟩, ⟨10, 0, 0, 2⟩, 12346⟩ ∧
    ∀ limit ≥ 60200, (run smallServer limit (silentHost [1, 2, 3])).Reported smallServer
      (silentHost [1, 2, 3]) := by
  let s := (start? smallServer (silentHost [1, 2, 3])).get (by decide +kernel)
  have hstart : start? smallServer (silentHost [1, 2, 3]) = some s := (Option.some_get _).symm
  have hrequest : firstRequest? 12345 (silentHost [1, 2, 3]).arrivals
      = some ⟨⟨0, 0, Flags.request, text "f"⟩, ⟨10, 0, 0, 2⟩, 12346⟩ := by decide +kernel
  have hfirst : system.firstReady? s = some 0 := by decide +kernel
  have hsecond : system.firstReady? (system.resume 0 s) = some 0 := by decide +kernel
  have hsent : (system.resume 0 (system.resume 0 s)).stage.hasSentEnd = true := by decide +kernel
  have hnow : (system.resume 0 (system.resume 0 s)).host.now = 0 := by decide +kernel
  obtain ⟨_, hends⟩ := accepted_transfer_ends (by decide) (by decide) (by decide) (by decide)
    (by decide) hstart hrequest
  have hpasses : ∀ limit, system.Passes (some limit) s (system.resume 0 (system.resume 0 s)) :=
    fun limit => (system.passes_resume _ hfirst).trans (system.passes_resume _ hsecond)
  refine ⟨hrequest, fun limit hlimit => hends limit _ (hpasses limit) hsent ?_⟩
  rw [hnow]
  exact hlimit

/-- **A server that waits for good**: its file has more pieces than there is room for, and none of
them is ever acknowledged. -/
theorem stalls_unacknowledged :
    smallServer.settings.window ≠ 0 ∧ 1 ≤ smallServer.settings.maxPayload ∧
    1 ≤ smallServer.settings.poll ∧ 1 ≤ smallServer.settings.receiveTimeout ∧
    (∃ r source, firstRequest? 12345 (silentHost [1, 2, 3, 4, 5, 6, 7, 8, 9]).arrivals = some r ∧
      offered? smallServer (silentHost [1, 2, 3, 4, 5, 6, 7, 8, 9]).files r.packet.payload
        = some source) ∧
    ∀ limit, (run smallServer limit (silentHost [1, 2, 3, 4, 5, 6, 7, 8, 9])).conclusion
      = .unfinished := by
  refine ⟨by decide, by decide, by decide, by decide,
    ⟨⟨⟨0, 0, Flags.request, text "f"⟩, ⟨10, 0, 0, 2⟩, 12346⟩,
      .content [1, 2, 3, 4, 5, 6, 7, 8, 9], by decide +kernel, by decide +kernel⟩, fun limit => ?_⟩
  let s := (start? smallServer (silentHost [1, 2, 3, 4, 5, 6, 7, 8, 9])).get (by decide +kernel)
  have hstart : start? smallServer (silentHost [1, 2, 3, 4, 5, 6, 7, 8, 9]) = some s :=
    (Option.some_get _).symm
  have hfirst : system.firstReady? s = some 0 := by decide +kernel
  have hsecond : system.firstReady? (system.resume 0 s) = some 0 := by decide +kernel
  have hstalled : (system.resume 0 (system.resume 0 s)).Stalled :=
    ⟨by decide +kernel, by decide +kernel, .inr ⟨.pieces [[9]], by decide +kernel⟩⟩
  have hpasses : system.Passes (some limit) s (system.resume 0 (system.resume 0 s)) :=
    (system.passes_resume _ hfirst).trans (system.passes_resume _ hsecond)
  rw [run_of_start? hstart]
  exact (hstalled.passes (hpasses.to_last (system.passes_run _ _ _)
    (step?_run (by decide) (by decide) (by decide) hstart limit))).conclusion_eq

end Server

end ReliableTransfer
