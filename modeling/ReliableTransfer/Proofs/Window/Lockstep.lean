import ReliableTransfer.Proofs.Window.Loop
import ReliableTransfer.Proofs.Window.Settling

/-!
# Every step keeps the loop in step

Whoever takes a turn in a closed loop, sender, receiver, application and link stay in step.  The
packets in flight are sent again all at once, since nobody can do anything else between the time
when a packet was sent and the scan that finds it overdue.

* `Session.Moves.asks_cases`, `Session.Moves.acknowledge_cases` — where the calls of a loop go.
* `Loop.InStep.send`, `Loop.InStep.block`, `Loop.InStep.acknowledge` — their turns.
* `Loop.InStep.tick_early`, `Loop.InStep.tick_late` — the timer's.
* `Loop.InStep.give`, `Loop.InStep.deliver`, `Loop.InStep.jump` — the application, the link and the
  clock.
* `Loop.Onward` — what a turn brings.
-/

namespace ReliableTransfer

/-- A call asks for one payload only. -/
lemma CallState.Asks.unique {settings : Settings} {payload payload' : Bytes}
    {flags flags' : Flags} : ∀ {state : CallState}, state.Asks settings payload flags →
      state.Asks settings payload' flags' → payload = payload' ∧ flags = flags'
  | .starting (.send _ _), h, h' => ⟨h.1.symm.trans h'.1, h.2.1.symm.trans h'.2.1⟩
  | .sending _ _ _, h, h' => ⟨h.1.symm.trans h'.1, h.2.symm.trans h'.2⟩

/-- **A call that asks a sender at work** for its payload to be sent has it sent, or waits. -/
lemma Session.Moves.asks_cases {s : Session} {before state : CallState} {sender : Sender}
    {timer : Timer} {actions : List Action} {payload : Bytes} {flags : Flags}
    (hm : s.Moves before state sender timer actions)
    (hasks : before.Asks s.settings payload flags) (hrunning : s.sender.running = true) :
    timer = s.timer ∧
      ((state = .returned (.sent s.sender.next) ∧
          sender = (s.sender.send s.now payload flags).1 ∧
          actions = [.transmit (s.sender.packet payload flags)]) ∨
        (state = .sending payload flags false ∧ sender = s.sender ∧ actions = [])) := by
  cases hm with
  | refuse hrefusal =>
      obtain ⟨rfl, rfl, hnone⟩ := hasks
      rw [hrefusal] at hnone
      cases hnone
  | halt _ hstopped =>
      rw [hrunning] at hstopped
      cases hstopped
  | send hasks' =>
      obtain ⟨rfl, rfl⟩ := hasks.unique hasks'
      exact ⟨rfl, .inl ⟨rfl, rfl, rfl⟩⟩
  | block hasks' =>
      obtain ⟨rfl, rfl⟩ := hasks.unique hasks'
      exact ⟨rfl, .inr ⟨rfl, rfl, rfl⟩⟩
  | complete hawaits =>
      cases before with
      | starting op =>
          cases op with
          | send => cases hawaits
          | acknowledge | await | stop => cases hasks
      | sending => cases hawaits
      | awaiting | joining | returned => cases hasks
  | _ => cases hasks

/-- **A call that hands over an acknowledgement** has it taken. -/
lemma Session.Moves.acknowledge_cases {s : Session} {number : UInt32} {state : CallState}
    {sender : Sender} {timer : Timer} {actions : List Action}
    (hm : s.Moves (.starting (.acknowledge number)) state sender timer actions) :
    state = .returned .acknowledged ∧ sender = s.sender.acknowledge number ∧ timer = s.timer ∧
      actions = [] := by
  cases hm with
  | acknowledge => exact ⟨rfl, rfl, rfl, rfl⟩
  | halt hasks | send hasks | block hasks => cases hasks
  | complete hawaits => cases hawaits

namespace Loop

/-- How many packets the link was handed. -/
def transmitted (x : Loop) : Nat :=
  x.session.sender.packetsSent + x.session.sender.retransmissions

/-- **What a turn brings**: it takes no time, leaves less work and takes back no acknowledgement,
and either the link is handed packets or the pace stays as it is. -/
structure Onward (pace pace' : Pace) (x y : Loop) : Prop where
  now_eq : y.session.now = x.session.now
  work_lt : y.session.work < x.session.work
  base_le : x.session.sender.base.toNat ≤ y.session.sender.base.toNat
  transmitted_lt : x.transmitted < y.transmitted ∨ (x.transmitted = y.transmitted ∧ pace' = pace)

variable {settings : Settings} {lost : Nat} {pieces : List Bytes} {pace : Pace} {x : Loop}
  {i : Nat} {c : Call} {state : CallState} {sender : Sender} {timer : Timer}
  {actions : List Action} {session : Session}

namespace InStep

/-! ## Turns of a call -/

section Turn

variable (h : InStep settings lost pieces pace x) (hfair : Fair settings lost pieces)
  (hquiet : ¬ x.Quiet pieces pace)
  (hm : x.session.Moves c.state state sender x.session.timer actions)
  (ht : x.session.Turned i c state sender x.session.timer actions session)

include h hfair hquiet hm ht

/-- A turn of a call keeps all in step that has nothing to do with calls and numbers. -/
lemma of_turned {pace' : Pace} (htime : pace'.time = pace.time) (hrounds : pace'.rounds = 0)
    (hpaced : Paced lost ((script pieces).take sender.packetsSent) session.packets pace' sender)
    (hsent : sender.packetsSent ≤ pieces.length + 1) (hbase : sender.base.toNat ≤ x.seen)
    (hseen : x.seen ≤ pace'.passed) (hlength : sender.packetsSent ≤ x.sends.length)
    (hsends : session.Tracks x.sends (Sends settings pieces sender.packetsSent))
    (hacks : session.Tracks x.acks (Acks sender.base.toNat)) :
    InStep settings lost pieces pace' { x with session } := by
  have hnow := (h.just_now hquiet).1
  have hawake := h.awake.turned hm ht
  have hlengths : (x.session.woken c.state).length = x.session.calls.length := by
    rw [Session.woken]
    split_ifs
    · exact List.length_map _
    · rfl
  obtain ⟨hsettings, -, hnow', rfl, htimer, hcalls, -, -⟩ := ht
  exact
    { settings_eq := hsettings.trans h.settings_eq
      awake := hawake
      paced := hpaced
      sent_le := hsent
      time_le := by
        dsimp only
        rw [hnow', htime]
        exact h.time_le
      timer_eq := by
        dsimp only
        rw [hnow', htimer, htime]
        exact h.timer_eq
      in_time := by
        intro _ _
        dsimp only
        rw [hnow', htime, hnow, Int.sub_self]
        exact hfair.timeout_nonneg
      follows := h.follows
      seen_eq := h.seen_eq
      base_le := hbase
      seen_le := hseen
      sends_length := hlength
      acks_length := h.acks_length
      sends := hsends
      acks := hacks
      owned := by
        dsimp only
        rw [hcalls, List.length_modify, hlengths]
        exact h.owned
      settled := by
        dsimp only
        rw [hnow', htime, hrounds]
        omega }

end Turn

/-- **A packet is sent** for the first time. -/
lemma send (h : InStep settings lost pieces pace x) (hfair : Fair settings lost pieces)
    (hquiet : ¬ x.Quiet pieces pace) (hc : x.session.calls[i]? = some c)
    (hi : x.sends[x.session.sender.packetsSent]? = some i) {payload : Bytes} {flags : Flags}
    (hitem : (script pieces)[x.session.sender.packetsSent]? = some (payload, flags))
    (hasks : c.state.Asks settings payload flags)
    (hm : x.session.Moves c.state (.returned (.sent x.session.sender.next))
      (x.session.sender.send x.session.now payload flags).1 x.session.timer
      [.transmit (x.session.sender.packet payload flags)])
    (ht : x.session.Turned i c (.returned (.sent x.session.sender.next))
      (x.session.sender.send x.session.now payload flags).1 x.session.timer
      [.transmit (x.session.sender.packet payload flags)] session) :
    InStep settings lost pieces (pace.sent lost x.session.sender.packetsSent)
      { x with session } := by
  obtain ⟨htime, hrounds⟩ := h.just_now hquiet
  have hlength := hfair.length_lt
  have hsent := (List.getElem?_eq_some_iff.1 hitem).1
  rw [length_script] at hsent
  have hseen := h.seen_le
  have hpassed := h.passed_le
  refine h.of_turned hfair hquiet hm ht rfl hrounds ?_ hsent h.base_le ?_
    (List.getElem?_eq_some_iff.1 hi).1 ?_ ?_
  · have hpaced := h.paced.send (by rw [h.length_items]; omega) hrounds payload flags
    rw [h.length_items, htime] at hpaced
    have hitems : (script pieces).take (x.session.sender.packetsSent + 1)
        = (script pieces).take x.session.sender.packetsSent ++ [(payload, flags)] := by
      rw [List.take_add_one, hitem]
      rfl
    rw [ht.packets_eq]
    exact hitems ▸ hpaced
  · dsimp only [Pace.sent]
    split_ifs <;> omega
  · refine h.sends.turned ht (fun _ _ => Sends.notify) ?_ ?_
    · intro k hk
      obtain ⟨rfl, _⟩ := h.sends_pending hk hc (CallState.answer?_of_sends hasks.sends_eq)
      rw [h.eq_next]
      exact .done (Nat.lt_succ_self _)
    · intro k j state hk hj hstands
      cases hstands with
      | done hlt => exact .done (Nat.lt_succ_of_lt hlt)
      | pending heq => exact absurd (Option.some.inj (hk.symm.trans (heq ▸ hi))) hj
  · exact h.acks.turned ht (fun _ _ => Acks.notify)
      (fun k hk => absurd hasks (h.not_asks_of_acks hk hc)) fun _ _ _ _ _ => id

/-- **A call finds the window full** and waits. -/
lemma block (h : InStep settings lost pieces pace x) (hfair : Fair settings lost pieces)
    (hquiet : ¬ x.Quiet pieces pace) (hc : x.session.calls[i]? = some c)
    {payload : Bytes} {flags : Flags}
    (hitem : (script pieces)[x.session.sender.packetsSent]? = some (payload, flags))
    (hasks : c.state.Asks settings payload flags)
    (hm : x.session.Moves c.state (.sending payload flags false) x.session.sender
      x.session.timer [])
    (ht : x.session.Turned i c (.sending payload flags false) x.session.sender
      x.session.timer [] session) :
    InStep settings lost pieces pace { x with session } := by
  have hrounds := (h.just_now hquiet).2
  refine h.of_turned hfair hquiet hm ht rfl hrounds ?_ h.sent_le h.base_le h.seen_le
    h.sends_length ?_ ?_
  · rw [ht.packets_eq, List.filterMap_nil, List.append_nil]
    exact h.paced
  · refine h.sends.turned ht (fun _ _ => Sends.notify) ?_ fun _ _ _ _ _ => id
    intro k hk
    obtain ⟨rfl, _⟩ := h.sends_pending hk hc (CallState.answer?_of_sends hasks.sends_eq)
    exact .pending rfl hitem ⟨rfl, rfl⟩
  · exact h.acks.turned ht (fun _ _ => Acks.notify)
      (fun k hk => absurd hasks (h.not_asks_of_acks hk hc)) fun _ _ _ _ _ => id

/-- The acknowledgement the receiver gave last moves the base on by one. -/
lemma toNat_base_acknowledge (h : InStep settings lost pieces pace x)
    (hlt : x.session.sender.base.toNat < x.seen) :
    (x.session.sender.acknowledge (UInt32.ofNat x.session.sender.base.toNat)).base.toNat
      = x.session.sender.base.toNat + 1 := by
  have hseen := h.seen_le
  have hpassed := h.passed_le
  rw [UInt32.ofNat_toNat, h.paced.carries.toNat_base_acknowledge, h.length_items]
  omega

/-- **An acknowledgement is taken.** -/
lemma acknowledge (h : InStep settings lost pieces pace x) (hfair : Fair settings lost pieces)
    (hquiet : ¬ x.Quiet pieces pace) (hc : x.session.calls[i]? = some c)
    (hi : x.acks[x.session.sender.base.toNat]? = some i)
    (hstate : c.state = .starting (.acknowledge (UInt32.ofNat x.session.sender.base.toNat)))
    (hm : x.session.Moves c.state (.returned .acknowledged)
      (x.session.sender.acknowledge (UInt32.ofNat x.session.sender.base.toNat)) x.session.timer [])
    (ht : x.session.Turned i c (.returned .acknowledged)
      (x.session.sender.acknowledge (UInt32.ofNat x.session.sender.base.toNat)) x.session.timer []
      session) :
    InStep settings lost pieces pace { x with session } := by
  have hrounds := (h.just_now hquiet).2
  have hlt := (List.getElem?_eq_some_iff.1 hi).1
  rw [h.acks_length] at hlt
  have hbase := h.toNat_base_acknowledge hlt
  refine h.of_turned hfair hquiet hm ht rfl hrounds ?_ h.sent_le (hbase ▸ hlt) h.seen_le
    h.sends_length ?_ ?_
  · rw [ht.packets_eq, List.filterMap_nil, List.append_nil]
    exact h.paced.acknowledge _
  · refine h.sends.turned ht (fun _ _ => Sends.notify) ?_ fun _ _ _ _ _ => id
    intro k hk
    obtain ⟨_, payload, flags, _, hasks⟩ := h.sends_pending hk hc (hstate ▸ rfl)
    rw [hstate] at hasks
    cases hasks
  · rw [hbase]
    refine h.acks.turned ht (fun _ _ => Acks.notify) ?_ ?_
    · intro k hk
      obtain ⟨rfl, _⟩ := h.acks_pending hk hc (hstate ▸ rfl)
      exact .done (Nat.lt_succ_self _)
    · intro k j state hk hj hstands
      cases hstands with
      | done hlt => exact .done (Nat.lt_succ_of_lt hlt)
      | pending heq => exact absurd (Option.some.inj (hk.symm.trans (heq ▸ hi))) hj

/-- **A turn of a call** that can run. -/
lemma resumeCall (h : InStep settings lost pieces pace x) (hfair : Fair settings lost pieces)
    (hc : x.session.calls[i]? = some c)
    (hready : (c.state.readiness x.session.timer).isReadyAt x.session.now = true) :
    ∃ pace', InStep settings lost pieces pace' { x with session := x.session.resumeCall i } ∧
      Onward pace pace' x { x with session := x.session.resumeCall i } := by
  have hanswer : c.state.answer? = none := by
    cases hstate : c.state with
    | returned a =>
        rw [hstate] at hready
        cases hready
    | _ => rfl
  have hquiet : ¬ x.Quiet pieces pace := by
    intro hquiet
    obtain ⟨payload, flags, hstate⟩ := h.not_ready_of_quiet hquiet hc hanswer
    rw [hstate] at hready
    cases hready
  obtain ⟨state, sender, timer, actions, hm, ht⟩ := Session.resumeCall_eq hc hanswer
  generalize x.session.resumeCall i = session at ht ⊢
  have hwork := Session.work_turned hc hready hm ht
  have hsender := ht.sender_eq
  obtain ⟨hi, _⟩ := List.getElem?_eq_some_iff.1 hc
  rcases h.owned i hi with hmem | hmem
  · obtain ⟨k, hk⟩ := List.mem_iff_getElem?.1 hmem
    obtain ⟨rfl, payload, flags, hitem, hasks⟩ := h.sends_pending hk hc hanswer
    rw [← h.settings_eq] at hasks
    obtain ⟨rfl, ⟨rfl, rfl, rfl⟩ | ⟨rfl, rfl, rfl⟩⟩ := hm.asks_cases hasks h.paced.running
    · rw [h.settings_eq] at hasks
      refine ⟨_, h.send hfair hquiet hc hk hitem hasks hm ht, ht.now_eq, hwork, ?_, .inl ?_⟩
      · dsimp only
        rw [hsender]
        exact Nat.le_refl _
      · dsimp only [transmitted]
        rw [hsender]
        dsimp only [Sender.send]
        omega
    · rw [h.settings_eq] at hasks
      refine ⟨_, h.block hfair hquiet hc hitem hasks hm ht, ht.now_eq, hwork, ?_,
        .inr ⟨?_, rfl⟩⟩
      · dsimp only
        rw [hsender]
      · dsimp only [transmitted]
        rw [hsender]
  · obtain ⟨k, hk⟩ := List.mem_iff_getElem?.1 hmem
    obtain ⟨rfl, hstate⟩ := h.acks_pending hk hc hanswer
    have hlt := (List.getElem?_eq_some_iff.1 hk).1
    rw [h.acks_length] at hlt
    have hbase := h.toNat_base_acknowledge hlt
    obtain ⟨rfl, rfl, rfl, rfl⟩ := Session.Moves.acknowledge_cases (hstate ▸ hm)
    refine ⟨_, h.acknowledge hfair hquiet hc hk hstate hm ht, ht.now_eq, hwork, ?_,
      .inr ⟨?_, rfl⟩⟩
    · dsimp only
      rw [hsender, hbase]
      exact Nat.le_succ _
    · dsimp only [transmitted]
      rw [hsender]
      rfl

/-! ## Turns of the timer -/

/-- A turn of the timer leaves all calls as they are, and whoever was to wait for the timer goes on
waiting, unless packets get through. -/
lemma of_ticked (h : InStep settings lost pieces pace x) {pace' : Pace} {wake : Int}
    (ht : x.session.Ticked (.sleeping wake false) sender actions session) (hawake : session.Awake)
    (hpaced : Paced lost ((script pieces).take x.session.sender.packetsSent) session.packets pace'
      sender)
    (hsent : sender.packetsSent = x.session.sender.packetsSent)
    (hbase : sender.base = x.session.sender.base) (hpassed : pace.passed ≤ pace'.passed)
    (htime : pace'.time ≤ x.session.now)
    (hearly : x.session.sender.base.toNat < x.session.sender.packetsSent →
      x.session.now - pace'.time ≤ settings.timeout)
    (hsettled : pace'.time < x.session.now ∨ 0 < pace'.rounds →
      pace'.passed = pace.passed ∧ x.Quiet pieces pace) :
    InStep settings lost pieces pace' { x with session } := by
  obtain ⟨hsettings, -, hnow, rfl, htimer, hcalls, -, -⟩ := ht
  exact
    { settings_eq := hsettings.trans h.settings_eq
      awake := hawake
      paced := by
        dsimp only
        rw [hsent]
        exact hpaced
      sent_le := by
        dsimp only
        rw [hsent]
        exact h.sent_le
      time_le := by
        dsimp only
        rw [hnow]
        exact htime
      timer_eq := .inr ⟨wake, htimer⟩
      in_time := by
        dsimp only
        rw [hnow, hsent, hbase]
        exact fun _ => hearly
      follows := h.follows
      seen_eq := h.seen_eq
      base_le := by
        dsimp only
        rw [hbase]
        exact h.base_le
      seen_le := Nat.le_trans h.seen_le hpassed
      sends_length := by
        dsimp only
        rw [hsent]
        exact h.sends_length
      acks_length := h.acks_length
      sends := by
        dsimp only
        rw [hsent]
        exact h.sends.of_calls_eq hcalls
      acks := by
        dsimp only
        rw [hbase]
        exact h.acks.of_calls_eq hcalls
      owned := by
        dsimp only
        rw [hcalls]
        exact h.owned
      settled := by
        dsimp only
        rw [hnow]
        intro hlate
        obtain ⟨hsame, hquiet⟩ := hsettled hlate
        exact hquiet.of_eq hsent hbase hcalls hsame }

/-- **The timer leaves the sender alone**, and comes in time for what is in flight. -/
lemma tick_early (h : InStep settings lost pieces pace x) {wake : Int}
    (ht : x.session.Ticked (.sleeping wake false) x.session.sender [] session)
    (hawake : session.Awake) (hwork : session.work < x.session.work)
    (hearly : x.session.sender.base.toNat < x.session.sender.packetsSent →
      x.session.now - pace.time ≤ settings.timeout) :
    InStep settings lost pieces pace { x with session } ∧
      Onward pace pace x { x with session } := by
  have hpackets := ht.packets_eq
  rw [List.filterMap_nil, List.append_nil] at hpackets
  have hsender := ht.sender_eq
  refine ⟨h.of_ticked ht hawake (hpackets ▸ h.paced) rfl rfl (Nat.le_refl _) h.time_le hearly
    fun hlate => ⟨rfl, h.settled hlate⟩, ht.now_eq, hwork, ?_, .inr ⟨?_, rfl⟩⟩
  · dsimp only
    rw [hsender]
  · dsimp only [transmitted]
    rw [hsender]

/-- **The timer comes too late** for what is in flight, and all of it is sent again. -/
lemma tick_late (h : InStep settings lost pieces pace x) (hfair : Fair settings lost pieces)
    {wake : Int} (ht : x.session.Ticked (.sleeping wake false)
      (x.session.sender.scan settings x.session.now).1
      (x.session.sender.scan settings x.session.now).2 session)
    (hawake : session.Awake) (hwork : session.work < x.session.work)
    (hflight : x.session.sender.base.toNat < x.session.sender.packetsSent)
    (hlate : settings.timeout < x.session.now - pace.time) :
    InStep settings lost pieces (pace.again lost x.session.sender.packetsSent x.session.now)
        { x with session } ∧
      Onward pace (pace.again lost x.session.sender.packetsSent x.session.now) x
        { x with session } := by
  have htimeout := hfair.timeout_nonneg
  have hquiet : x.Quiet pieces pace := h.settled (.inl (by omega))
  have hpassed := hquiet.passed_eq
  have hflight' := h.length_items.symm ▸ hflight
  have hpaced := h.paced.scan_late hlate hpassed hflight' hfair.lost_le
  rw [h.length_items] at hpaced
  have hsender := ht.sender_eq
  refine ⟨?_, ht.now_eq, hwork, ?_, .inl ?_⟩
  · refine h.of_ticked ht hawake (ht.packets_eq ▸ hpaced) rfl rfl ?_ (Int.le_refl _) ?_ ?_
    · dsimp only [Pace.again]
      split_ifs <;> omega
    · dsimp only [Pace.again]
      omega
    · -- where something was sent and is still waited for, it did not get through
      dsimp only [Pace.again]
      intro hwaits
      split_ifs at hwaits ⊢ with hlast
      · omega
      · exact ⟨rfl, hquiet⟩
  · dsimp only
    rw [hsender]
    exact Nat.le_refl _
  · have hmore := h.paced.retransmissions_scan_late hlate hpassed hflight' hfair.lost_le
    rw [h.length_items] at hmore
    dsimp only [transmitted]
    rw [hsender, hmore]
    dsimp only [Sender.scan]
    omega

/-- **A turn of the timer** that can run: it does nothing but go to sleep, or it scans. -/
lemma resumeTimer (h : InStep settings lost pieces pace x) (hfair : Fair settings lost pieces)
    (hready : x.session.timer.readiness.isReadyAt x.session.now = true) :
    ∃ pace', InStep settings lost pieces pace' { x with session := x.session.resumeTimer } ∧
      Onward pace pace' x { x with session := x.session.resumeTimer } := by
  obtain ⟨timer, sender, actions, hresume, ht⟩ := x.session.resumeTimer_eq
  generalize x.session.resumeTimer = session at ht ⊢
  have hwork := Session.work_ticked (h.settings_eq ▸ hfair.poll_pos) hready hresume ht
  have hawake := h.awake.ticked hresume ht
  rcases h.timer_eq with ⟨htimer, htime⟩ | ⟨wake, htimer⟩
  · rw [htimer, Timer.resume_starting h.paced.running] at hresume
    obtain ⟨rfl, rfl, rfl⟩ := Prod.mk.inj hresume |>.imp_right Prod.mk.inj
    have htimeout := hfair.timeout_nonneg
    exact ⟨pace, h.tick_early ht hawake hwork fun _ => by omega⟩
  · rw [htimer] at hready
    rw [htimer, Timer.resume_sleeping h.paced.running (of_decide_eq_true hready),
      h.settings_eq] at hresume
    obtain ⟨rfl, rfl, rfl⟩ := Prod.mk.inj hresume |>.imp_right Prod.mk.inj
    by_cases hlate : x.session.sender.base.toNat < x.session.sender.packetsSent ∧
        settings.timeout < x.session.now - pace.time
    · exact ⟨_, h.tick_late hfair ht hawake hwork hlate.1 hlate.2⟩
    · have hearly : x.session.sender.base.toNat < x.session.sender.packetsSent →
          x.session.now - pace.time ≤ settings.timeout := by omega
      rw [h.paced.scan_early (h.length_items.symm ▸ hearly)] at ht
      exact ⟨pace, h.tick_early ht hawake hwork hearly⟩

/-! ## The application and the link -/

/-- Where all calls to send have returned, all that was given has been sent. -/
lemma sends_length_eq (h : InStep settings lost pieces pace x)
    (hanswered : ∀ i ∈ x.sends, (x.session.answerOf? i).isSome = true) :
    x.sends.length = x.session.sender.packetsSent := by
  refine Nat.le_antisymm (Nat.not_lt.1 fun hlt => ?_) h.sends_length
  have hi := List.getElem?_eq_getElem hlt
  obtain ⟨c, hc, hstands⟩ := h.sends _ _ hi
  have hsome := hanswered _ (List.mem_of_getElem? hi)
  rw [Session.answerOf?, hc, Option.bind_some] at hsome
  generalize c.state = state at hstands hsome
  cases hstands with
  | done hlt => exact Nat.lt_irrefl _ hlt
  | pending _ _ hasks =>
      rw [CallState.answer?_of_sends hasks.sends_eq] at hsome
      cases hsome

/-- Where all acknowledgements were taken, the base is what the receiver has had. -/
lemma seen_eq_base (h : InStep settings lost pieces pace x)
    (hanswered : ∀ i ∈ x.acks, (x.session.answerOf? i).isSome = true) :
    x.seen = x.session.sender.base.toNat := by
  refine Nat.le_antisymm (Nat.not_lt.1 fun hlt => ?_) h.base_le
  rw [← h.acks_length] at hlt
  have hi := List.getElem?_eq_getElem hlt
  obtain ⟨c, hc, hstands⟩ := h.acks _ _ hi
  have hsome := hanswered _ (List.mem_of_getElem? hi)
  rw [Session.answerOf?, hc, Option.bind_some] at hsome
  generalize c.state = state at hstands hsome
  cases hstands with
  | done hlt => exact Nat.lt_irrefl _ hlt
  | pending => cases hsome

/-- **The application goes on** with the next item. -/
lemma give (h : InStep settings lost pieces pace x) (hfair : Fair settings lost pieces)
    {item : Item} (hmay : x.MayGive pieces item) :
    InStep settings lost pieces pace (x.give item) := by
  obtain ⟨hitem, hanswered⟩ := hmay
  have hlength := h.sends_length_eq hanswered
  have hlt := (List.getElem?_eq_some_iff.1 hitem).1
  rw [length_script] at hlt
  have hquiet : ¬ x.Quiet pieces pace := by
    intro hquiet
    have hgiven := hquiet.given hlength
    omega
  obtain ⟨htime, hrounds⟩ := h.just_now hquiet
  have hfits := hfair.refusal?_eq_none (List.mem_of_getElem? hitem)
  exact
    { h with
      awake := h.awake.call _ _
      sends_length := by
        rw [Loop.give, List.length_append]
        exact Nat.le_add_right_of_le h.sends_length
      sends := h.sends.push (.pending hlength hitem ⟨rfl, rfl, hfits⟩)
      acks := h.acks.call _
      owned := by
        intro i hi
        rcases Session.lt_length_call hi with hi | rfl
        · exact (h.owned i hi).imp_left (List.mem_append_left _)
        · exact .inl (List.mem_append_right _ List.mem_cons_self)
      settled := by
        intro hlate
        change pace.time < x.session.now ∨ _ at hlate
        omega }

/-- The link hands over the packet behind those that the receiver has had, and is given an
acknowledgement. -/
lemma deliver_eq (h : InStep settings lost pieces pace x) {p : Packet}
    (hnext : (survivors lost x.session.packets)[x.seen]? = some p) :
    p ∈ numbered (script pieces) ∧ x.seen < pace.passed ∧
      (x.receiver.accept p).1.delivered = x.seen + 1 ∧
      x.deliver p = { x with
        session := x.session.call (.acknowledge (UInt32.ofNat x.seen))
        receiver := (x.receiver.accept p).1
        output := x.output ++ (x.receiver.accept p).2.output
        acks := x.acks ++ [x.session.calls.length]
        seen := x.seen + 1 } := by
  rw [h.survivors_eq, List.getElem?_take] at hnext
  split_ifs at hnext with hlt
  rw [← h.seen_eq] at hnext
  obtain ⟨hdelivered, hack⟩ := h.follows.accept_next hnext
  rw [h.seen_eq] at hdelivered hack
  refine ⟨List.mem_of_getElem? hnext, hlt, hdelivered, ?_⟩
  rw [deliver]
  dsimp only
  rw [hack]

/-- **The link goes on** with the next packet that gets through. -/
lemma deliver (h : InStep settings lost pieces pace x) (hfair : Fair settings lost pieces)
    {p : Packet} (hmay : x.MayDeliver lost p) :
    InStep settings lost pieces pace (x.deliver p) := by
  obtain ⟨hnext, hanswered⟩ := hmay
  have hbase := h.seen_eq_base hanswered
  obtain ⟨hp, hlt, hdelivered, heq⟩ := h.deliver_eq hnext
  have hquiet : ¬ x.Quiet pieces pace := by
    intro hquiet
    have hpassed := hquiet.passed_eq
    omega
  obtain ⟨htime, hrounds⟩ := h.just_now hquiet
  have hlength := hfair.length_lt
  rw [heq]
  exact
    { h with
      awake := h.awake.call _ _
      follows := h.follows.accept (by omega) hp
      seen_eq := hdelivered
      base_le := Nat.le_succ_of_le h.base_le
      seen_le := hlt
      acks_length := by rw [List.length_append, h.acks_length, List.length_singleton]
      sends := h.sends.call _
      acks := by
        refine h.acks.push ?_
        rw [h.acks_length]
        exact .pending hbase
      owned := by
        intro i hi
        rcases Session.lt_length_call hi with hi | rfl
        · exact (h.owned i hi).imp_right (List.mem_append_left _)
        · exact .inr (List.mem_append_right _ List.mem_cons_self)
      settled := by
        intro hlate
        change pace.time < x.session.now ∨ _ at hlate
        omega }

/-! ## The clock -/

/-- **Where nothing can happen but a jump of the clock**, all is quiet. -/
lemma quiet_of_idle (h : InStep settings lost pieces pace x) (hidle : Session.system.Idle x.session)
    (hgive : ∀ item, ¬ x.MayGive pieces item) (hdeliver : ∀ p, ¬ x.MayDeliver lost p) :
    x.Quiet pieces pace := by
  have hready := (Session.not_ready_of_idle hidle).2
  have hacks : ∀ i ∈ x.acks, (x.session.answerOf? i).isSome = true := by
    intro i hi
    obtain ⟨k, hk⟩ := List.mem_iff_getElem?.1 hi
    obtain ⟨c, hc, hstands⟩ := h.acks k i hk
    have hnot := hready c (List.mem_of_getElem? hc)
    rw [Session.answerOf?, hc, Option.bind_some]
    generalize c.state = state at hstands hnot
    cases hstands with
    | done => rfl
    | pending => cases hnot
  refine ⟨?_, ?_, ?_⟩
  · -- the receiver has had all that got through
    rw [← h.seen_eq_base hacks]
    refine Nat.le_antisymm (Nat.not_lt.1 fun hlt => ?_) h.seen_le
    have hlength : x.seen < (survivors lost x.session.packets).length := by
      have hpassed := h.passed_le
      have hsent := h.sent_le
      rw [h.survivors_eq, List.length_take, numbered, length_numberedFrom, length_script]
      omega
    exact hdeliver _ ⟨List.getElem?_eq_getElem hlength, hacks⟩
  · intro i hi
    obtain ⟨c, hc, hstands⟩ := h.sends _ i hi
    have hnot := hready c (List.mem_of_getElem? hc)
    generalize hstate : c.state = state at hstands hnot
    cases hstands with
    | done hlt => exact absurd hlt (Nat.lt_irrefl _)
    | pending _ _ hasks =>
        cases state with
        | starting => cases hnot
        | sending payload flags notified =>
            cases notified with
            | true => cases hnot
            | false => exact ⟨c, payload, flags, hc, hstate⟩
        | awaiting | joining | returned => cases hasks
  · intro hlength
    have hsends : ∀ i ∈ x.sends, (x.session.answerOf? i).isSome = true := by
      intro i hi
      obtain ⟨k, hk⟩ := List.mem_iff_getElem?.1 hi
      have hlt := (List.getElem?_eq_some_iff.1 hk).1
      obtain ⟨c, hc, hstands⟩ := h.sends k i hk
      rw [Session.answerOf?, hc, Option.bind_some]
      generalize c.state = state at hstands
      cases hstands with
      | done => rfl
      | pending heq => omega
    refine Nat.le_antisymm h.sent_le (Nat.not_lt.1 fun hlt => ?_)
    rw [← hlength, ← length_script] at hlt
    exact hgive _ ⟨List.getElem?_eq_getElem hlt, hsends⟩

/-- Only the timer waits for a time. -/
lemma timer_of_dueAt (h : InStep settings lost pieces pace x) {time : Int}
    (hmem : .dueAt time ∈ Session.system.tasks x.session) :
    x.session.timer = .sleeping time false := by
  rcases List.mem_cons.1 hmem with htimer | hcall
  · rcases h.timer_eq with ⟨hstarting, _⟩ | ⟨wake, hsleeping⟩
    · rw [hstarting] at htimer
      cases htimer
    · rw [hsleeping] at htimer ⊢
      cases htimer
      rfl
  · obtain ⟨c, hc, hdue⟩ := List.mem_map.1 hcall
    obtain ⟨i, hi⟩ := List.mem_iff_getElem?.1 hc
    have hstate : ∀ deadline notified, c.state ≠ .awaiting deadline notified := by
      intro deadline notified hawaiting
      obtain ⟨hlt, _⟩ := List.getElem?_eq_some_iff.1 hi
      rcases h.owned i hlt with hmem | hmem
      · obtain ⟨k, hk⟩ := List.mem_iff_getElem?.1 hmem
        obtain ⟨_, _, _, _, hasks⟩ := h.sends_pending hk hi (hawaiting ▸ rfl)
        rw [hawaiting] at hasks
        exact hasks
      · obtain ⟨k, hk⟩ := List.mem_iff_getElem?.1 hmem
        have hack := (h.acks_pending hk hi (hawaiting ▸ rfl)).2
        rw [hawaiting] at hack
        cases hack
    cases hcase : c.state with
    | awaiting deadline notified => exact absurd hcase (hstate deadline notified)
    | starting | returned =>
        rw [hcase] at hdue
        cases hdue
    | sending payload flags notified =>
        rw [hcase] at hdue
        cases notified <;> cases hdue
    | joining =>
        rw [hcase, CallState.readiness] at hdue
        split_ifs at hdue

/-- **The clock jumps** to the time for which the timer waits. -/
lemma jump (h : InStep settings lost pieces pace x) (hidle : Session.system.Idle x.session)
    (hquiet : x.Quiet pieces pace) {time : Int}
    (hdue : Session.system.nextDue? x.session = some time) :
    x.session.now < time ∧ InStep settings lost pieces pace
      { x with session := Session.system.advanceTo time x.session } := by
  have htimer := h.timer_of_dueAt (Session.system.mem_of_nextDue? hdue).1
  have hlt : x.session.now < time := by
    have hnot := (Session.not_ready_of_idle hidle).1
    rw [htimer] at hnot
    exact Int.not_le.1 (of_decide_eq_false hnot)
  exact ⟨hlt,
    { h with
      awake := h.awake.setNow time
      time_le := Int.le_trans h.time_le (Int.le_of_lt hlt)
      timer_eq := .inr ⟨time, htimer⟩
      in_time := by
        intro hnot
        change x.session.timer.readiness.isReadyAt time = false at hnot
        rw [htimer] at hnot
        exact absurd (Int.le_refl time) (of_decide_eq_false hnot)
      settled := fun _ => hquiet.of_eq rfl rfl rfl rfl }⟩

end InStep

end Loop

end ReliableTransfer
