import ReliableTransfer.Proofs.Schedule
import ReliableTransfer.Proofs.Window.Scan
import ReliableTransfer.Window.Session

/-!
# What a turn of a session does

A turn of a call looks at the sender and then returns or waits (again); a turn of the timer scans,
or sets the timer only.  This file says once what there is to a turn, and everything about sessions is
derived from it.

* `Session.returns`, `Session.handed`, `Session.warned` — who returned what and when, what the link
  was handed, and which numbers were complained about.
* **`Session.Moves`** — where a call may go, with what becomes of the sender and the timer.
* **`Session.resumeCall_eq`**, **`Session.resumeTimer_eq`** — the turns.
-/

namespace ReliableTransfer

/-- The return of a call, with its time, the number of the call, and the answer. -/
def SessionEvent.return? : Int × SessionEvent → Option (Int × Nat × Answer)
  | (time, .returned number answer) => some (time, number, answer)
  | _ => none

/-- The packet that was handed to the link, and when. -/
def SessionEvent.call? : Int × SessionEvent → Option (Int × Packet)
  | (time, .transmitted p _) => some (time, p)
  | _ => none

/-- The number that was complained about, since its retries are used up, and when. -/
def SessionEvent.warning? : Int × SessionEvent → Option (Int × UInt32)
  | (time, .noted (.retriesExceeded _ seq)) => some (time, seq)
  | _ => none

namespace CallState

/-- Whether a call asks the sender to take a payload that is not too long. -/
def Asks (settings : Settings) (payload : Bytes) (flags : Flags) : CallState → Prop
  | starting (.send payload' flags') =>
      payload' = payload ∧ flags' = flags ∧ Sender.refusal? settings payload = none
  | sending payload' flags' _ => payload' = payload ∧ flags' = flags
  | _ => False

/-- Whether a call waits, or is about to, until nothing is in flight. -/
def awaits : CallState → Bool
  | starting (.await _) | awaiting _ _ => true
  | _ => false

/-- Whether a call's turn wakes all others. -/
def wakes : CallState → Bool
  | starting (.acknowledge _) | starting .stop => true
  | _ => false

/-- A call that wants to send wakes nobody. -/
lemma Asks.wakes_eq {settings : Settings} {payload : Bytes} {flags : Flags} :
    ∀ {state : CallState}, state.Asks settings payload flags → state.wakes = false
  | starting (.send _ _), _ => rfl
  | sending _ _ _, _ => rfl

/-- A call that waits for the last acknowledgement wakes nobody. -/
lemma wakes_of_awaits : ∀ {state : CallState}, state.awaits = true → state.wakes = false
  | starting (.await _), _ => rfl
  | awaiting _ _, _ => rfl

/-- What a call that has returned was answered. -/
def answer? : CallState → Option Answer
  | returned answer => some answer
  | _ => none

end CallState

namespace Session

/-- Who returned what, and when. -/
def returns (s : Session) : List (Int × Nat × Answer) :=
  s.timeline.filterMap SessionEvent.return?

/-- What the link was handed, and when. -/
def handed (s : Session) : List (Int × Packet) :=
  s.timeline.filterMap SessionEvent.call?

/-- Which numbers were complained about, and when. -/
def warned (s : Session) : List (Int × UInt32) :=
  s.timeline.filterMap SessionEvent.warning?

/-- The calls after a turn of one that was in this state: all of them woken, or all as they were. -/
def woken (s : Session) (state : CallState) : List Call :=
  if state.wakes then s.notifyProgress.calls else s.calls

/-- **Where a call may go in its turn**, with the sender and the timer afterwards and what the link
is to do. -/
inductive Moves (s : Session) : CallState → CallState → Sender → Timer → List Action → Prop
  /-- A payload that is too long is refused, whatever the state of the sender. -/
  | refuse {payload : Bytes} {flags : Flags} {cause : SendError} :
      Sender.refusal? s.settings payload = some cause →
      Moves s (.starting (.send payload flags)) (.returned (.refused cause)) s.sender s.timer []
  /-- A sender that was stopped takes nothing. -/
  | halt {state : CallState} {payload : Bytes} {flags : Flags} :
      state.Asks s.settings payload flags → s.sender.running = false →
      Moves s state (.returned (.refused .stopped)) s.sender s.timer []
  /-- There is room in the window. -/
  | send {state : CallState} {payload : Bytes} {flags : Flags} :
      state.Asks s.settings payload flags → s.sender.running = true →
      s.sender.hasRoom s.settings = true →
      Moves s state (.returned (.sent s.sender.next)) (s.sender.send s.now payload flags).1 s.timer
        [.transmit (s.sender.packet payload flags)]
  /-- The window is full. -/
  | block {state : CallState} {payload : Bytes} {flags : Flags} :
      state.Asks s.settings payload flags → s.sender.running = true →
      s.sender.hasRoom s.settings = false →
      Moves s state (.sending payload flags false) s.sender s.timer []
  /-- An acknowledgement is taken. -/
  | acknowledge (number : UInt32) :
      Moves s (.starting (.acknowledge number)) (.returned .acknowledged)
        (s.sender.acknowledge number) s.timer []
  /-- Nothing is in flight. -/
  | complete {state : CallState} : state.awaits = true → s.sender.allAcked = true →
      Moves s state (.returned (.awaited true)) s.sender s.timer []
  /-- The time is up. -/
  | expire {deadline : Int} {notified : Bool} :
      s.sender.allAcked = false → deadline ≤ s.now →
      Moves s (.awaiting deadline notified) (.returned (.awaited false)) s.sender s.timer []
  /-- A call begins to wait for the last acknowledgement. -/
  | await (timeout : Int) : s.sender.allAcked = false →
      Moves s (.starting (.await timeout)) (.awaiting (s.now + timeout) false) s.sender s.timer []
  /-- It goes on waiting. -/
  | resume {deadline : Int} {notified : Bool} : s.sender.allAcked = false → s.now < deadline →
      Moves s (.awaiting deadline notified) (.awaiting deadline false) s.sender s.timer []
  /-- The sender is stopped; the timer has ended already. -/
  | stop : s.timer = .ended →
      Moves s (.starting .stop) (.returned .stopped) s.sender.stop .ended []
  /-- The sender is stopped, and the call waits for the timer. -/
  | stopping : s.timer ≠ .ended →
      Moves s (.starting .stop) .joining s.sender.stop s.timer.notify []
  /-- The timer has ended. -/
  | join : Moves s .joining (.returned .stopped) s.sender s.timer []

/-! ## What the link leaves in the timeline -/

/-- What the sender does is no return. -/
lemma perform_link (action : Action) (s : Session) :
    ∃ timeline transmissions, action.perform link s = { s with timeline, transmissions } ∧
      timeline.filterMap SessionEvent.return? = s.returns ∧
      timeline.filterMap SessionEvent.call?
        = s.handed ++ (action.packet?.map (s.now, ·)).toList ∧
      timeline.filterMap SessionEvent.warning?
        = s.warned ++ (action.warning?.map (s.now, ·)).toList := by
  cases action with
  | transmit p =>
      simp only [Action.perform, link]
      cases !s.failing.contains s.transmissions with
      | true => exact ⟨_, _, rfl, by simp [happen, returns, SessionEvent.return?],
          by simp [happen, handed, SessionEvent.call?, Action.packet?],
          by simp [happen, warned, SessionEvent.warning?, Action.warning?]⟩
      | false => exact ⟨_, _, rfl, by simp [happen, returns, SessionEvent.return?],
          by simp [happen, handed, SessionEvent.call?, Action.packet?],
          by simp [happen, warned, SessionEvent.warning?, Action.warning?]⟩
  | retransmit p =>
      simp only [Action.perform, link]
      cases !s.failing.contains s.transmissions with
      | true => exact ⟨_, _, rfl, by simp [happen, returns, SessionEvent.return?],
          by simp [happen, handed, SessionEvent.call?, Action.packet?],
          by simp [happen, warned, SessionEvent.warning?, Action.warning?]⟩
      | false => exact ⟨_, _, rfl, by simp [happen, returns, SessionEvent.return?],
          by simp [happen, handed, SessionEvent.call?, Action.packet?],
          by simp [happen, warned, SessionEvent.warning?, Action.warning?]⟩
  | giveUp maxRetries seq =>
      exact ⟨_, _, rfl, by simp [returns, SessionEvent.return?],
        by simp [handed, SessionEvent.call?, Action.packet?],
        by simp [warned, SessionEvent.warning?, Action.warning?]⟩

/-- **The actions of the sender** are packets and complaints in the timeline, and no return. -/
lemma performAll_link (actions : List Action) (s : Session) :
    ∃ timeline transmissions,
      performAll link actions s = { s with timeline, transmissions } ∧
      timeline.filterMap SessionEvent.return? = s.returns ∧
      timeline.filterMap SessionEvent.call?
        = s.handed ++ (actions.filterMap Action.packet?).map (s.now, ·) ∧
      timeline.filterMap SessionEvent.warning?
        = s.warned ++ (actions.filterMap Action.warning?).map (s.now, ·) := by
  induction actions generalizing s with
  | nil =>
      exact ⟨s.timeline, s.transmissions, rfl, rfl, (List.append_nil _).symm,
        (List.append_nil _).symm⟩
  | cons action actions ih =>
      obtain ⟨timeline, transmissions, hfirst, hreturns, hhanded, hwarned⟩ := perform_link action s
      obtain ⟨timeline', transmissions', hrest, hreturns', hhanded', hwarned'⟩ :=
        ih { s with timeline, transmissions }
      refine ⟨timeline', transmissions', ?_, hreturns'.trans hreturns, ?_, ?_⟩
      · rw [performAll_cons, hfirst, hrest]
      · rw [hhanded', show handed { s with timeline, transmissions } = _ from hhanded,
          List.filterMap_cons, List.append_assoc]
        cases action.packet? <;> rfl
      · rw [hwarned', show warned { s with timeline, transmissions } = _ from hwarned,
          List.filterMap_cons, List.append_assoc]
        cases action.warning? <;> rfl

/-! ## Turns of a call -/

variable {s : Session} {i : Nat} {c : Call}

lemma answer_eq (hc : s.calls[i]? = some c) (a : Answer) : s.answer i a = { s with
    calls := s.calls.modify i fun c => { c with state := .returned a }
    timeline := s.timeline ++ [(s.now, .returned c.number a)] } := by
  rw [answer, hc]
  rfl

/-- What a turn makes of a session, when it goes this way. -/
structure Turned (s : Session) (i : Nat) (c : Call) (state : CallState) (sender : Sender)
    (timer : Timer) (actions : List Action) (s' : Session) : Prop where
  settings_eq : s'.settings = s.settings
  failing_eq : s'.failing = s.failing
  now_eq : s'.now = s.now
  sender_eq : s'.sender = sender
  timer_eq : s'.timer = timer
  calls_eq : s'.calls = (s.woken c.state).modify i fun c => { c with state }
  returns_eq : s'.returns = s.returns ++ (state.answer?.map (s.now, c.number, ·)).toList
  handed_eq : s'.handed = s.handed ++ (actions.filterMap Action.packet?).map (s.now, ·)
  warned_eq : s'.warned = s.warned

namespace Turned

/-- A call that looks at the sender and returns. -/
lemma answer (hc : s.calls[i]? = some c) (hwakes : c.state.wakes = false) (a : Answer) :
    Turned s i c (.returned a) s.sender s.timer [] (s.answer i a) := by
  rw [answer_eq hc]
  refine ⟨rfl, rfl, rfl, rfl, rfl, ?_, ?_, ?_, ?_⟩
  · rw [woken, hwakes]
    rfl
  · simp [returns, SessionEvent.return?, CallState.answer?]
  · simp [handed, SessionEvent.call?]
  · simp [warned, SessionEvent.warning?]

/-- A call that looks at the sender and waits. -/
lemma setCall (hwakes : c.state.wakes = false) {state : CallState}
    (hanswer : state.answer? = none) :
    Turned s i c state s.sender s.timer [] (s.setCall i state) := by
  refine ⟨rfl, rfl, rfl, rfl, rfl, ?_, ?_, ?_, rfl⟩
  · rw [woken, hwakes]
    rfl
  · rw [hanswer]
    exact (List.append_nil _).symm
  · exact (List.append_nil _).symm

/-- A call that gives the sender an order, wakes all others and returns. -/
lemma answer_woken (hc : s.calls[i]? = some c) (hwakes : c.state.wakes = true) (sender : Sender)
    (timer : Timer) (a : Answer) :
    Turned s i c (.returned a) sender timer []
      ((Session.notifyProgress { s with sender, timer }).answer i a) := by
  have hc' : (Session.notifyProgress { s with sender, timer }).calls[i]?
      = some { c with state := c.state.notify } := by
    show (s.calls.map _)[i]? = _
    rw [List.getElem?_map, hc]
    rfl
  rw [Session.answer, hc']
  refine ⟨rfl, rfl, rfl, rfl, rfl, ?_, ?_, ?_, ?_⟩
  · rw [woken, hwakes]
    rfl
  · show (s.timeline ++ _).filterMap _ = _
    rw [List.filterMap_append]
    rfl
  · show (s.timeline ++ _).filterMap _ = _
    rw [List.filterMap_append]
    rfl
  · show (s.timeline ++ _).filterMap _ = _
    rw [List.filterMap_append]
    exact List.append_nil _

end Turned

lemma trySend_eq (hc : s.calls[i]? = some c) {payload : Bytes} {flags : Flags}
    (hasks : c.state.Asks s.settings payload flags) :
    ∃ state sender timer actions, Moves s c.state state sender timer actions ∧
      Turned s i c state sender timer actions (s.trySend i payload flags) := by
  have hwakes := hasks.wakes_eq
  rw [trySend]
  cases hrunning : s.sender.running with
  | false => exact ⟨_, _, _, _, .halt hasks hrunning, .answer hc hwakes _⟩
  | true =>
      cases hroom : s.sender.hasRoom s.settings with
      | false => exact ⟨_, _, _, _, .block hasks hrunning hroom, .setCall hwakes rfl⟩
      | true =>
          refine ⟨_, _, _, _, .send hasks hrunning hroom, ?_⟩
          obtain ⟨timeline, transmissions, hperform, hreturns, hhanded, hwarned⟩ :=
            performAll_link [.transmit (s.sender.packet payload flags)]
              { s with sender := (s.sender.send s.now payload flags).1 }
          show Turned s i c _ _ _ _ ((performAll link [.transmit (s.sender.packet payload flags)]
            { s with sender := (s.sender.send s.now payload flags).1 }).answer i _)
          rw [hperform]
          rw [answer_eq (s := { s with
            sender := (s.sender.send s.now payload flags).1, timeline, transmissions }) hc]
          refine ⟨rfl, rfl, rfl, rfl, rfl, ?_, ?_, ?_, ?_⟩
          · rw [woken, hwakes]
            rfl
          · show (timeline ++ _).filterMap _ = _
            rw [List.filterMap_append, hreturns]
            rfl
          · show (timeline ++ _).filterMap _ = _
            rw [List.filterMap_append, hhanded]
            exact List.append_nil _
          · show (timeline ++ _).filterMap _ = _
            rw [List.filterMap_append, hwarned]
            exact (List.append_nil _).trans (List.append_nil _)

/-- **A turn of a call** that has not returned yet. -/
lemma resumeCall_eq (hc : s.calls[i]? = some c) (hstate : c.state.answer? = none) :
    ∃ state sender timer actions, Moves s c.state state sender timer actions ∧
      Turned s i c state sender timer actions (s.resumeCall i) := by
  obtain ⟨number, state⟩ := c
  rw [resumeCall, hc]
  cases state with
  | starting op =>
      cases op with
      | send payload flags =>
          dsimp only
          rw [begin]
          cases hrefusal : Sender.refusal? s.settings payload with
          | some cause => exact ⟨_, _, _, _, .refuse hrefusal, .answer hc rfl _⟩
          | none => exact trySend_eq hc ⟨rfl, rfl, hrefusal⟩
      | acknowledge number =>
          exact ⟨_, _, _, _, .acknowledge number,
            .answer_woken hc rfl (s.sender.acknowledge number) s.timer _⟩
      | await timeout =>
          dsimp only
          rw [begin, tryComplete]
          cases hacked : s.sender.allAcked with
          | true => exact ⟨_, _, _, _, .complete rfl hacked, .answer hc rfl _⟩
          | false => exact ⟨_, _, _, _, .await timeout hacked, .setCall rfl rfl⟩
      | stop =>
          dsimp only
          rw [begin]
          cases htimer : s.timer with
          | ended => exact ⟨_, _, _, _, .stop htimer, .answer_woken hc rfl s.sender.stop .ended _⟩
          | starting =>
              refine ⟨_, _, _, _, .stopping (by rw [htimer]; nofun), ?_⟩
              rw [htimer]
              exact ⟨rfl, rfl, rfl, rfl, rfl, rfl, (List.append_nil _).symm,
                (List.append_nil _).symm, rfl⟩
          | sleeping wake notified =>
              refine ⟨_, _, _, _, .stopping (by rw [htimer]; nofun), ?_⟩
              rw [htimer]
              exact ⟨rfl, rfl, rfl, rfl, rfl, rfl, (List.append_nil _).symm,
                (List.append_nil _).symm, rfl⟩
  | sending payload flags notified => exact trySend_eq hc ⟨rfl, rfl⟩
  | awaiting deadline notified =>
      dsimp only
      rw [tryComplete]
      cases hacked : s.sender.allAcked with
      | true => exact ⟨_, _, _, _, .complete rfl hacked, .answer hc rfl _⟩
      | false =>
          by_cases hdue : deadline ≤ s.now
          · refine ⟨_, _, _, _, .expire hacked hdue, ?_⟩
            rw [if_neg Bool.false_ne_true, if_pos (by simpa using hdue)]
            exact .answer hc rfl _
          · refine ⟨_, _, _, _, .resume hacked (Int.not_le.1 hdue), ?_⟩
            rw [if_neg Bool.false_ne_true, if_neg (by simpa using hdue)]
            exact .setCall rfl rfl
  | joining => exact ⟨_, _, _, _, .join, .answer hc rfl _⟩
  | returned a => cases hstate

/-- **The call whose turn it is** can run, and no call before it can. -/
lemma exists_call_of_firstReady? (h : system.firstReady? s = some (i + 1)) :
    ∃ c, s.calls[i]? = some c ∧ (c.state.readiness s.timer).isReadyAt s.now = true ∧
      c.state.answer? = none ∧ ∀ j c', j < i → s.calls[j]? = some c' →
        (c'.state.readiness s.timer).isReadyAt s.now = false := by
  obtain ⟨r, hr, hready⟩ := system.ready_of_firstReady? h
  have htask : ∀ j, (system.tasks s)[j + 1]? = s.calls[j]?.map (·.state.readiness s.timer) := by
    intro j
    show (s.calls.map _)[j]? = _
    rw [List.getElem?_map]
  rw [htask, Option.map_eq_some_iff] at hr
  obtain ⟨c, hc, rfl⟩ := hr
  refine ⟨c, hc, hready, ?_, ?_⟩
  · cases hstate : c.state with
    | returned a =>
        rw [hstate] at hready
        cases hready
    | _ => rfl
  · intro j c' hj hc'
    refine system.not_ready_of_lt_firstReady? h (Nat.succ_lt_succ hj) ?_
    rw [htask, hc']
    rfl

/-- Where all tasks are blocked, so are the timer and every call. -/
lemma not_ready_of_idle (h : system.Idle s) : s.timer.readiness.isReadyAt s.now = false ∧
    ∀ c ∈ s.calls, (c.state.readiness s.timer).isReadyAt s.now = false :=
  ⟨h.not_ready List.mem_cons_self,
    fun _ hc => h.not_ready (List.mem_cons_of_mem _ (List.mem_map_of_mem hc))⟩

/-! ## Turns of the timer -/

/-- What a turn of the timer makes of a session: the timer and the sender change, no call does. -/
structure Ticked (s : Session) (timer : Timer) (sender : Sender) (actions : List Action)
    (s' : Session) : Prop where
  settings_eq : s'.settings = s.settings
  failing_eq : s'.failing = s.failing
  now_eq : s'.now = s.now
  sender_eq : s'.sender = sender
  timer_eq : s'.timer = timer
  calls_eq : s'.calls = s.calls
  returns_eq : s'.returns = s.returns
  handed_eq : s'.handed = s.handed ++ (actions.filterMap Action.packet?).map (s.now, ·)
  warned_eq : s'.warned = s.warned ++ (actions.filterMap Action.warning?).map (s.now, ·)

/-- **A turn of the timer** is what the timer has to do. -/
lemma resumeTimer_eq (s : Session) : ∃ timer sender actions,
    s.timer.resume s.settings s.now s.sender = (timer, sender, actions) ∧
      Ticked s timer sender actions s.resumeTimer := by
  rw [resumeTimer]
  obtain ⟨timer, sender, actions⟩ := s.timer.resume s.settings s.now s.sender
  obtain ⟨timeline, transmissions, hperform, hreturns, hhanded, hwarned⟩ :=
    performAll_link actions { s with timer, sender }
  refine ⟨timer, sender, actions, rfl, ?_⟩
  dsimp only
  rw [hperform]
  exact ⟨rfl, rfl, rfl, rfl, rfl, rfl, hreturns, hhanded, hwarned⟩

end Session

end ReliableTransfer
