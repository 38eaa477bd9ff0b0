import ReliableTransfer.Proofs.Window.Progress
import ReliableTransfer.Proofs.Window.Timetable

/-!
# What an instruction does to the sender

While a session at work runs from one instruction to the next, its sender is scanned at every
multiple of the poll interval, if time runs on, or takes an acknowledgement and then some packets,
if a call is made.  Who waits for what in the meantime makes no difference to that.

* `Session.Pulse` — the sender, the time of the next scan, and what has come of it so far.
* `Session.Moves.begun`, `Session.Moves.first` — where a call may go, seen from the sender.
* `Session.Beating` — a session at work, with its timer asleep.
* `Session.Beating.advance`, `Session.Beating.serve` — what happens while time runs on, and while
  the calls have their turns.
* `Session.Halted` — what happens after the stop: nothing.
* **`Session.Followed`**, `Session.followed_of_play` — one instruction.
-/

namespace ReliableTransfer

namespace CallState

/-- Whether a call does nothing with the sender before it is woken. -/
def isDormant : CallState → Bool
  | starting _ | sending _ _ true => false
  | _ => true

/-- A call that can run now and would do something with the sender was woken. -/
lemma Asks.isDormant_eq {settings : Settings} {payload : Bytes} {flags : Flags} {timer : Timer}
    {now : Int} : ∀ {state : CallState}, state.Asks settings payload flags →
      (state.readiness timer).isReadyAt now = true → state.isDormant = false
  | starting _, _, _ => rfl
  | sending _ _ true, _, _ => rfl

/-- A new call that has something to send is a call to send it. -/
lemma Asks.op_eq {settings : Settings} {payload : Bytes} {flags : Flags} :
    ∀ {op : Operation}, (starting op).Asks settings payload flags → op = .send payload flags
  | .send _ _, ⟨rfl, rfl, _⟩ => rfl

/-- A blocked call is dormant. -/
lemma isDormant_of_not_ready {timer : Timer} {now : Int} :
    ∀ {state : CallState}, (state.readiness timer).isReadyAt now = false → state.isDormant = true
  | sending _ _ false, _ => rfl
  | awaiting _ _, _ => rfl
  | joining, _ => rfl
  | returned _, _ => rfl

end CallState

namespace Session

/-! ## The sender and its timer -/

/-- **The sender**, the time of the next scan, and what the link was handed and which numbers were
complained about so far. -/
structure Pulse where
  wake : Int
  sender : Sender
  handed : List (Int × Packet)
  warned : List (Int × UInt32)

namespace Pulse

/-- The next scan. -/
def scan (settings : Settings) (x : Pulse) : Pulse where
  wake := x.wake + settings.poll
  sender := (x.sender.scan settings x.wake).1
  handed :=
    x.handed ++ ((x.sender.scan settings x.wake).2.filterMap Action.packet?).map (x.wake, ·)
  warned :=
    x.warned ++ ((x.sender.scan settings x.wake).2.filterMap Action.warning?).map (x.wake, ·)

lemma packetsSent_iterate_scan (settings : Settings) (m : Nat) (x : Pulse) :
    ((Pulse.scan settings)^[m] x).sender.packetsSent = x.sender.packetsSent := by
  induction m with
  | zero => rfl
  | succ m ih =>
      rw [Function.iterate_succ_apply']
      exact ih

/-- A packet is sent. -/
def send (now : Int) (payload : Bytes) (flags : Flags) (x : Pulse) : Pulse :=
  { x with
    sender := (x.sender.send now payload flags).1
    handed := x.handed ++ [(now, x.sender.packet payload flags)] }

/-- What a call does to the sender before it comes to sending. -/
def order : Operation → Pulse → Pulse
  | .acknowledge number, x => { x with sender := x.sender.acknowledge number }
  | _, x => x

section

variable (op : Operation) (x : Pulse)

@[simp] lemma wake_order : (x.order op).wake = x.wake := by cases op <;> rfl

@[simp] lemma handed_order : (x.order op).handed = x.handed := by cases op <;> rfl

@[simp] lemma warned_order : (x.order op).warned = x.warned := by cases op <;> rfl

@[simp] lemma packetsSent_order : (x.order op).sender.packetsSent = x.sender.packetsSent := by
  cases op <;> rfl

lemma numbers_order_subset : (x.order op).sender.numbers ⊆ x.sender.numbers := by
  cases op with
  | acknowledge number =>
      rw [order, Sender.numbers_acknowledge]
      exact List.filter_subset_self _
  | send | await | stop => exact List.Subset.refl _

end

/-- The second comes of the first by packets that are sent at one time. -/
abbrev Sends (now : Int) : Pulse → Pulse → Prop :=
  Relation.ReflTransGen fun x y => ∃ payload flags, y = x.send now payload flags

end Pulse

/-- When the timer wakes. -/
def wake (s : Session) : Int :=
  match s.timer with
  | .sleeping wake _ => wake
  | _ => 0

/-- What the timer and the sender of a session come to. -/
def pulse (s : Session) : Pulse :=
  ⟨s.wake, s.sender, s.handed, s.warned⟩

variable {settings : Settings} {failing : List Nat} {done : List Instruction} {limit : Option Int}
  {s s' : Session} {i : Nat} {c : Call} {before state : CallState} {sender : Sender}
  {timer : Timer} {actions : List Action}

/-! ## Where a call may go -/

/-- **A call that has begun** leaves the timer and the sender alone, or it sends a packet. -/
lemma Moves.begun (hm : Moves s before state sender timer actions)
    (hbegun : ∀ op, before ≠ .starting op)
    (hready : (before.readiness s.timer).isReadyAt s.now = true) :
    timer = s.timer ∧ before.wakes = false ∧ (∀ op, state ≠ .starting op) ∧
      ((sender = s.sender ∧ actions = [] ∧ state.isDormant = true) ∨
        (before.isDormant = false ∧ ∃ payload flags,
          sender = (s.sender.send s.now payload flags).1 ∧
          actions = [.transmit (s.sender.packet payload flags)])) := by
  cases hm with
  | refuse | acknowledge | await | stop | stopping => exact absurd rfl (hbegun _)
  | halt hasks => exact ⟨rfl, hasks.wakes_eq, nofun, .inl ⟨rfl, rfl, rfl⟩⟩
  | send hasks =>
      exact ⟨rfl, hasks.wakes_eq, nofun, .inr ⟨hasks.isDormant_eq hready, _, _, rfl, rfl⟩⟩
  | block hasks => exact ⟨rfl, hasks.wakes_eq, nofun, .inl ⟨rfl, rfl, rfl⟩⟩
  | complete hawaits =>
      exact ⟨rfl, CallState.wakes_of_awaits hawaits, nofun, .inl ⟨rfl, rfl, rfl⟩⟩
  | expire | resume | join => exact ⟨rfl, rfl, nofun, .inl ⟨rfl, rfl, rfl⟩⟩

/-- **The first turn of a call** stops the sender, or it gives an order and may send a packet. -/
lemma Moves.first {op : Operation} (hm : Moves s (.starting op) state sender timer actions) :
    (op = .stop ∧ sender.running = false ∧ actions = []) ∨
    (op ≠ .stop ∧ timer = s.timer ∧ sender.running = s.sender.running ∧
      (∀ op', state ≠ .starting op') ∧
      ((sender = (s.pulse.order op).sender ∧ actions = []) ∨
        ∃ payload flags, op = .send payload flags ∧
          sender = (s.sender.send s.now payload flags).1 ∧
          actions = [.transmit (s.sender.packet payload flags)])) := by
  cases hm with
  | refuse => exact .inr ⟨nofun, rfl, rfl, nofun, .inl ⟨rfl, rfl⟩⟩
  | halt hasks | block hasks =>
      obtain rfl := hasks.op_eq
      exact .inr ⟨nofun, rfl, rfl, nofun, .inl ⟨rfl, rfl⟩⟩
  | send hasks =>
      obtain rfl := hasks.op_eq
      exact .inr ⟨nofun, rfl, rfl, nofun, .inr ⟨_, _, rfl, rfl, rfl⟩⟩
  | acknowledge => exact .inr ⟨nofun, rfl, rfl, nofun, .inl ⟨rfl, rfl⟩⟩
  | complete hawaits =>
      cases op with
      | await => exact .inr ⟨nofun, rfl, rfl, nofun, .inl ⟨rfl, rfl⟩⟩
      | send | acknowledge | stop => cases hawaits
  | await => exact .inr ⟨nofun, rfl, rfl, nofun, .inl ⟨rfl, rfl⟩⟩
  | stop | stopping => exact .inl ⟨rfl, rfl, rfl⟩

/-! ## A session at work -/

/-- **A sender at work**, with its timer asleep until the next multiple of the poll interval. -/
structure Timed (settings : Settings) (s : Session) : Prop where
  settings_eq : s.settings = settings
  running : s.sender.running = true
  timer_eq : s.timer = .sleeping s.wake false
  dvd : settings.poll ∣ s.wake
  now_le : s.now ≤ s.wake
  le_now : s.wake - settings.poll ≤ s.now

/-- **A session at work**, all of whose calls have begun. -/
structure Beating (settings : Settings) (s : Session) : Prop extends s.Timed settings where
  begun : ∀ c ∈ s.calls, ∀ op, c.state ≠ .starting op

/-- No call will do anything with the sender before it is woken. -/
def Dormant (s : Session) : Prop :=
  ∀ c ∈ s.calls, c.state.isDormant = true

namespace Timed

/-- What a turn of a call that leaves the timer alone makes of it. -/
lemma turned (hb : s.Timed settings) (ht : Turned s i c state sender s.timer actions s')
    (hrunning : sender.running = true) :
    s'.Timed settings ∧ s'.pulse = ⟨s.wake, sender,
      s.handed ++ (actions.filterMap Action.packet?).map (s.now, ·), s.warned⟩ := by
  have hwake : s'.wake = s.wake := by rw [wake, ht.timer_eq, wake]
  refine ⟨⟨?_, ?_, ?_, ?_, ?_, ?_⟩, ?_⟩
  · rw [ht.settings_eq, hb.settings_eq]
  · rw [ht.sender_eq, hrunning]
  · rw [ht.timer_eq, hwake]
    exact hb.timer_eq
  · rw [hwake]
    exact hb.dvd
  · rw [hwake, ht.now_eq]
    exact hb.now_le
  · rw [hwake, ht.now_eq]
    exact hb.le_now
  · rw [pulse, hwake, ht.sender_eq, ht.handed_eq, ht.warned_eq]

/-- **A turn of the timer** is a scan. -/
lemma resumeTimer (hpoll : 1 ≤ settings.poll) (hb : s.Timed settings)
    (hready : s.timer.readiness.isReadyAt s.now = true) :
    s.resumeTimer.Timed settings ∧ s.resumeTimer.calls = s.calls ∧ s.resumeTimer.now = s.now ∧
      s.resumeTimer.pulse = s.pulse.scan settings := by
  obtain ⟨timer, sender, actions, hresume, ht⟩ := s.resumeTimer_eq
  -- the timer is due, and not a moment later
  have hnow : s.wake = s.now := by
    rw [hb.timer_eq] at hready
    exact Int.le_antisymm (of_decide_eq_true hready) hb.now_le
  rw [hb.timer_eq, hb.settings_eq, Timer.resume_sleeping hb.running (Int.le_of_eq hnow)] at hresume
  obtain ⟨rfl, rfl, rfl⟩ := Prod.mk.inj hresume |>.imp_right Prod.mk.inj
  have hwake : s.resumeTimer.wake = s.wake + settings.poll := by
    rw [wake, ht.timer_eq, hnow]
  refine ⟨⟨?_, ?_, ?_, ?_, ?_, ?_⟩, ht.calls_eq, ht.now_eq, ?_⟩
  · rw [ht.settings_eq, hb.settings_eq]
  · rw [ht.sender_eq]
    exact hb.running
  · rw [ht.timer_eq, hwake, hnow]
  · rw [hwake]
    exact Int.dvd_add hb.dvd (Int.dvd_refl _)
  · rw [hwake, ht.now_eq]
    omega
  · rw [hwake, ht.now_eq]
    omega
  · rw [pulse, hwake, ht.sender_eq, ht.handed_eq, ht.warned_eq, ← hnow]
    rfl

/-- The clock moves on, but not past the next scan. -/
lemma setNow (hb : s.Timed settings) {time : Int} (hle : s.now ≤ time) (hwake : time ≤ s.wake) :
    ({ s with now := time } : Session).Timed settings :=
  ⟨hb.settings_eq, hb.running, hb.timer_eq, hb.dvd, hwake, Int.le_trans hb.le_now hle⟩

/-- When all tasks are blocked, the next scan is yet to come. -/
lemma lt_wake (hb : s.Timed settings) (hidle : system.Idle s) : s.now < s.wake := by
  have hready := (not_ready_of_idle hidle).1
  rw [hb.timer_eq] at hready
  exact Int.not_le.1 (of_decide_eq_false hready)

/-- Somebody waits for the next scan. -/
lemma dueAt_mem (hb : s.Timed settings) : .dueAt s.wake ∈ system.tasks s := by
  refine List.mem_cons.2 (.inl ?_)
  rw [hb.timer_eq]
  rfl

/-- A jump of the clock. -/
lemma jump (hb : s.Timed settings) (hidle : system.Idle s) {time : Int}
    (hdue : system.nextDue? s = some time) :
    ({ s with now := time } : Session).Timed settings :=
  hb.setNow (Int.le_of_lt (due_cases hidle hdue).1)
    ((system.mem_of_nextDue? hdue).2 s.wake hb.dueAt_mem)

end Timed

namespace Beating

/-- **A turn of a call** that has begun. -/
lemma resumeCall (hb : s.Beating settings) (hfirst : system.firstReady? s = some (i + 1)) :
    (s.resumeCall i).Beating settings ∧ (s.resumeCall i).now = s.now ∧
      (((s.resumeCall i).pulse = s.pulse ∧ (s.Dormant → (s.resumeCall i).Dormant)) ∨
        (¬ s.Dormant ∧
          ∃ payload flags, (s.resumeCall i).pulse = s.pulse.send s.now payload flags)) := by
  obtain ⟨c, hc, hready, hstate, _⟩ := exists_call_of_firstReady? hfirst
  obtain ⟨state, sender, timer, actions, hm, ht⟩ := resumeCall_eq hc hstate
  have hmem := List.mem_of_getElem? hc
  obtain ⟨rfl, hwakes, hbegun, hsender⟩ := hm.begun (hb.begun c hmem) hready
  have hrunning : sender.running = true := by
    rcases hsender with ⟨rfl, _⟩ | ⟨_, payload, flags, rfl, _⟩
    · exact hb.running
    · exact hb.running
  obtain ⟨htimed, hpulse⟩ := hb.turned ht hrunning
  refine ⟨⟨htimed, fun c' hc' => ?_⟩, ht.now_eq, ?_⟩
  · rcases ht.mem_calls hc' with hsame | hold
    · rw [hsame]
      exact hbegun
    · rw [woken_of_not_wakes hwakes] at hold
      exact hb.begun c' hold
  rcases hsender with ⟨rfl, rfl, hdormant⟩ | ⟨hawake, payload, flags, rfl, rfl⟩
  · refine .inl ⟨by simpa [pulse] using hpulse, fun h c' hc' => ?_⟩
    rcases ht.mem_calls hc' with hsame | hold
    · rw [hsame]
      exact hdormant
    · rw [woken_of_not_wakes hwakes] at hold
      exact h c' hold
  · refine .inr ⟨fun h => ?_, payload, flags, hpulse⟩
    rw [h c hmem] at hawake
    cases hawake

/-- **While time runs on** and nobody is woken, there are scans one poll apart and nothing else. -/
lemma advance {time : Int} (hpoll : 1 ≤ settings.poll) (hb : s.Beating settings)
    (hdormant : s.Dormant) (hle : s.now ≤ time) (hpasses : system.Passes (some time) s s') :
    s'.Beating settings ∧ s'.Dormant ∧ s'.now ≤ time ∧
      ∃ m, s'.pulse = (Pulse.scan settings)^[m] s.pulse := by
  induction hpasses with
  | refl => exact ⟨hb, hdormant, hle, 0, rfl⟩
  | @tail t t' _ hstep ih =>
      obtain ⟨hb, hdormant, hle, m, hpulse⟩ := ih
      rcases system.step?_eq_some hstep with ⟨task, htask, rfl⟩ | ⟨next, hidle, hdue, hwithin, rfl⟩
      · cases task with
        | zero =>
            obtain ⟨readiness, hmem, hready⟩ := system.ready_of_firstReady? htask
            obtain rfl : t.timer.readiness = readiness := Option.some.inj hmem
            obtain ⟨htimed, hcalls, hnow, hscan⟩ := hb.resumeTimer hpoll hready
            refine ⟨⟨htimed, ?_⟩, ?_, Int.le_trans (Int.le_of_eq hnow) hle, m + 1, ?_⟩
            · show ∀ c ∈ t.resumeTimer.calls, _
              rw [hcalls]
              exact hb.begun
            · show ∀ c ∈ t.resumeTimer.calls, _
              rw [hcalls]
              exact hdormant
            · rw [Function.iterate_succ_apply', ← hpulse]
              exact hscan
        | succ i =>
            obtain ⟨hb', hnow, ⟨hsame, hkept⟩ | ⟨hawake, _⟩⟩ := hb.resumeCall htask
            · exact ⟨hb', hkept hdormant, Int.le_trans (Int.le_of_eq hnow) hle, m,
                hsame.trans hpulse⟩
            · exact absurd hdormant hawake
      · exact ⟨⟨hb.jump hidle hdue, hb.begun⟩, hdormant, of_decide_eq_true hwithin, m, hpulse⟩

/-- **While the calls have their turns** and no scan is due, packets are sent and nothing else. -/
lemma serve {time : Int} (hb : s.Beating settings) (hnow : s.now = time) (hlt : time < s.wake)
    (hpasses : system.Passes (some time) s s') :
    s'.Beating settings ∧ s'.now = time ∧ s'.wake = s.wake ∧ Pulse.Sends time s.pulse s'.pulse := by
  induction hpasses with
  | refl => exact ⟨hb, hnow, rfl, .refl⟩
  | @tail t t' _ hstep ih =>
      obtain ⟨hb, hnow, hwake, hsends⟩ := ih
      rcases system.step?_eq_some hstep with ⟨task, htask, rfl⟩ | ⟨time', hidle, hdue, hwithin, rfl⟩
      · cases task with
        | zero =>
            obtain ⟨readiness, hmem, hready⟩ := system.ready_of_firstReady? htask
            obtain rfl : t.timer.readiness = readiness := Option.some.inj hmem
            rw [hb.timer_eq, hwake] at hready
            have hdue : s.wake ≤ t.now := of_decide_eq_true hready
            omega
        | succ i =>
            obtain ⟨hb', hnow', ⟨hsame, _⟩ | ⟨_, payload, flags, hsend⟩⟩ := hb.resumeCall htask
            · refine ⟨hb', hnow'.trans hnow, (congrArg Pulse.wake hsame).trans hwake, ?_⟩
              rw [show (system.resume (i + 1) t).pulse = t.pulse from hsame]
              exact hsends
            · rw [hnow] at hsend
              exact ⟨hb', hnow'.trans hnow, (congrArg Pulse.wake hsend).trans hwake,
                hsends.tail ⟨payload, flags, hsend⟩⟩
      · have hbeyond := (due_cases hidle hdue).1
        have hle : time' ≤ time := of_decide_eq_true hwithin
        omega

end Beating

/-! ## After the stop -/

/-- The sender does nothing any more that shows. -/
structure Halted (s s' : Session) : Prop where
  stopped : s'.sender.running = false
  packetsSent_eq : s'.sender.packetsSent = s.sender.packetsSent
  handed_eq : s'.handed = s.handed
  warned_eq : s'.warned = s.warned

/-- A call sends nothing once the sender was stopped. -/
lemma Moves.actions_eq (hm : Moves s before state sender timer actions)
    (hstopped : sender.running = false) :
    actions = [] ∧ sender.packetsSent = s.sender.packetsSent := by
  cases hm with
  | send _ hrunning =>
      have hrunning' : s.sender.running = false := hstopped
      rw [hrunning] at hrunning'
      cases hrunning'
  | _ => exact ⟨rfl, rfl⟩

/-- **After the stop** nothing is sent, and no number is complained about. -/
lemma halted_of_passes (hstopped : s.sender.running = false)
    (hpasses : system.Passes limit s s') : Halted s s' := by
  induction hpasses with
  | refl => exact ⟨hstopped, rfl, rfl, rfl⟩
  | @tail t t' _ hstep ih =>
      obtain ⟨hstopped, hsent, hhanded, hwarned⟩ := ih
      rcases system.step?_eq_some hstep with ⟨task, htask, rfl⟩ | ⟨_, _, _, _, rfl⟩
      · cases task with
        | zero =>
            obtain ⟨timer, sender, actions, hresume, ht⟩ := t.resumeTimer_eq
            rcases Timer.resume_cases t.settings t.now t.sender t.timer with
              ⟨timer', hquiet, _⟩ | ⟨hrunning, _⟩
            · rw [hquiet] at hresume
              obtain ⟨rfl, rfl, rfl⟩ := Prod.mk.inj hresume |>.imp_right Prod.mk.inj
              refine ⟨?_, ?_, ?_, ?_⟩
              · exact (congrArg Sender.running ht.sender_eq).trans hstopped
              · exact (congrArg Sender.packetsSent ht.sender_eq).trans hsent
              · exact (ht.handed_eq.trans (List.append_nil _)).trans hhanded
              · exact (ht.warned_eq.trans (List.append_nil _)).trans hwarned
            · rw [hstopped] at hrunning
              cases hrunning
        | succ i =>
            obtain ⟨c, hc, _, hstate, _⟩ := exists_call_of_firstReady? htask
            obtain ⟨state, sender, timer, actions, hm, ht⟩ := resumeCall_eq hc hstate
            have hstopped' := hm.running_eq (.inl hstopped)
            obtain ⟨rfl, hsame⟩ := hm.actions_eq hstopped'
            refine ⟨?_, ?_, ?_, ht.warned_eq.trans hwarned⟩
            · exact (congrArg Sender.running ht.sender_eq).trans hstopped'
            · exact (congrArg Sender.packetsSent ht.sender_eq).trans (hsame.trans hsent)
            · exact (ht.handed_eq.trans (List.append_nil _)).trans hhanded
      · exact ⟨hstopped, hsent, hhanded, hwarned⟩

/-! ## One instruction -/

/-- **What one instruction does** to a session at work. -/
inductive Followed (settings : Settings) (s s' : Session) : Instruction → Prop
  /-- Time runs on, and there are some scans. -/
  | advance {span : Int} (m : Nat) (beating : s'.Beating settings) (nonneg : 0 ≤ span)
      (now_eq : s'.now = s.now + span) (pulse_eq : s'.pulse = (Pulse.scan settings)^[m] s.pulse) :
      Followed settings s s' (.advance span)
  /-- A call gives its order, and then some packets are sent. -/
  | call {op : Operation} (not_stop : op ≠ .stop) (beating : s'.Beating settings)
      (wake_eq : s'.wake = s.wake) (now_eq : s'.now = s.now)
      (sends : Pulse.Sends s.now (s.pulse.order op) s'.pulse) : Followed settings s s' (.call op)
  /-- The sender is stopped. -/
  | stop (halted : Halted s s') : Followed settings s s' (.call .stop)

namespace AtRest

variable {op : Operation}

lemma dormant (hr : AtRest settings failing done s) : s.Dormant := fun c hc =>
  CallState.isDormant_of_not_ready
    ((not_ready_of_idle (system.step?_eq_none hr.step?_eq).1).2 c hc)

/-- After the first turn of a new call all calls have begun. -/
lemma begun_of_first (hr : AtRest settings failing done s)
    (ht : Turned (s.enter done.length (.call op)) s.calls.length ⟨done.length, .starting op⟩ state
      sender timer actions s') (hstate : ∀ op', state ≠ .starting op') :
    ∀ c ∈ s'.calls, ∀ op', c.state ≠ .starting op' := by
  intro c hc op' hstarting
  obtain ⟨j, hj⟩ := List.mem_iff_getElem?.1 hc
  rcases ht.getElem?_calls hj with ⟨_, hsame⟩ | ⟨hne, hwoken⟩
  · exact hstate op' (hsame.symm.trans hstarting)
  · obtain ⟨c₀, hc₀, _, hold⟩ := getElem?_woken hwoken
    have hlt := (List.getElem?_eq_some_iff.1 hc₀).1
    change j < (s.calls ++ [_]).length at hlt
    change (s.calls ++ [_])[j]? = _ at hc₀
    rw [List.length_append, List.length_singleton] at hlt
    rw [List.getElem?_append_left (by omega)] at hc₀
    have hbegun := hr.begun c₀ (List.mem_of_getElem? hc₀)
    rw [hstarting] at hold
    cases hstate₀ : c₀.state with
    | starting op₀ => exact hbegun op₀ hstate₀
    | _ => rw [hstate₀] at hold; rcases hold with hold | hold <;> cases hold

/-- **A call is made** that is not to stop the sender. -/
lemma followed_call (hr : AtRest settings failing done s) (hb : s.Beating settings)
    (hop : op ≠ .stop)
    (hpasses : system.Passes (some s.now) (s.enter done.length (.call op)) s')
    (hidle : system.Idle s') : Followed settings s s' (.call op) := by
  obtain ⟨state, sender, timer, actions, s₁, hm, ht, _, hrest⟩ := hr.exists_turn hpasses hidle
  rcases hm.first with ⟨hstop, _⟩ | ⟨_, rfl, hrunning, hstate, hsender⟩
  · exact absurd hstop hop
  · have hentered : (s.enter done.length (.call op)).Timed settings :=
      ⟨hb.settings_eq, hb.running, hb.timer_eq, hb.dvd, hb.now_le, hb.le_now⟩
    obtain ⟨htimed, hpulse⟩ := hentered.turned ht (hrunning.trans hb.running)
    have hwake : s₁.wake = s.wake := congrArg Pulse.wake hpulse
    obtain ⟨hb', hnow', hwake', hsends⟩ := Beating.serve ⟨htimed, hr.begun_of_first ht hstate⟩
      ht.now_eq (hwake ▸ hb.lt_wake (system.step?_eq_none hr.step?_eq).1) hrest
    refine .call hop hb' (hwake'.trans hwake) hnow' (.trans ?_ hsends)
    rcases hsender with ⟨rfl, rfl⟩ | ⟨payload, flags, rfl, rfl, rfl⟩
    · have hordered : s₁.pulse = s.pulse.order op := by
        rw [hpulse]
        cases op <;> simp [Pulse.order, pulse, enter, wake, handed, warned]
      rw [hordered]
    · exact .single ⟨payload, flags, hpulse⟩

/-- **The sender is stopped.** -/
lemma followed_stop (hr : AtRest settings failing done s)
    (hpasses : system.Passes limit (s.enter done.length (.call .stop)) s')
    (hidle : system.Idle s') : Followed settings s s' (.call .stop) := by
  obtain ⟨state, sender, timer, actions, s₁, hm, ht, _, hrest⟩ := hr.exists_turn hpasses hidle
  rcases hm.first with ⟨_, hstopped, rfl⟩ | ⟨hop, _⟩
  · obtain ⟨hstopped', hsent, hhanded, hwarned⟩ :=
      halted_of_passes ((congrArg Sender.running ht.sender_eq).trans hstopped) hrest
    refine .stop ⟨hstopped', hsent.trans ?_, hhanded.trans ?_, hwarned.trans ht.warned_eq⟩
    · exact (congrArg Sender.packetsSent ht.sender_eq).trans (hm.actions_eq hstopped).2
    · exact ht.handed_eq.trans (List.append_nil _)
  · exact absurd rfl hop

/-- **Time runs on.** -/
lemma followed_advance (hpoll : 1 ≤ settings.poll) (hr : AtRest settings failing done s)
    (hb : s.Beating settings) {span : Int} (hspan : 0 ≤ span) :
    Followed settings s (s.follow done.length (.advance span)) (.advance span) := by
  have hp := Point.instruct (.advance span) hr.point hr.step?_eq
  have hend : system.step? (some (s.now + span)) (s.runUntil (s.now + span)) = none :=
    hp.step?_run hpoll
      (le_fuel_enter hr.begun done.length (.advance span) (s.now + span - s.now))
  have hpasses : system.Passes (some (s.now + span)) s (s.runUntil (s.now + span)) :=
    system.passes_run _ _ _
  obtain ⟨hb', _, hle, m, hpulse⟩ := hb.advance hpoll hr.dormant (by omega) hpasses
  have hlt := system.lt_of_step?_eq_none hend hb'.dueAt_mem
  exact .advance m ⟨hb'.setNow hle (Int.le_of_lt hlt), hb'.begun⟩ hspan rfl hpulse

end AtRest

/-! ## A whole session -/

/-- A fresh session has taken nothing but the first turn of its timer. -/
lemma start_eq (hpoll : 1 ≤ settings.poll) (failing : List Nat) :
    start settings failing = { settings, failing, timer := .sleeping settings.poll false } := by
  have hstep : system.step? (some 0) ({ settings, failing } : Session)
      = some { settings, failing, timer := .sleeping settings.poll false } := by
    show some ({ settings, failing, timer := .sleeping (0 + settings.poll) false } : Session) = _
    rw [Int.zero_add]
  have hend : system.step? (some 0)
      ({ settings, failing, timer := .sleeping settings.poll false } : Session) = none := by
    have hlater : ¬ settings.poll ≤ 0 := by omega
    simp [System.step?, System.firstReady?, System.nextDue?, System.within, system,
      Timer.readiness, Readiness.isReadyAt, Readiness.due?, hlater]
  have hfuel : ({ settings, failing } : Session).fuel (0 - 0) = 15 + 1 := rfl
  rw [start, runUntil]
  dsimp only
  rw [hfuel, System.run, hstep]
  exact system.run_of_step?_eq_none hend 15

lemma beating_start (hpoll : 1 ≤ settings.poll) (failing : List Nat) :
    (start settings failing).Beating settings := by
  rw [start_eq hpoll]
  refine ⟨⟨rfl, rfl, rfl, Int.dvd_refl _, ?_, ?_⟩, nofun⟩
  · show 0 ≤ settings.poll
    omega
  · exact Int.le_of_eq (Int.sub_self _)

/-- **The states of a session**: one instruction leads from each to the next, and after the stop
nothing comes of them any more. -/
lemma followed_of_play {instructions : List Instruction} {states : List Session}
    (hpoll : 1 ≤ settings.poll) (hspans : ∀ i ∈ instructions, 0 ≤ i.span)
    (hplay : play settings true failing instructions = .ok states) {k : Nat}
    (hs : (start settings failing :: states)[k]? = some s) (hk : states[k]? = some s') :
    ∃ i, (script instructions)[k]? = some i ∧
      AtRest settings failing ((script instructions).take k) s ∧
      (s.Beating settings → Followed settings s s' i) ∧
      (s.sender.running = false → Halted s s') := by
  obtain ⟨s₀, i, hs₀, hi, hlength, hr, hnext⟩ := exists_follow_of_play hpoll hplay hk
  obtain rfl := Option.some.inj (hs₀.symm.trans hs)
  refine ⟨i, hi, hr, ?_, ?_⟩
  · intro hb
    rcases hnext with rfl | ⟨rfl, rfl⟩
    · have hr' := hr.follow hpoll i
      have hidle := (system.step?_eq_none hr'.step?_eq).1
      cases i with
      | advance span =>
          have hspan : 0 ≤ span := by
            have hmem := List.mem_of_getElem? hi
            rw [script, List.mem_append, List.mem_singleton] at hmem
            exact hspans _ (hmem.resolve_right (by simp))
          rw [← hlength]
          exact hr.followed_advance hpoll hb hspan
      | call op =>
          rw [hlength] at hidle
          by_cases hop : op = .stop
          · subst hop
            have hpasses : system.Passes (some s₀.now) (s₀.enter k (.call .stop))
              (s₀.follow k (.call .stop)) := system.passes_run _ _ _
            rw [← hlength] at hpasses hidle ⊢
            exact hr.followed_stop hpasses hidle
          · refine hr.followed_call hb hop ?_ hidle
            rw [hlength]
            exact system.passes_run _ _ _
    · obtain ⟨_, hend⟩ := hr.finish hpoll
      have hpasses : system.Passes none (s₀.enter k (.call .stop)) (s₀.finish k) :=
        system.passes_run _ _ _
      rw [← hlength] at hpasses ⊢
      exact hr.followed_stop hpasses (system.step?_eq_none hend).1
  · intro hstopped
    rcases hnext with rfl | ⟨_, rfl⟩
    · cases i with
      | advance span =>
          have hpasses : system.Passes (some (s₀.now + span)) s₀ (s₀.runUntil (s₀.now + span)) :=
            system.passes_run _ _ _
          obtain ⟨hstopped', hsent, hhanded, hwarned⟩ := halted_of_passes hstopped hpasses
          exact ⟨hstopped', hsent, hhanded, hwarned⟩
      | call op =>
          obtain ⟨hstopped', hsent, hhanded, hwarned⟩ := halted_of_passes
            (s := s₀.enter k (.call op)) hstopped (system.passes_run _ _ _)
          exact ⟨hstopped', hsent, hhanded, hwarned⟩
    · obtain ⟨hstopped', hsent, hhanded, hwarned⟩ := halted_of_passes
        (s := s₀.enter k (.call .stop)) hstopped (system.passes_run _ _ _)
      exact ⟨hstopped', hsent, hhanded, hwarned⟩

end Session

end ReliableTransfer
