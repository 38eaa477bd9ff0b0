import ReliableTransfer.Proofs.Window.Turns

/-!
# No wake-up is lost, and nobody jumps the queue

Calls wait for progress without looking: they look again only after somebody has woken them.  Since
only acknowledgements and the stop wake anybody, it has to be seen that nothing else makes true what
a call waits for, and that a call which was woken and finds its place taken waits for a reason
again.

* `CallState.Justified` — a call that nobody has woken since it looked still has to wait.
* **`Session.Awake`** — this holds of all calls, and the timer does not sleep through the stop.
* `Session.Awake.blocked_send`, `Session.Awake.blocked_await`, `Session.Awake.blocked_timer` — what
  follows for a task that cannot run.
* **`Session.InOrder`** — the packets were taken in the order of the calls, and got the numbers from
  zero on.

Nothing here depends on the clock, nor on when and in which order calls are made.
-/

namespace ReliableTransfer

namespace CallState

/-- **A call that nobody has woken since it looked** still has to wait. -/
def Justified (s : Session) : CallState → Prop
  | sending _ _ false => s.sender.running = true ∧ s.sender.hasRoom s.settings = false
  | awaiting _ false => s.sender.allAcked = false
  | _ => True

/-- Whether a call wants to send, and has not returned. -/
def sends : CallState → Bool
  | starting (.send _ _) | sending _ _ _ => true
  | _ => false

lemma sends_notify (state : CallState) : state.notify.sends = state.sends := by
  cases state <;> rfl

lemma answer?_notify (state : CallState) : state.notify.answer? = state.answer? := by
  cases state <;> rfl

/-- A call that wants to send has not returned. -/
lemma answer?_of_sends : ∀ {state : CallState}, state.sends = true → state.answer? = none
  | starting (.send _ _), _ => rfl
  | sending _ _ _, _ => rfl

lemma Asks.sends_eq {settings : Settings} {payload : Bytes} {flags : Flags} :
    ∀ {state : CallState}, state.Asks settings payload flags → state.sends = true
  | starting (.send _ _), _ => rfl
  | sending _ _ _, _ => rfl

/-- A call that was woken has no reason to wait without looking. -/
lemma justified_notify (s : Session) (state : CallState) : state.notify.Justified s := by
  cases state <;> trivial

end CallState

/-- The number of the packet that was sent. -/
def Answer.seq? : Answer → Option UInt32
  | sent seq => some seq
  | _ => none

/-- The number of a call that has sent a packet, and the packet's number. -/
def Call.sent? (c : Call) : Option (Nat × UInt32) :=
  (c.state.answer?.bind Answer.seq?).map (c.number, ·)

/-- The number of a call that returns with a packet's number, and that number. -/
def sentReturn? (x : Int × Nat × Answer) : Option (Nat × UInt32) :=
  x.2.2.seq?.map (x.2.1, ·)

/-- A scan leaves nothing in flight exactly if nothing was in flight before. -/
lemma Sender.allAcked_scan (settings : Settings) (now : Int) (w : Sender) :
    (w.scan settings now).1.allAcked = w.allAcked := by
  rw [allAcked, allAcked, scan]
  cases w.inFlight <;> rfl

/-- **A turn of the timer** changes nothing about the sender being at work; the timer ends if the
sender was stopped, and goes on if not. -/
lemma Timer.resume_running {settings : Settings} {now : Int} {w w' : Sender} {t t' : Timer}
    {actions : List Action} (h : t.resume settings now w = (t', w', actions)) :
    w'.running = w.running ∧ (w.running = false → t' = .ended) ∧
      (w.running = true → t ≠ .ended → t' ≠ .ended) ∧
      ((w' = w ∧ actions = []) ∨ (w', actions) = w.scan settings now) := by
  have hnext : (w.running = false → next settings now w = .ended) ∧
      (w.running = true → next settings now w ≠ .ended) := by
    rw [next]
    cases w.running <;> simp
  cases t with
  | starting =>
      obtain ⟨rfl, rfl, rfl⟩ := Prod.mk.inj h |>.imp_right Prod.mk.inj
      exact ⟨rfl, hnext.1, fun h _ => hnext.2 h, .inl ⟨rfl, rfl⟩⟩
  | ended =>
      obtain ⟨rfl, rfl, rfl⟩ := Prod.mk.inj h |>.imp_right Prod.mk.inj
      exact ⟨rfl, fun _ => rfl, fun _ h => h, .inl ⟨rfl, rfl⟩⟩
  | sleeping wake notified =>
      rw [resume] at h
      split_ifs at h with hstopped hearly
      · obtain ⟨rfl, rfl, rfl⟩ := Prod.mk.inj h |>.imp_right Prod.mk.inj
        rw [Bool.not_eq_true'] at hstopped
        exact ⟨rfl, fun _ => rfl, fun h => absurd h (by simp [hstopped]), .inl ⟨rfl, rfl⟩⟩
      · obtain ⟨rfl, rfl, rfl⟩ := Prod.mk.inj h |>.imp_right Prod.mk.inj
        rw [Bool.not_eq_true', Bool.not_eq_false] at hstopped
        exact ⟨rfl, fun h => absurd h (by simp [hstopped]), fun _ _ => by simp, .inl ⟨rfl, rfl⟩⟩
      · obtain ⟨rfl, rfl, rfl⟩ := Prod.mk.inj h |>.imp_right Prod.mk.inj
        exact ⟨rfl, hnext.1, fun h _ => hnext.2 h, .inr rfl⟩

namespace Session

variable {s s' : Session} {i : Nat} {c : Call} {state : CallState} {sender : Sender}
  {timer : Timer} {actions : List Action}

/-! ## The calls after a turn -/

namespace Turned

/-- A call after a turn is the one whose turn it was, or another one from before. -/
lemma mem_calls (ht : Turned s i c state sender timer actions s') {c' : Call}
    (h : c' ∈ s'.calls) : c'.state = state ∨ c' ∈ s.woken c.state := by
  rw [ht.calls_eq] at h
  obtain ⟨j, hj⟩ := List.mem_iff_getElem?.1 h
  rw [List.getElem?_modify, Option.map_eq_map, Option.map_eq_some_iff] at hj
  obtain ⟨c₀, hc₀, rfl⟩ := hj
  split_ifs
  · exact .inl rfl
  · exact .inr (List.mem_of_getElem? hc₀)

/-- The call at a place after a turn. -/
lemma getElem?_calls (ht : Turned s i c state sender timer actions s') {j : Nat} {c' : Call}
    (h : s'.calls[j]? = some c') :
    (j = i ∧ c'.state = state) ∨ (j ≠ i ∧ (s.woken c.state)[j]? = some c') := by
  rw [ht.calls_eq, List.getElem?_modify, Option.map_eq_map, Option.map_eq_some_iff] at h
  obtain ⟨c₀, hc₀, rfl⟩ := h
  split_ifs with hi
  · exact .inl ⟨hi.symm, rfl⟩
  · exact .inr ⟨fun h => hi h.symm, hc₀⟩

end Turned

/-- Being woken changes neither the number of a call nor what it wants or was answered. -/
lemma getElem?_woken {j : Nat} {c' : Call} (h : (s.woken state)[j]? = some c') :
    ∃ c₀, s.calls[j]? = some c₀ ∧ c'.number = c₀.number ∧
      (c'.state = c₀.state ∨ c'.state = c₀.state.notify) := by
  rw [woken] at h
  split_ifs at h
  · rw [notifyProgress, List.getElem?_map, Option.map_eq_some_iff] at h
    obtain ⟨c₀, hc₀, rfl⟩ := h
    exact ⟨c₀, hc₀, rfl, .inr rfl⟩
  · exact ⟨c', h, rfl, .inl rfl⟩

/-- Every call is there after a turn, as the turn left it, woken, or as it was. -/
lemma Turned.exists_getElem? (ht : Turned s i c state sender timer actions s') {j : Nat}
    {c₀ : Call} (h : s.calls[j]? = some c₀) :
    ∃ c', s'.calls[j]? = some c' ∧ c'.number = c₀.number ∧
      ((j = i ∧ c'.state = state) ∨
        (j ≠ i ∧ (c'.state = c₀.state ∨ c'.state = c₀.state.notify))) := by
  have hwoken : ∃ c₁, (s.woken c.state)[j]? = some c₁ ∧ c₁.number = c₀.number ∧
      (c₁.state = c₀.state ∨ c₁.state = c₀.state.notify) := by
    rw [woken]
    split_ifs
    · rw [notifyProgress, List.getElem?_map, h]
      exact ⟨_, rfl, rfl, .inr rfl⟩
    · exact ⟨c₀, h, rfl, .inl rfl⟩
  obtain ⟨c₁, hc₁, hnumber, hstate⟩ := hwoken
  rw [ht.calls_eq, List.getElem?_modify, hc₁]
  by_cases hj : j = i
  · exact ⟨{ c₁ with state }, by rw [hj]; simp, hnumber, .inl ⟨hj, rfl⟩⟩
  · exact ⟨c₁, by simp [Ne.symm hj], hnumber, .inr ⟨hj, hstate⟩⟩

lemma woken_of_not_wakes (h : state.wakes = false) : s.woken state = s.calls := by
  rw [woken, h]
  rfl

/-- A list around one of its elements. -/
lemma exists_split {α : Type} {l : List α} {i : Nat} {x : α} (h : l[i]? = some x) :
    ∃ before behind, l = before ++ x :: behind ∧ before.length = i ∧
      ∀ f, l.modify i f = before ++ f x :: behind := by
  obtain ⟨hi, rfl⟩ := List.getElem?_eq_some_iff.1 h
  refine ⟨l.take i, l.drop (i + 1), ?_, List.length_take_of_le (Nat.le_of_lt hi), fun f => ?_⟩
  · rw [List.getElem_cons_drop, List.take_append_drop]
  · rw [List.modify_eq_take_cons_drop hi]

/-! ## Nobody waits in vain -/

/-- **All who wait without looking have a reason to**, and the timer does not sleep through the
stop. -/
structure Awake (s : Session) : Prop where
  justified : ∀ c ∈ s.calls, c.state.Justified s
  timer_ne_sleeping : s.sender.running = false → ∀ wake, s.timer ≠ .sleeping wake false
  timer_ne_ended : s.sender.running = true → s.timer ≠ .ended

namespace Awake

/-- A sender keeps all from progress that another keeps from it. -/
lemma justified_of (h : state.Justified s) (hsettings : s'.settings = s.settings)
    (hroom : s.sender.running = true → s.sender.hasRoom s.settings = false →
      s'.sender.running = true ∧ s'.sender.hasRoom s.settings = false)
    (hacked : s.sender.allAcked = false → s'.sender.allAcked = false) : state.Justified s' := by
  cases state with
  | sending payload flags notified =>
      cases notified with
      | true => trivial
      | false =>
          obtain ⟨hrunning, hfull⟩ := h
          rw [CallState.Justified, hsettings]
          exact hroom hrunning hfull
  | awaiting deadline notified =>
      cases notified with
      | true => trivial
      | false => exact hacked h
  | starting | joining | returned => trivial

/-- A packet that is sent is in flight. -/
lemma allAcked_send (w : Sender) (now : Int) (payload : Bytes) (flags : Flags) :
    (w.send now payload flags).1.allAcked = false := by
  have hmem := (Sender.mem_numbers_send now payload flags w w.next).2 (.inl rfl)
  rw [Sender.allAcked]
  exact List.isEmpty_eq_false_iff.2 (List.ne_nil_of_mem (List.mem_map.1 hmem).choose_spec.1)

/-- **A turn of a call** leaves nobody waiting in vain. -/
lemma turned (ha : s.Awake) (hm : Moves s c.state state sender timer actions)
    (ht : Turned s i c state sender timer actions s') : s'.Awake := by
  -- a call that was not woken waits as before, if the sender gives no reason to look
  have kept : c.state.wakes = false →
      (s.sender.running = true → s.sender.hasRoom s.settings = false →
        sender.running = true ∧ sender.hasRoom s.settings = false) →
      (s.sender.allAcked = false → sender.allAcked = false) →
      ∀ c' ∈ s.woken c.state, c'.state.Justified s' := by
    intro hwakes hroom hacked c' hc'
    rw [woken_of_not_wakes hwakes] at hc'
    refine justified_of (ha.justified c' hc') ht.settings_eq ?_ ?_
    · rw [ht.sender_eq]
      exact hroom
    · rw [ht.sender_eq]
      exact hacked
  have woke : c.state.wakes = true → ∀ c' ∈ s.woken c.state, c'.state.Justified s' := by
    intro hwakes c' hc'
    rw [woken, if_pos hwakes] at hc'
    obtain ⟨c₀, _, rfl⟩ := List.mem_map.1 hc'
    exact CallState.justified_notify s' c₀.state
  have all : state.Justified s' → (∀ c' ∈ s.woken c.state, c'.state.Justified s') →
      ∀ c' ∈ s'.calls, c'.state.Justified s' := by
    intro hstate hothers c' hc'
    rcases ht.mem_calls hc' with h | h
    · rw [h]
      exact hstate
    · exact hothers c' h
  have same : sender = s.sender → timer = s.timer →
      (sender.running = false → ∀ wake, timer ≠ .sleeping wake false) ∧
      (sender.running = true → timer ≠ .ended) := by
    rintro rfl rfl
    exact ⟨ha.timer_ne_sleeping, ha.timer_ne_ended⟩
  suffices h : state.Justified s' ∧ (∀ c' ∈ s.woken c.state, c'.state.Justified s') ∧
      (sender.running = false → ∀ wake, timer ≠ .sleeping wake false) ∧
      (sender.running = true → timer ≠ .ended) by
    obtain ⟨hstate, hothers, hsleeping, hended⟩ := h
    refine ⟨all hstate hothers, ?_, ?_⟩
    · rw [ht.sender_eq, ht.timer_eq]
      exact hsleeping
    · rw [ht.sender_eq, ht.timer_eq]
      exact hended
  generalize c.state = before at hm kept woke ⊢
  cases hm with
  | refuse =>
      exact ⟨trivial, kept rfl (fun h h' => ⟨h, h'⟩) id, same rfl rfl⟩
  | halt hasks =>
      exact ⟨trivial, kept hasks.wakes_eq (fun h h' => ⟨h, h'⟩) id, same rfl rfl⟩
  | send hasks running room =>
      -- nobody can be waiting for room, since there is some
      refine ⟨trivial, kept hasks.wakes_eq (fun _ h => ?_) (fun _ => allAcked_send _ _ _ _),
        ha.timer_ne_sleeping, ha.timer_ne_ended⟩
      rw [room] at h
      cases h
  | block hasks running room =>
      refine ⟨?_, kept hasks.wakes_eq (fun h h' => ⟨h, h'⟩) id, same rfl rfl⟩
      show _ ∧ _
      rw [ht.sender_eq, ht.settings_eq]
      exact ⟨running, room⟩
  | acknowledge number => exact ⟨trivial, woke rfl, ha.timer_ne_sleeping, ha.timer_ne_ended⟩
  | complete hawaits hacked =>
      exact ⟨trivial, kept (CallState.wakes_of_awaits hawaits) (fun h h' => ⟨h, h'⟩) id,
        same rfl rfl⟩
  | expire hacked hdue => exact ⟨trivial, kept rfl (fun h h' => ⟨h, h'⟩) id, same rfl rfl⟩
  | await timeout hacked =>
      refine ⟨?_, kept rfl (fun h h' => ⟨h, h'⟩) id, same rfl rfl⟩
      show _ = _
      rw [ht.sender_eq]
      exact hacked
  | resume hacked hdue =>
      refine ⟨?_, kept rfl (fun h h' => ⟨h, h'⟩) id, same rfl rfl⟩
      show _ = _
      rw [ht.sender_eq]
      exact hacked
  | stop htimer => exact ⟨trivial, woke rfl, by simp, by simp [Sender.stop]⟩
  | stopping htimer =>
      refine ⟨trivial, woke rfl, fun _ wake => ?_, by simp [Sender.stop]⟩
      cases s.timer <;> simp [Timer.notify]
  | join => exact ⟨trivial, kept rfl (fun h h' => ⟨h, h'⟩) id, same rfl rfl⟩

/-- **A turn of the timer** leaves nobody waiting in vain. -/
lemma ticked (ha : s.Awake)
    (hresume : s.timer.resume s.settings s.now s.sender = (timer, sender, actions))
    (ht : Ticked s timer sender actions s') : s'.Awake := by
  obtain ⟨hrunning, hended, hsleeps, hsender⟩ := Timer.resume_running hresume
  refine ⟨?_, ?_, ?_⟩
  · intro c hc
    rw [ht.calls_eq] at hc
    refine justified_of (ha.justified c hc) ht.settings_eq ?_ ?_
    · intro hrun hfull
      rw [ht.sender_eq, hrunning]
      rcases hsender with ⟨rfl, _⟩ | hscan
      · exact ⟨hrun, hfull⟩
      · rw [show sender = _ from congrArg Prod.fst hscan]
        exact ⟨hrun, hfull⟩
    · intro hacked
      rw [ht.sender_eq]
      rcases hsender with ⟨rfl, _⟩ | hscan
      · exact hacked
      · rw [show sender = _ from congrArg Prod.fst hscan, Sender.allAcked_scan]
        exact hacked
  · rw [ht.sender_eq, ht.timer_eq, hrunning]
    intro hstopped wake
    rw [hended hstopped]
    nofun
  · rw [ht.sender_eq, ht.timer_eq, hrunning]
    exact fun hrun => hsleeps hrun (ha.timer_ne_ended hrun)

/-- **A turn of a task that can run** leaves nobody waiting in vain. -/
lemma resume (ha : s.Awake) {task : Nat} (hfirst : system.firstReady? s = some task) :
    (system.resume task s).Awake := by
  cases task with
  | zero =>
      obtain ⟨timer, sender, actions, hresume, ht⟩ := s.resumeTimer_eq
      exact ha.ticked hresume ht
  | succ i =>
      obtain ⟨c, hc, _, hstate, _⟩ := exists_call_of_firstReady? hfirst
      obtain ⟨state, sender, timer, actions, hm, ht⟩ := resumeCall_eq hc hstate
      exact ha.turned hm ht

lemma setNow (ha : s.Awake) (time : Int) : ({ s with now := time } : Session).Awake :=
  ⟨fun c hc => justified_of (ha.justified c hc) rfl (fun h h' => ⟨h, h'⟩) id,
    ha.timer_ne_sleeping, ha.timer_ne_ended⟩

lemma call (ha : s.Awake) (number : Nat) (op : Operation) :
    ({ s with calls := s.calls ++ [⟨number, .starting op⟩] } : Session).Awake := by
  refine ⟨?_, ha.timer_ne_sleeping, ha.timer_ne_ended⟩
  intro c hc
  rcases List.mem_append.1 hc with hc | hc
  · exact justified_of (ha.justified c hc) rfl (fun h h' => ⟨h, h'⟩) id
  · rw [List.mem_singleton.1 hc]
    trivial

/-! ### Who cannot run -/

/-- **A call that wants to send and cannot run** finds the sender at work and the window full. -/
lemma blocked_send (ha : s.Awake) (hc : c ∈ s.calls) (hsends : c.state.sends = true)
    (hready : (c.state.readiness s.timer).isReadyAt s.now = false) :
    s.sender.running = true ∧ s.sender.hasRoom s.settings = false := by
  have hjustified := ha.justified c hc
  cases hstate : c.state with
  | starting op =>
      rw [hstate] at hready
      cases hready
  | sending payload flags notified =>
      rw [hstate] at hready hjustified
      cases notified with
      | true => cases hready
      | false => exact hjustified
  | awaiting | joining | returned =>
      rw [hstate] at hsends
      cases hsends

/-- **A call that waits for the last acknowledgement and cannot run** finds packets in flight, and
has time left. -/
lemma blocked_await (ha : s.Awake) (hc : c ∈ s.calls) (hawaits : c.state.awaits = true)
    (hready : (c.state.readiness s.timer).isReadyAt s.now = false) :
    ∃ deadline, c.state = .awaiting deadline false ∧ s.sender.allAcked = false ∧
      s.now < deadline := by
  have hjustified := ha.justified c hc
  cases hstate : c.state with
  | starting op =>
      rw [hstate] at hready
      cases hready
  | awaiting deadline notified =>
      rw [hstate] at hready hjustified
      cases notified with
      | true => cases hready
      | false => exact ⟨deadline, rfl, hjustified, Int.not_le.1 (of_decide_eq_false hready)⟩
  | sending | joining | returned =>
      rw [hstate] at hawaits
      cases hawaits

/-- **A timer that cannot run once the sender was stopped** has ended. -/
lemma blocked_timer (ha : s.Awake) (hstopped : s.sender.running = false)
    (hready : s.timer.readiness.isReadyAt s.now = false) : s.timer = .ended := by
  have hsleeping := ha.timer_ne_sleeping hstopped
  cases htimer : s.timer with
  | starting =>
      rw [htimer] at hready
      cases hready
  | sleeping wake notified =>
      rw [htimer] at hready
      cases notified with
      | true => cases hready
      | false => exact absurd htimer (hsleeping wake)
  | ended => rfl

end Awake

/-! ## First come, first served -/

/-- **The packets were taken in the order of the calls**, and numbered from zero on: whoever still
wants to send came after all those that have sent. -/
structure InOrder (s : Session) : Prop where
  returns_eq : s.returns.filterMap sentReturn? = s.calls.filterMap Call.sent?
  seqs_eq : (s.calls.filterMap Call.sent?).map Prod.snd
    = (List.range s.sender.packetsSent).map UInt32.ofNat
  next_eq : s.sender.next = UInt32.ofNat s.sender.packetsSent
  lt_of_sends : ∀ {i j : Nat} {c c' : Call}, s.calls[i]? = some c → s.calls[j]? = some c' →
    c.state.sends = true → c'.sent?.isSome = true → j < i

namespace InOrder

/-- Being woken makes nobody have sent. -/
lemma sent?_woken (s : Session) (state : CallState) :
    (s.woken state).filterMap Call.sent? = s.calls.filterMap Call.sent? := by
  rw [woken]
  split_ifs
  · rw [notifyProgress, List.filterMap_map]
    refine List.filterMap_congr fun c _ => ?_
    rw [Function.comp_apply, Call.sent?, Call.sent?, CallState.answer?_notify]
  · rfl

lemma of_getElem?_woken {j : Nat} {c' : Call} (h : (s.woken state)[j]? = some c') :
    ∃ c₀, s.calls[j]? = some c₀ ∧ c'.state.sends = c₀.state.sends ∧
      c'.sent?.isSome = c₀.sent?.isSome := by
  obtain ⟨c₀, hc₀, hnumber, hstate⟩ := getElem?_woken h
  refine ⟨c₀, hc₀, ?_⟩
  rw [Call.sent?, Call.sent?, hnumber]
  rcases hstate with hstate | hstate
  · rw [hstate]
    exact ⟨rfl, rfl⟩
  · rw [hstate, CallState.sends_notify, CallState.answer?_notify]
    exact ⟨rfl, rfl⟩

/-- What has been sent, after a turn of a call that had not returned: what the call has sent, if
anything, is the last of it if no call behind it has sent. -/
lemma sent?_turned (hc : s.calls[i]? = some c) (hpending : c.state.answer? = none)
    (ht : Turned s i c state sender timer actions s')
    (hlast : (state.answer?.bind Answer.seq?).isSome = true →
      ∀ j c', s.calls[j]? = some c' → c'.sent?.isSome = true → j < i) :
    s'.calls.filterMap Call.sent? = s.calls.filterMap Call.sent?
      ++ ((state.answer?.bind Answer.seq?).map (c.number, ·)).toList := by
  have hwoken : ∃ c₀, (s.woken c.state)[i]? = some c₀ ∧ c₀.number = c.number ∧
      c₀.sent? = none := by
    rw [woken]
    split_ifs
    · refine ⟨{ c with state := c.state.notify }, ?_, rfl, ?_⟩
      · rw [notifyProgress, List.getElem?_map, hc]
        rfl
      · rw [Call.sent?, CallState.answer?_notify, hpending]
        rfl
    · refine ⟨c, hc, rfl, ?_⟩
      rw [Call.sent?, hpending]
      rfl
  obtain ⟨c₀, hc₀, hnumber, hnone⟩ := hwoken
  obtain ⟨before, behind, hsplit, hlength, hmodify⟩ := exists_split hc₀
  have hold := sent?_woken s c.state
  rw [hsplit, List.filterMap_append, List.filterMap_cons_none hnone] at hold
  rw [ht.calls_eq, hmodify, List.filterMap_append, ← hold]
  cases hseq : state.answer?.bind Answer.seq? with
  | none =>
      rw [List.filterMap_cons_none (by rw [Call.sent?, hseq]; rfl)]
      exact (List.append_nil _).symm
  | some seq =>
      -- behind the call nobody has sent
      have hbehind : behind.filterMap Call.sent? = [] := by
        rw [List.filterMap_eq_nil_iff]
        intro c' hc'
        by_contra hsome
        obtain ⟨k, hk⟩ := List.mem_iff_getElem?.1 hc'
        have hplace : (s.woken c.state)[i + 1 + k]? = some c' := by
          rw [hsplit, List.getElem?_append_right (by omega), hlength,
            show i + 1 + k - i = k + 1 by omega]
          exact hk
        obtain ⟨c₁, hc₁, _, hsent⟩ := of_getElem?_woken hplace
        have hlt := hlast (by rw [hseq]; rfl) _ _ hc₁
          (by rw [← hsent]; exact Option.isSome_iff_ne_none.2 hsome)
        omega
      rw [List.filterMap_cons_some (b := (c.number, seq))
        (by rw [Call.sent?, hseq, hnumber]; rfl), hbehind, List.append_nil]
      rfl

/-- A turn sends a packet, or it has nothing to do with packets. -/
lemma sends_or_quiet {before : CallState} (hm : Moves s before state sender timer actions) :
    (before.sends = true ∧ s.sender.hasRoom s.settings = true ∧
      state = .returned (.sent s.sender.next) ∧
      sender.packetsSent = s.sender.packetsSent + 1 ∧ sender.next = s.sender.next + 1) ∨
    (state.answer?.bind Answer.seq? = none ∧ (state.sends = true → before.sends = true) ∧
      sender.packetsSent = s.sender.packetsSent ∧ sender.next = s.sender.next) := by
  cases hm with
  | send hasks running room => exact .inl ⟨hasks.sends_eq, room, rfl, rfl, rfl⟩
  | refuse h =>
      rw [Sender.refusal?] at h
      split_ifs at h
      exact .inr ⟨rfl, nofun, rfl, rfl⟩
  | block hasks => exact .inr ⟨rfl, fun _ => hasks.sends_eq, rfl, rfl⟩
  | _ => exact .inr ⟨rfl, nofun, rfl, rfl⟩

/-- **A turn of a call** keeps the order, if no call before it can run. -/
lemma turned (ho : s.InOrder) (ha : s.Awake) (hc : s.calls[i]? = some c)
    (hpending : c.state.answer? = none)
    (hbefore : ∀ j c', j < i → s.calls[j]? = some c' →
      (c'.state.readiness s.timer).isReadyAt s.now = false)
    (hm : Moves s c.state state sender timer actions)
    (ht : Turned s i c state sender timer actions s') : s'.InOrder := by
  have hreturns : s'.returns.filterMap sentReturn? = s.calls.filterMap Call.sent?
      ++ ((state.answer?.bind Answer.seq?).map (c.number, ·)).toList := by
    rw [ht.returns_eq, List.filterMap_append, ho.returns_eq]
    cases state.answer? with
    | none => rfl
    | some a => cases a <;> rfl
  rcases sends_or_quiet hm with
    ⟨hsends, hroom, rfl, hcount, hnext⟩ | ⟨hquiet, hwants, hcount, hnext⟩
  · have hsent := sent?_turned hc hpending ht fun _ j c' hc' hsome =>
      ho.lt_of_sends hc hc' hsends hsome
    refine ⟨hreturns.trans hsent.symm, ?_, ?_, ?_⟩
    · rw [hsent, List.map_append, ho.seqs_eq, ht.sender_eq, hcount, List.range_succ,
        List.map_append, ho.next_eq]
      rfl
    · rw [ht.sender_eq, hcount, hnext, ho.next_eq, UInt32.ofNat_add]
      rfl
    · -- a call before this one that still wants to send would have been able to run
      intro i' j' c₁ c₂ hc₁ hc₂ hwants hsome
      rcases ht.getElem?_calls hc₁ with ⟨rfl, hstate⟩ | ⟨hne, hwoken⟩
      · rw [hstate] at hwants
        cases hwants
      · obtain ⟨c₀, hc₀, hsends₀, _⟩ := of_getElem?_woken hwoken
        rw [hsends₀] at hwants
        rcases ht.getElem?_calls hc₂ with ⟨rfl, _⟩ | ⟨_, hwoken'⟩
        · refine Nat.lt_of_not_le fun hle => ?_
          have hfull := (ha.blocked_send (List.mem_of_getElem? hc₀) hwants
            (hbefore i' c₀ (Nat.lt_of_le_of_ne hle hne) hc₀)).2
          exact Bool.noConfusion (hroom.symm.trans hfull)
        · obtain ⟨c₀', hc₀', _, hsome₀⟩ := of_getElem?_woken hwoken'
          rw [hsome₀] at hsome
          exact ho.lt_of_sends hc₀ hc₀' hwants hsome
  · have hsent := sent?_turned hc hpending ht fun hsome => absurd hsome (by rw [hquiet]; nofun)
    refine ⟨hreturns.trans hsent.symm, ?_, ?_, ?_⟩
    · rw [hsent, hquiet, ht.sender_eq, hcount]
      exact (congrArg _ (List.append_nil _)).trans ho.seqs_eq
    · rw [ht.sender_eq, hcount, hnext, ho.next_eq]
    · intro i' j' c₁ c₂ hc₁ hc₂ hsends hsome
      have hold : ∃ c₀, s.calls[i']? = some c₀ ∧ c₀.state.sends = true := by
        rcases ht.getElem?_calls hc₁ with ⟨rfl, hstate⟩ | ⟨_, hwoken⟩
        · exact ⟨c, hc, hwants (hstate ▸ hsends)⟩
        · obtain ⟨c₀, hc₀, hsends₀, _⟩ := of_getElem?_woken hwoken
          exact ⟨c₀, hc₀, hsends₀ ▸ hsends⟩
      obtain ⟨c₀, hc₀, hsends₀⟩ := hold
      rcases ht.getElem?_calls hc₂ with ⟨_, hstate⟩ | ⟨_, hwoken⟩
      · rw [Call.sent?, hstate, hquiet] at hsome
        cases hsome
      · obtain ⟨c₀', hc₀', _, hsome₀⟩ := of_getElem?_woken hwoken
        rw [hsome₀] at hsome
        exact ho.lt_of_sends hc₀ hc₀' hsends₀ hsome

/-- **A turn of a task that can run** keeps the order. -/
lemma resume (ho : s.InOrder) (ha : s.Awake) {task : Nat}
    (hfirst : system.firstReady? s = some task) : (system.resume task s).InOrder := by
  cases task with
  | zero =>
      obtain ⟨timer, sender, actions, hresume, ht⟩ := s.resumeTimer_eq
      have hsame : sender.packetsSent = s.sender.packetsSent ∧ sender.next = s.sender.next := by
        rcases (Timer.resume_running hresume).2.2.2 with ⟨rfl, _⟩ | hscan
        · exact ⟨rfl, rfl⟩
        · rw [show sender = _ from congrArg Prod.fst hscan]
          exact ⟨rfl, rfl⟩
      show s.resumeTimer.InOrder
      refine ⟨?_, ?_, ?_, ?_⟩
      · rw [ht.returns_eq, ht.calls_eq]
        exact ho.returns_eq
      · rw [ht.calls_eq, ht.sender_eq, hsame.1]
        exact ho.seqs_eq
      · rw [ht.sender_eq, hsame.1, hsame.2]
        exact ho.next_eq
      · rw [ht.calls_eq]
        exact ho.lt_of_sends
  | succ i =>
      obtain ⟨c, hc, _, hstate, hbefore⟩ := exists_call_of_firstReady? hfirst
      obtain ⟨state, sender, timer, actions, hm, ht⟩ := resumeCall_eq hc hstate
      exact ho.turned ha hc hstate hbefore hm ht

lemma call (ho : s.InOrder) (number : Nat) (op : Operation) :
    ({ s with calls := s.calls ++ [⟨number, .starting op⟩] } : Session).InOrder := by
  have hsent : (s.calls ++ [(⟨number, .starting op⟩ : Call)]).filterMap Call.sent?
      = s.calls.filterMap Call.sent? := by
    rw [List.filterMap_append]
    exact List.append_nil _
  refine ⟨?_, ?_, ho.next_eq, ?_⟩
  · show s.returns.filterMap _ = _
    rw [hsent]
    exact ho.returns_eq
  · show (List.filterMap _ (s.calls ++ _)).map _ = _
    rw [hsent]
    exact ho.seqs_eq
  · -- the new call comes last, and has not sent anything
    intro i j c c' hc hc' hsends hsome
    rw [List.getElem?_append] at hc hc'
    split_ifs at hc' with hj
    · split_ifs at hc with hi
      · exact ho.lt_of_sends hc hc' hsends hsome
      · omega
    · rw [List.getElem?_singleton] at hc'
      split_ifs at hc'
      rw [← Option.some.inj hc'] at hsome
      cases hsome

end InOrder

end Session

end ReliableTransfer
