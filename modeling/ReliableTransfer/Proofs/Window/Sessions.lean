import ReliableTransfer.Proofs.Window.History
import ReliableTransfer.Window.Session

/-!
# Sessions have histories

In a session the timer and any number of callers take turns.  What a turn does to the sender is a
turn of a history or nothing at all, so whatever holds in all histories holds of the sender of every
session, in whichever order its callers come.

* `Session.Told` — a log and the timeline of a session tell of the same transmissions and lines.
* `Session.Traced` — a session with the history of its sender.
* `Session.Traced.resume` — a turn of a task.
* **`Session.exists_history_of_mem_play`** — every state of a session comes of a history.
-/

namespace ReliableTransfer

/-- Whether a deed is one of the sender's own, rather than something it was told to do. -/
def Deed.isOwn : Deed → Bool
  | .transmitted _ _ _ | .noted _ => true
  | _ => false

/-- The deed that an event of a session is, if the sender did it. -/
def SessionEvent.deed? : Int × SessionEvent → Option Deed
  | (time, .transmitted p ok) => some (.transmitted time p ok)
  | (_, .noted n) => some (.noted n)
  | (_, .returned _ _) => none

/-- A call that waits for room has a payload that is not refused. -/
def CallState.Fits (settings : Settings) : CallState → Prop
  | sending payload _ _ => Sender.refusal? settings payload = none
  | _ => True

namespace Session

/-- Whether the link of a session takes the next packet, from the log. -/
def takes (s : Session) (log : Log) : Bool :=
  !s.failing.contains log.calls.length

/-- **The timeline and a log tell the same** of what the sender did. -/
structure Told (s : Session) (log : Log) : Prop where
  own_eq : log.filter Deed.isOwn = s.timeline.filterMap SessionEvent.deed?
  transmissions_eq : s.transmissions = log.calls.length

variable {settings : Settings} {s s' : Session} {log : Log} {h h' : History}

/-! ## What the sender does -/

namespace Told

lemma transmit (ht : s.Told log) (p : Packet) (ok : Bool) :
    ({ s.happen (.transmitted p ok) with transmissions := s.transmissions + 1 } : Session).Told
      (log ++ [.transmitted s.now p ok]) := by
  refine ⟨?_, ?_⟩
  · show _ = (s.timeline ++ [(s.now, SessionEvent.transmitted p ok)]).filterMap SessionEvent.deed?
    rw [List.filter_append, List.filterMap_append, ht.own_eq]
    rfl
  · show s.transmissions + 1 = _
    rw [Log.calls_append, List.length_append, ht.transmissions_eq]
    rfl

lemma note (ht : s.Told log) (n : Notice) : (s.happen (.noted n)).Told (log ++ [.noted n]) := by
  refine ⟨?_, ?_⟩
  · show _ = (s.timeline ++ [(s.now, SessionEvent.noted n)]).filterMap SessionEvent.deed?
    rw [List.filter_append, List.filterMap_append, ht.own_eq]
    rfl
  · show s.transmissions = _
    rw [Log.calls_append, List.length_append, ht.transmissions_eq]
    rfl

/-- An action leaves in the timeline what it leaves in the log. -/
lemma perform (ht : s.Told log) (action : Action) :
    ∃ timeline transmissions, action.perform link s = { s with timeline, transmissions } ∧
      (action.perform link s).Told (action.perform (recorder s.now s.takes) log) := by
  have htakes : s.takes log = !s.failing.contains s.transmissions := by
    rw [takes, ht.transmissions_eq]
  cases action with
  | transmit p =>
      simp only [Action.perform, link, recorder, htakes]
      cases !s.failing.contains s.transmissions with
      | true => exact ⟨_, _, rfl, ht.transmit p true⟩
      | false => exact ⟨_, _, rfl, (ht.transmit p false).note _⟩
  | retransmit p =>
      simp only [Action.perform, link, recorder, htakes]
      cases !s.failing.contains s.transmissions with
      | true => exact ⟨_, _, rfl, ht.transmit p true⟩
      | false => exact ⟨_, _, rfl, (ht.transmit p false).note _⟩
  | giveUp maxRetries seq => exact ⟨_, _, rfl, ht.note (.retriesExceeded maxRetries seq)⟩

/-- **The actions of the sender** leave in the timeline what they leave in the log. -/
lemma performAll (ht : s.Told log) (actions : List Action) :
    ∃ timeline transmissions,
      ReliableTransfer.performAll link actions s = { s with timeline, transmissions } ∧
      (ReliableTransfer.performAll link actions s).Told
        (ReliableTransfer.performAll (recorder s.now s.takes) actions log) := by
  induction actions generalizing s log with
  | nil => exact ⟨s.timeline, s.transmissions, rfl, ht⟩
  | cons action actions ih =>
      obtain ⟨timeline, transmissions, hfirst, hperform⟩ := ht.perform action
      obtain ⟨timeline', transmissions', hrest, hall⟩ := ih hperform
      rw [performAll_cons, performAll_cons]
      rw [hfirst] at hrest hall ⊢
      exact ⟨timeline', transmissions', hrest, hall⟩

/-- What the sender is told to do is not in the timeline. -/
lemma append (ht : s.Told log) {d : Deed} (hown : d.isOwn = false) (hcall : d.call? = none) :
    s.Told (log ++ [d]) := by
  refine ⟨?_, ?_⟩
  · rw [List.filter_append, List.filter_singleton, hown, ht.own_eq]
    exact List.append_nil _
  · rw [Log.calls_append, ht.transmissions_eq, Log.calls, Log.calls, List.filterMap_cons, hcall]
    exact congrArg List.length (List.append_nil _).symm

end Told

/-! ## The history of a session -/

/-- **A session with the history of its sender.** -/
structure Traced (settings : Settings) (h : History) (s : Session) : Prop
    extends s.Told h.log where
  settings_eq : s.settings = settings
  reachable : h.Reachable settings
  sender_eq : s.sender = h.sender
  fits : ∀ c ∈ s.calls, c.state.Fits settings

namespace Traced

/-- What is not about the sender makes no difference. -/
lemma of_eq (ht : s.Traced settings h) (hsettings : s'.settings = s.settings)
    (hsender : s'.sender = s.sender) (htransmissions : s'.transmissions = s.transmissions)
    (hown : s'.timeline.filterMap SessionEvent.deed? = s.timeline.filterMap SessionEvent.deed?)
    (hfits : ∀ c ∈ s'.calls, c.state.Fits settings) : s'.Traced settings h := by
  refine ⟨⟨?_, ?_⟩, ?_, ht.reachable, ?_, hfits⟩
  · rw [hown, ht.own_eq]
  · rw [htransmissions, ht.transmissions_eq]
  · rw [hsettings, ht.settings_eq]
  · rw [hsender, ht.sender_eq]

lemma setCall (ht : s.Traced settings h) (i : Nat) (state : CallState)
    (hstate : state.Fits settings) : (s.setCall i state).Traced settings h := by
  refine ht.of_eq rfl rfl rfl rfl ?_
  intro c hc
  obtain ⟨j, hj⟩ := List.mem_iff_getElem?.1 hc
  rw [Session.setCall, List.getElem?_modify, Option.map_eq_map, Option.map_eq_some_iff] at hj
  obtain ⟨c', hc', rfl⟩ := hj
  split_ifs
  · exact hstate
  · exact ht.fits c' (List.mem_of_getElem? hc')

lemma answer (ht : s.Traced settings h) (i : Nat) (answer : Answer) :
    (s.answer i answer).Traced settings h := by
  rw [Session.answer]
  split
  · have ht' := ht.setCall i (.returned answer) trivial
    refine ht'.of_eq rfl rfl rfl ?_ ht'.fits
    rw [happen, List.filterMap_append]
    exact List.append_nil _
  · exact ht

lemma notifyProgress (ht : s.Traced settings h) : s.notifyProgress.Traced settings h := by
  refine ht.of_eq rfl rfl rfl rfl ?_
  intro c hc
  obtain ⟨c', hc', rfl⟩ := List.mem_map.1 hc
  have hfits := ht.fits c' hc'
  show c'.state.notify.Fits settings
  -- being woken changes neither what a call waits for nor its payload
  cases hstate : c'.state with
  | sending payload flags notified =>
      rw [hstate] at hfits
      exact hfits
  | starting | awaiting | joining | returned => trivial

/-! ### Turns -/

/-- A turn of the sender, with what it leaves in the timeline. -/
lemma act (ht : s.Traced settings h) (hs : History.Step settings h h') (timer : Timer)
    (actions : List Action) (htold : s.Told log)
    (hlog : h'.log = ReliableTransfer.performAll (recorder s.now s.takes) actions log) :
    (ReliableTransfer.performAll link actions
      { s with timer, sender := h'.sender }).Traced settings h' := by
  have htold' : ({ s with timer, sender := h'.sender } : Session).Told log :=
    ⟨htold.own_eq, htold.transmissions_eq⟩
  obtain ⟨timeline, transmissions, hperform, hall⟩ := htold'.performAll actions
  rw [hperform] at hall ⊢
  exact ⟨hlog ▸ hall, ht.settings_eq, ht.reachable.step hs, rfl, ht.fits⟩

/-- **A call to send** sends if there is room. -/
lemma trySend (ht : s.Traced settings h) (i : Nat) {payload : Bytes} (flags : Flags)
    (fits : Sender.refusal? settings payload = none) :
    ∃ h', History.Later settings h h' ∧ (s.trySend i payload flags).Traced settings h' := by
  obtain rfl := ht.settings_eq
  have hsender := ht.sender_eq
  rw [Session.trySend]
  split_ifs with hstopped hroom
  · exact ⟨h, .refl, ht.answer i _⟩
  · rw [Bool.not_eq_true', Bool.not_eq_false, hsender] at hstopped
    rw [hsender] at hroom
    have hstep : History.Step s.settings h (h.send s.takes s.now payload flags) :=
      .send _ _ payload flags hstopped hroom fits
    have hact := ht.act hstep s.timer [.transmit (h.sender.packet payload flags)]
      (ht.toTold.append rfl rfl) rfl
    refine ⟨_, .single hstep, Traced.answer ?_ i _⟩
    rw [hsender]
    exact hact
  · exact ⟨h, .refl, ht.setCall i _ fits⟩

lemma tryComplete (ht : s.Traced settings h) (i : Nat) (deadline : Int) (waited : Bool) :
    (s.tryComplete i deadline waited).Traced settings h := by
  rw [Session.tryComplete]
  split_ifs
  · exact ht.answer i _
  · exact ht.answer i _
  · exact ht.setCall i _ trivial

lemma acknowledge (ht : s.Traced settings h) (number : UInt32) :
    ({ s with sender := s.sender.acknowledge number } : Session).Traced settings
      (h.acknowledge number) := by
  rw [ht.sender_eq]
  exact ht.act (.acknowledge number) s.timer [] (ht.toTold.append rfl rfl) rfl

lemma stop (ht : s.Traced settings h) (timer : Timer) :
    ({ s with sender := s.sender.stop, timer } : Session).Traced settings h.stop := by
  rw [ht.sender_eq]
  exact ht.act .stop timer [] (ht.toTold.append rfl rfl) rfl

lemma begin (ht : s.Traced settings h) (i : Nat) (op : Operation) :
    ∃ h', History.Later settings h h' ∧ (s.begin i op).Traced settings h' := by
  cases op with
  | send payload flags =>
      rw [Session.begin, ht.settings_eq]
      cases hrefusal : Sender.refusal? settings payload with
      | some cause => exact ⟨h, .refl, ht.answer i _⟩
      | none => exact ht.trySend i flags hrefusal
  | acknowledge number =>
      exact ⟨_, .single (.acknowledge number), (ht.acknowledge number).notifyProgress.answer i _⟩
  | await timeout => exact ⟨h, .refl, ht.tryComplete i _ false⟩
  | stop =>
      have hstop := (ht.stop s.timer.notify).notifyProgress
      refine ⟨_, .single .stop, ?_⟩
      rw [Session.begin]
      split_ifs
      · exact hstop.answer i _
      · exact hstop.setCall i _ trivial

lemma resumeCall (ht : s.Traced settings h) (i : Nat) :
    ∃ h', History.Later settings h h' ∧ (s.resumeCall i).Traced settings h' := by
  rw [Session.resumeCall]
  cases hcall : s.calls[i]? with
  | none => exact ⟨h, .refl, ht⟩
  | some c =>
      have hfits := ht.fits c (List.mem_of_getElem? hcall)
      dsimp only
      cases hstate : c.state with
      | starting op => exact ht.begin i op
      | sending payload flags notified =>
          rw [hstate] at hfits
          exact ht.trySend i flags hfits
      | awaiting deadline notified => exact ⟨h, .refl, ht.tryComplete i deadline true⟩
      | joining => exact ⟨h, .refl, ht.answer i _⟩
      | returned answer => exact ⟨h, .refl, ht⟩

/-- **A turn of the timer** is a scan, or it does nothing to the sender. -/
lemma resumeTimer (ht : s.Traced settings h) :
    ∃ h', History.Later settings h h' ∧ s.resumeTimer.Traced settings h' := by
  obtain rfl := ht.settings_eq
  rw [Session.resumeTimer]
  rcases Timer.resume_cases s.settings s.now s.sender s.timer with
    ⟨timer, hresume, _⟩ | ⟨running, _, timer, hresume⟩
  · rw [hresume]
    exact ⟨h, .refl, ht.of_eq rfl rfl rfl rfl ht.fits⟩
  · rw [hresume, ht.sender_eq]
    rw [ht.sender_eq] at running
    have hstep : History.Step s.settings h (h.scan s.settings s.takes s.now) := .scan _ _ running
    exact ⟨_, .single hstep, ht.act hstep timer _ ht.toTold rfl⟩

lemma resume (ht : s.Traced settings h) (i : Nat) :
    ∃ h', History.Later settings h h' ∧ (system.resume i s).Traced settings h' := by
  cases i with
  | zero => exact ht.resumeTimer
  | succ i => exact ht.resumeCall i

/-! ### Runs -/

lemma run (ht : s.Traced settings h) (limit : Option Int) (fuel : Nat) :
    ∃ h', History.Later settings h h' ∧ (system.run limit fuel s).Traced settings h' := by
  refine system.run_invariant
    (P := fun s' => ∃ h', History.Later settings h h' ∧ s'.Traced settings h') ?_ ?_ limit fuel
    ⟨h, .refl, ht⟩
  · rintro i s' ⟨h', hl, ht'⟩
    obtain ⟨h'', hl', ht''⟩ := ht'.resume i
    exact ⟨h'', hl.trans hl', ht''⟩
  · rintro time s' ⟨h', hl, ht'⟩
    exact ⟨h', hl, ht'.of_eq rfl rfl rfl rfl ht'.fits⟩

lemma call (ht : s.Traced settings h) (number : Nat) (op : Operation) :
    ({ s with calls := s.calls ++ [⟨number, .starting op⟩] } : Session).Traced settings h := by
  refine ht.of_eq rfl rfl rfl rfl ?_
  intro c hc
  rcases List.mem_append.1 hc with hc | hc
  · exact ht.fits c hc
  · rw [List.mem_singleton.1 hc]
    trivial

lemma follow (ht : s.Traced settings h) (number : Nat) (instruction : Instruction) :
    ∃ h', History.Later settings h h' ∧ (s.follow number instruction).Traced settings h' := by
  cases instruction with
  | call op => exact (ht.call number op).run _ _
  | advance time =>
      obtain ⟨h', hl, ht'⟩ := ht.run (some (s.now + time)) (s.fuel (s.now + time - s.now))
      exact ⟨h', hl, ht'.of_eq rfl rfl rfl rfl ht'.fits⟩

/-- Each state of a session continues the history of those before. -/
lemma states (ht : s.Traced settings h) (number : Nat) (instructions : List Instruction) :
    ∀ s' ∈ s.states number instructions,
      ∃ h', History.Later settings h h' ∧ s'.Traced settings h' := by
  induction instructions generalizing s h number with
  | nil =>
      intro s' hs'
      rw [Session.states, List.mem_singleton] at hs'
      rw [hs']
      exact (ht.call number .stop).run _ _
  | cons instruction rest ih =>
      obtain ⟨h', hl, ht'⟩ := ht.follow number instruction
      intro s' hs'
      rcases List.mem_cons.1 hs' with rfl | hs'
      · exact ⟨h', hl, ht'⟩
      · obtain ⟨h'', hl', ht''⟩ := ih ht' (number + 1) s' hs'
        exact ⟨h'', hl.trans hl', ht''⟩

end Traced

/-- **Every state of a session comes of a history**: the sender is as the history leaves it, and the
timeline has the transmissions and the lines of its log. -/
theorem exists_history_of_mem_play {linked : Bool} {failing : List Nat}
    {instructions : List Instruction} {states : List Session}
    (hplay : play settings linked failing instructions = .ok states) (hs : s ∈ states) :
    ∃ h : History, h.Reachable settings ∧ s.sender = h.sender ∧
      s.timeline.filterMap SessionEvent.deed? = h.log.filter Deed.isOwn := by
  rw [play] at hplay
  cases hw : Sender.create settings with
  | error cause =>
      rw [hw] at hplay
      cases hplay
  | ok w =>
      rw [hw] at hplay
      cases linked with
      | false => cases hplay
      | true =>
          obtain rfl := Except.ok.inj hplay
          have htraced : ({ settings, failing } : Session).Traced settings ⟨w, []⟩ :=
            ⟨⟨rfl, rfl⟩, rfl, .start hw, (Sender.eq_of_create hw).symm, nofun⟩
          obtain ⟨h, _, hstart⟩ := htraced.run (some 0) _
          obtain ⟨h', _, ht⟩ := hstart.states 0 instructions s hs
          exact ⟨h', ht.reachable, ht.sender_eq, ht.own_eq.symm⟩

end Session

end ReliableTransfer
