import ReliableTransfer.Proofs.Window.Answers
import ReliableTransfer.Proofs.Window.Calls
import ReliableTransfer.Proofs.Window.Invariant
import ReliableTransfer.Proofs.Window.Sessions

/-!
# Whoever waits has a reason to

Whatever is done with a sender, in whichever order: whenever all tasks are blocked, whoever waits
has a reason to, the packets are numbered in the order of the calls, and nobody waits beyond the
stop or a deadline.

* `Session.Point.traced`, `Session.Point.packetsSent_le` — the sender at a point has a history, with
  no more packets than there are instructions to send one.
* `Session.Point.justified` — who waits at a point at which all tasks are blocked.
* `Session.Point.seqs_eq` — the numbers of the packets, in the order of the calls.
* `Session.exists_follow_of_play`, `Session.exists_run_of_play` — how the states of a session come
  of each other.
* **`Session.waits_justified`** — the whole, spelled out.
-/

namespace ReliableTransfer.Session

/-- The calls that have sent a packet, each with the packet's number, in the order in which they
returned. -/
def sent (s : Session) : List (Nat × UInt32) :=
  s.returns.filterMap sentReturn?

/-- Whether an instruction is to send. -/
def Instruction.isSend : Instruction → Bool
  | call (.send _ _) => true
  | _ => false

variable {settings : Settings} {failing : List Nat} {done : List Instruction} {limit : Option Int}
  {s s' : Session} {i : Nat} {c : Call} {state : CallState} {sender : Sender} {timer : Timer}
  {actions : List Action}

/-! ## The numbers do not run out -/

/-- Calls that want to send, after a turn of one call. -/
lemma countP_sends_turned (hc : s.calls[i]? = some c)
    (ht : Turned s i c state sender timer actions s') :
    s'.calls.countP (·.state.sends) + c.state.sends.toNat
      = s.calls.countP (·.state.sends) + state.sends.toNat := by
  have hwoken : (s.woken c.state).countP (·.state.sends) = s.calls.countP (·.state.sends) := by
    rw [woken]
    split_ifs
    · rw [notifyProgress, List.countP_map]
      exact List.countP_congr fun c _ => by rw [Function.comp_apply, CallState.sends_notify]
    · rfl
  have hsame : ∃ c₀, (s.woken c.state)[i]? = some c₀ ∧ c₀.state.sends = c.state.sends := by
    rw [woken]
    split_ifs
    · rw [notifyProgress, List.getElem?_map, hc]
      exact ⟨_, rfl, CallState.sends_notify _⟩
    · exact ⟨c, hc, rfl⟩
  obtain ⟨c₀, hc₀, hsends⟩ := hsame
  obtain ⟨before, behind, hsplit, _, hmodify⟩ := exists_split hc₀
  rw [ht.calls_eq, hmodify, ← hwoken, hsplit, ← hsends]
  simp only [List.countP_append, List.countP_cons]
  cases c₀.state.sends <;> cases state.sends <;> simp <;> omega

namespace Point

/-- **No more packets are sent** than there are instructions to send one. -/
lemma packetsSent_le (hp : Point settings failing done limit s) :
    s.sender.packetsSent + s.calls.countP (·.state.sends) ≤ done.countP Instruction.isSend := by
  have henter : ∀ {s : Session} (number : Nat) (i : Instruction),
      (s.enter number i).sender.packetsSent + (s.enter number i).calls.countP (·.state.sends)
        ≤ s.sender.packetsSent + s.calls.countP (·.state.sends) + [i].countP Instruction.isSend := by
    intro s number i
    cases i with
    | advance span => exact Nat.le_refl _
    | call op =>
        show _ + (s.calls ++ [_]).countP _ ≤ _
        rw [List.countP_append, ← Nat.add_assoc]
        cases op <;> exact Nat.le_refl _
  induction hp with
  | start => exact Nat.le_refl 0
  | @step done limit s s' _ hstep ih =>
      rcases system.step?_eq_some hstep with ⟨task, htask, rfl⟩ | ⟨_, _, _, _, rfl⟩
      · cases task with
        | zero =>
            obtain ⟨_, sender, _, hresume, ht⟩ := s.resumeTimer_eq
            have hsame : sender.packetsSent = s.sender.packetsSent := by
              rcases (Timer.resume_running hresume).2.2.2 with ⟨rfl, _⟩ | hscan
              · rfl
              · rw [show sender = _ from congrArg Prod.fst hscan]
                rfl
            show s.resumeTimer.sender.packetsSent + s.resumeTimer.calls.countP _ ≤ _
            rw [ht.sender_eq, ht.calls_eq, hsame]
            exact ih
        | succ i =>
            obtain ⟨c, hc, _, hstate, _⟩ := exists_call_of_firstReady? htask
            obtain ⟨state, sender, _, _, hm, ht⟩ := resumeCall_eq hc hstate
            have hcount := countP_sends_turned hc ht
            show (s.resumeCall i).sender.packetsSent + (s.resumeCall i).calls.countP _ ≤ _
            rw [ht.sender_eq]
            rcases InOrder.sends_or_quiet hm with ⟨hsends, _, rfl, hsent, _⟩ | ⟨_, hwants, hsent, _⟩
            · rw [hsends] at hcount
              have hnone : (CallState.returned (.sent s.sender.next)).sends.toNat = 0 := rfl
              rw [hnone, Bool.toNat_true] at hcount
              omega
            · have hle : state.sends.toNat ≤ c.state.sends.toNat := Bool.toNat_le_toNat hwants
              omega
      · exact ih
  | settle _ _ ih => exact ih
  | instruct i _ _ ih =>
      rw [List.countP_append]
      exact Nat.le_trans (henter _ i) (Nat.add_le_add_right ih _)
  | finish _ _ ih =>
      rw [List.countP_append]
      exact Nat.le_trans (henter _ _) (Nat.add_le_add_right ih _)

/-- **The sender at a point has a history.** -/
lemma traced (hp : Point settings failing done limit s) (hwindow : settings.window ≠ 0) :
    ∃ h, s.Traced settings h := by
  refine hp.invariant (P := fun s => ∃ h, s.Traced settings h) ?_ ?_ ?_ ?_
  · have hw : Sender.create settings = .ok {} := by rw [Sender.create, if_neg hwindow]
    exact ⟨⟨{}, []⟩, ⟨rfl, rfl⟩, rfl, .start hw, rfl, by simp⟩
  · rintro task s _ ⟨h, ht⟩
    obtain ⟨h', _, ht'⟩ := ht.resume task
    exact ⟨h', ht'⟩
  · rintro time s ⟨h, ht⟩
    exact ⟨h, ht.of_eq rfl rfl rfl rfl ht.fits⟩
  · rintro number op s ⟨h, ht⟩
    exact ⟨h, ht.call number op⟩

/-! ## Who waits -/

/-- **Whoever waits when all tasks are blocked** has a reason to: the sender is at work and the
window is full, or packets are in flight and there is time left. -/
lemma justified (hp : Point settings failing done limit s) (hwindow : settings.window ≠ 0)
    (hsends : done.countP Instruction.isSend < 4294967296) (hidle : system.Idle s)
    (hc : c ∈ s.calls) :
    (c.state.sends = true → s.sender.running = true ∧
      settings.window.toNat ≤ s.sender.next.toNat - s.sender.base.toNat) ∧
    (c.state.awaits = true → s.sender.inFlight ≠ [] ∧
      ∃ deadline, c.state = .awaiting deadline false ∧ s.now < deadline) := by
  have hready := (not_ready_of_idle hidle).2 c hc
  refine ⟨fun hwants => ?_, fun hawaits => ?_⟩
  · obtain ⟨hrunning, hfull⟩ := hp.awake.blocked_send hc hwants hready
    obtain ⟨h, ht⟩ := hp.traced hwindow
    -- the base is not above the next number, so the difference does not wrap
    have hcount := hp.packetsSent_le
    have hlength : h.log.items.length < 4294967296 := by
      rw [← ht.reachable.drawn.length_items, ← ht.sender_eq]
      omega
    have hcarries := (ht.reachable.inWindow hlength).carries
    have hbase : s.sender.base.toNat ≤ s.sender.next.toNat := by
      rw [ht.sender_eq, hcarries.next_eq]
      exact hcarries.base_le
    have hnext := s.sender.next.toNat_lt
    rw [hp.settings_eq, Sender.hasRoom, decide_eq_false_iff_not, UInt32.lt_iff_toNat_lt,
      UInt32.toNat_sub] at hfull
    exact ⟨hrunning, by omega⟩
  · obtain ⟨deadline, hstate, hacked, hlt⟩ := hp.awake.blocked_await hc hawaits hready
    rw [Sender.allAcked] at hacked
    exact ⟨List.isEmpty_eq_false_iff.1 hacked, deadline, hstate, hlt⟩

/-- **The packets are numbered in the order of the calls**, which is also the order in which the
calls return. -/
lemma seqs_eq (hp : Point settings failing done limit s)
    (hsends : done.countP Instruction.isSend < 4294967296) :
    s.sent.map (·.2.toNat) = List.range s.sent.length ∧
      (s.sent.map Prod.fst).Pairwise (· < ·) := by
  have ho := hp.inOrder
  have hcount := hp.packetsSent_le
  rw [sent, ho.returns_eq]
  refine ⟨?_, ?_⟩
  · have hlength : (s.calls.filterMap Call.sent?).length = s.sender.packetsSent := by
      rw [← List.length_map (f := Prod.snd), ho.seqs_eq, List.length_map, List.length_range]
    have hmap : (s.calls.filterMap Call.sent?).map (·.2.toNat)
        = ((List.range s.sender.packetsSent).map UInt32.ofNat).map UInt32.toNat := by
      rw [← ho.seqs_eq, List.map_map]
      rfl
    rw [hmap, hlength, List.map_map]
    conv_rhs => rw [← List.map_id (List.range s.sender.packetsSent)]
    refine List.map_congr_left fun n hn => ?_
    rw [List.mem_range] at hn
    exact toNat_ofNat_of_lt (by omega)
  · rw [List.pairwise_map, List.pairwise_filterMap]
    refine (List.pairwise_map.1 hp.dated.numbers).imp fun {c c'} hlt x hx x' hx' => ?_
    obtain ⟨_, _, rfl⟩ := Option.map_eq_some_iff.1 hx
    obtain ⟨_, _, rfl⟩ := Option.map_eq_some_iff.1 hx'
    exact hlt

end Point

/-! ## The states of a session -/

/-- All that is done in a session: the instructions, and the stop at the end. -/
def script (instructions : List Instruction) : List Instruction :=
  instructions ++ [.call .stop]

/-- A session in which a call was made runs from where the call begins. -/
lemma AtRest.exists_passes (hr : AtRest settings failing done s) (op : Operation) :
    ∃ limit, Point settings failing (done ++ [.call op]) limit (s.enter done.length (.call op)) ∧
      system.Passes limit (s.enter done.length (.call op)) (s.follow done.length (.call op)) := by
  refine ⟨some s.now, ?_, system.passes_run _ _ _⟩
  have hp := Point.instruct (.call op) hr.point hr.step?_eq
  rwa [Instruction.span, Int.add_zero] at hp

lemma length_states (s : Session) (number : Nat) (rest : List Instruction) :
    (s.states number rest).length = rest.length + 1 := by
  induction rest generalizing s number with
  | nil => rfl
  | cons i rest ih => exact congrArg (· + 1) (ih _ _)

/-- **There is a session** if there is a window. -/
lemma play_eq (hwindow : settings.window ≠ 0) (failing : List Nat)
    (instructions : List Instruction) :
    play settings true failing instructions
      = .ok ((start settings failing).states 0 instructions) := by
  rw [play, Sender.create, if_neg hwindow]
  rfl

/-- At no time there were more instructions to send than there are in all. -/
lemma countP_take_script_le (instructions : List Instruction) (k : Nat) :
    ((script instructions).take k).countP Instruction.isSend
      ≤ instructions.countP Instruction.isSend := by
  have hall : (script instructions).countP Instruction.isSend
      = instructions.countP Instruction.isSend := by
    rw [script, List.countP_append]
    rfl
  rw [← hall]
  exact ((script instructions).take_sublist k).countP_le

/-- **Each state of a session comes of the one before**, which is at rest, by the next of the
instructions or by the stop at the end. -/
lemma exists_follow_of_play {instructions : List Instruction} {states : List Session}
    (hpoll : 1 ≤ settings.poll) (hplay : play settings true failing instructions = .ok states)
    {k : Nat} (hk : states[k]? = some s') :
    ∃ s i, (start settings failing :: states)[k]? = some s ∧ (script instructions)[k]? = some i ∧
      ((script instructions).take k).length = k ∧
      AtRest settings failing ((script instructions).take k) s ∧
      (s' = s.follow k i ∨ (i = .call .stop ∧ s' = s.finish k)) := by
  obtain rfl : (start settings failing).states 0 instructions = states := by
    rw [play] at hplay
    cases hw : Sender.create settings with
    | error cause =>
        rw [hw] at hplay
        cases hplay
    | ok w =>
        rw [hw] at hplay
        exact Except.ok.inj hplay
  have hstart : AtRest settings failing [] (start settings failing) := .start hpoll
  obtain ⟨s, hs, hr, hnext⟩ := hstart.of_states hpoll hk
  rw [List.nil_append] at hr hnext
  have hle : k ≤ instructions.length := by
    rcases hnext with ⟨i, hi, _⟩ | ⟨hlast, _⟩
    · exact Nat.le_of_lt (List.getElem?_eq_some_iff.1 hi).1
    · exact Nat.le_of_eq hlast.symm
  have htake : (script instructions).take k = instructions.take k :=
    List.take_append_of_le_length hle
  have hlength : (instructions.take k).length = k := List.length_take_of_le hle
  rw [htake]
  rw [hlength] at hnext
  rcases hnext with ⟨i, hi, hfollow⟩ | ⟨rfl, hfinish⟩
  · refine ⟨s, i, hs, ?_, hlength, hr, .inl hfollow⟩
    rw [script, List.getElem?_append_left (List.getElem?_eq_some_iff.1 hi).1, hi]
  · exact ⟨s, .call .stop, hs, List.getElem?_concat_length, hlength, hr, .inr ⟨rfl, hfinish⟩⟩

/-- That one is at rest, the instruction is entered, and then the tasks run until all are
blocked. -/
lemma exists_run_of_play {instructions : List Instruction} {states : List Session}
    (hpoll : 1 ≤ settings.poll) (hplay : play settings true failing instructions = .ok states)
    {k : Nat} (hk : states[k]? = some s') :
    ∃ s i, (start settings failing :: states)[k]? = some s ∧ (script instructions)[k]? = some i ∧
      ((script instructions).take k).length = k ∧
      AtRest settings failing ((script instructions).take k) s ∧
      (∃ limit, Point settings failing ((script instructions).take (k + 1)) limit s') ∧
      system.Idle s' ∧
      ∀ op, i = .call op → ∃ limit,
        Point settings failing ((script instructions).take k ++ [i]) limit (s.enter k i) ∧
        system.Passes limit (s.enter k i) s' := by
  obtain ⟨s, i, hs, hi, hlength, hr, hnext⟩ := exists_follow_of_play hpoll hplay hk
  refine ⟨s, i, hs, hi, hlength, hr, ?_⟩
  rw [List.take_add_one, hi]
  rcases hnext with rfl | ⟨rfl, rfl⟩
  · have hr' := hr.follow hpoll i
    rw [hlength] at hr'
    refine ⟨⟨_, hr'.point⟩, (system.step?_eq_none hr'.step?_eq).1, ?_⟩
    rintro op rfl
    obtain ⟨limit, hp, hpasses⟩ := hr.exists_passes op
    rw [hlength] at hp hpasses
    exact ⟨limit, hp, hpasses⟩
  · obtain ⟨hp, hend⟩ := hr.finish hpoll
    have hp' := hr.point.finish hr.step?_eq
    rw [hlength] at hp hend hp'
    refine ⟨⟨none, hp⟩, (system.step?_eq_none hend).1, ?_⟩
    rintro op h
    exact ⟨none, hp', system.passes_run _ _ _⟩

/-! ## The whole -/

/-- **Whoever waits has a reason to, spelled out.**  Take any settings with a window and a poll
interval, any link, and any instructions with fewer than 4294967296 sends among them.  There is a
session, and each of its states is a point at which all tasks are blocked.  At every such point,
a call to send that has not returned finds the sender at work and the window full, and a call for
completion finds packets in flight and has time left.  Therefore the sends that succeed get the
numbers from zero on, in the order of the instructions; those that are blocked when the sender is
stopped are refused at that time, and those that come later as well, for the stop or for a payload
that is too long; and a call for completion comes back in vain only with packets in flight and its
time up, at once if its time was up from the start. -/
theorem waits_justified {instructions : List Instruction} (hwindow : settings.window ≠ 0)
    (hpoll : 1 ≤ settings.poll)
    (hsends : instructions.countP Instruction.isSend < 4294967296) :
    ∃ states, play settings true failing instructions = .ok states ∧
      states.length = instructions.length + 1 ∧
      (∀ k s, states[k]? = some s → system.Idle s ∧
        ∃ limit, Point settings failing ((script instructions).take (k + 1)) limit s) ∧
      (∀ k limit s, Point settings failing ((script instructions).take k) limit s →
        system.Idle s → ∀ c ∈ s.calls,
          (c.state.sends = true → s.sender.running = true ∧
            settings.window.toNat ≤ s.sender.next.toNat - s.sender.base.toNat) ∧
          (c.state.awaits = true → s.sender.inFlight ≠ [] ∧
            ∃ deadline, c.state = .awaiting deadline false ∧ s.now < deadline)) ∧
      (∀ s ∈ states, s.sent.map (·.2.toNat) = List.range s.sent.length ∧
        (s.sent.map Prod.fst).Pairwise (· < ·)) ∧
      (∀ k s s', states[k]? = some s → (script instructions)[k + 1]? = some (.call .stop) →
        states[k + 1]? = some s' → ∀ c ∈ s.calls, c.state.sends = true →
          (s.now, c.number, .refused .stopped) ∈ s'.returns) ∧
      (∀ j k payload flags s, j < k → (script instructions)[j]? = some (.call .stop) →
        (script instructions)[k]? = some (.call (.send payload flags)) → states[k]? = some s →
          (clock ((script instructions).take k), k,
            .refused ((Sender.refusal? settings payload).getD .stopped)) ∈ s.returns) ∧
      (∀ s ∈ states, ∀ time number, (time, number, .awaited false) ∈ s.returns →
        Expired settings failing (script instructions) time number) := by
  have hplay := play_eq hwindow failing instructions
  have hcount (k : Nat) : ((script instructions).take k).countP Instruction.isSend < 4294967296 :=
    Nat.lt_of_le_of_lt (countP_take_script_le instructions k) hsends
  refine ⟨_, hplay, length_states _ _ _, ?_, ?_, ?_, ?_, ?_, ?_⟩
  · intro k s hk
    obtain ⟨_, _, _, _, _, _, hpoint, hidle, _⟩ := exists_run_of_play hpoll hplay hk
    exact ⟨hidle, hpoint⟩
  · intro k limit s hp hidle c hc
    exact hp.justified hwindow (hcount k) hidle hc
  · intro s hs
    obtain ⟨k, hk⟩ := List.mem_iff_getElem?.1 hs
    obtain ⟨_, _, _, _, _, _, ⟨limit, hp⟩, _⟩ := exists_run_of_play hpoll hplay hk
    exact hp.seqs_eq (hcount _)
  · intro k s s' hk hstop hk' c hc hwants
    obtain ⟨s₀, i, hs₀, hi, hlength, hr, _, hidle, hruns⟩ := exists_run_of_play hpoll hplay hk'
    obtain rfl : s₀ = s := Option.some.inj (hs₀.symm.trans hk)
    obtain rfl : i = .call .stop := Option.some.inj (hi.symm.trans hstop)
    obtain ⟨limit, hp, hpasses⟩ := hruns _ rfl
    have henter : s₀.enter (k + 1) (.call .stop)
        = s₀.enter ((script instructions).take (k + 1)).length (.call .stop) := by rw [hlength]
    rw [henter] at hp hpasses
    exact hr.halts hp hpasses hidle hc hwants
  · intro j k payload flags s hjk hstop hsend hk
    obtain ⟨s₀, i, _, hi, hlength, hr, _, hidle, hruns⟩ := exists_run_of_play hpoll hplay hk
    obtain rfl : i = .call (.send payload flags) := Option.some.inj (hi.symm.trans hsend)
    obtain ⟨limit, hp, hpasses⟩ := hruns _ rfl
    have hmem : .call .stop ∈ (script instructions).take k :=
      List.mem_iff_getElem?.2 ⟨j, by rw [List.getElem?_take_of_lt hjk, hstop]⟩
    have henter : s₀.enter k (.call (.send payload flags))
        = s₀.enter ((script instructions).take k).length (.call (.send payload flags)) := by
      rw [hlength]
    rw [henter] at hpasses
    have hrefuses := hr.refuses hmem hpasses hidle
    rwa [hlength, hr.point.limit_eq _ rfl] at hrefuses
  · intro s hs time number hreturn
    obtain ⟨k, hk⟩ := List.mem_iff_getElem?.1 hs
    obtain ⟨_, _, _, _, _, _, ⟨limit, hp⟩, _⟩ := exists_run_of_play hpoll hplay hk
    exact (hp.expired hreturn).of_front (List.take_prefix _ _)

/-- Two sends for a window of one packet, a call for completion with five milliseconds, seven of
which pass, a stop, and one more send. -/
def crowded : List Instruction :=
  [.call (.send [1] Flags.data), .call (.send [2] Flags.data), .call (.await 5), .advance 7,
    .call .stop, .call (.send [3] Flags.data)]

/-- The second send waits until the stop and is refused then; the call for completion comes back in
vain after five milliseconds; and the last send is refused as well. -/
theorem waits_justified_crowded :
    ({ window := 1 } : Settings).window ≠ 0 ∧ (1 : Int) ≤ ({ window := 1 } : Settings).poll ∧
    crowded.countP Instruction.isSend < 4294967296 ∧
    ∃ states, play { window := 1 } true [] crowded = .ok states ∧ states.length = 7 ∧
      (∀ s ∈ states, system.Idle s) ∧
      (∃ s s', states[3]? = some s ∧ states[4]? = some s' ∧
        s.calls.map (·.state.sends) = [false, true, false] ∧
        s.returns = [(0, 0, .sent 0), (5, 2, .awaited false)] ∧
        (7, 1, .refused .stopped) ∈ s'.returns ∧
        Expired { window := 1 } [] (script crowded) 5 2) ∧
      ∃ s, states[5]? = some s ∧ (7, 5, .refused .stopped) ∈ s.returns := by
  have hwindow : ({ window := 1 } : Settings).window ≠ 0 := by decide
  have hpoll : (1 : Int) ≤ ({ window := 1 } : Settings).poll := by decide
  have hsends : crowded.countP Instruction.isSend < 4294967296 := by decide
  obtain ⟨states, hplay, hlength, hidle, _, _, hhalts, hrefuses, hexpired⟩ :=
    @waits_justified _ [] _ hwindow hpoll hsends
  obtain rfl : (start { window := 1 } []).states 0 crowded = states := Except.ok.inj hplay
  refine ⟨hwindow, hpoll, hsends, _, rfl, hlength, fun s hs => ?_, ?_, ?_⟩
  · obtain ⟨k, hk⟩ := List.mem_iff_getElem?.1 hs
    exact (hidle k s hk).1
  · refine ⟨_, _, rfl, rfl, by decide +kernel, by decide +kernel, ?_, ?_⟩
    · exact hhalts 3 _ _ rfl rfl rfl ⟨1, .sending [2] Flags.data false⟩ (by decide +kernel) rfl
    · exact hexpired _ (List.mem_of_getElem? (i := 3) rfl) 5 2 (by decide +kernel)
  · exact ⟨_, rfl, hrefuses 4 5 [3] Flags.data _ (by decide) rfl rfl rfl⟩

/-- After the stop not every send is refused for the stop, and not every call for completion that
comes back in vain does so at its deadline: a payload that is too long is refused for that, and a
call with a negative time comes back at once, with its deadline, five milliseconds ago, passed. -/
theorem oversized_after_stop_and_await_late :
    (∃ states s, play { maxPayload := 1 } true []
        [.call .stop, .call (.send [1, 2] Flags.data)] = .ok states ∧ states[1]? = some s ∧
      s.returns = [(0, 0, .stopped), (0, 1, .refused (.oversized 2 1))]) ∧
    (∃ states s, play {} true []
        [.call (.send [1] Flags.data), .call (.await (-5))] = .ok states ∧ states[1]? = some s ∧
      s.returns = [(0, 0, .sent 0), (0, 1, .awaited false)] ∧ s.sender.allAcked = false) :=
  ⟨⟨_, _, rfl, rfl, by decide +kernel⟩, ⟨_, _, rfl, rfl, by decide +kernel, by decide +kernel⟩⟩

end ReliableTransfer.Session
