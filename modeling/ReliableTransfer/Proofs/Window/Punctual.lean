import ReliableTransfer.Proofs.Window.Tracking

/-!
# Every packet is sent again on time

Whatever else a session does, a packet in flight is sent again at the times of its own timetable,
and complained about once at the end of it, until it is acknowledged or the sender is stopped.

* `Session.lastTime` — the time up to which a packet is looked after.
* `Session.beating_of_play` — a session is at work until its sender is stopped.
* `Session.Stands`, `Session.Stands.follow` — how things stand with a packet, and what one
  instruction makes of it.
* `Session.again_of_play`, `Session.first_of_play` — what is sent while time runs on, and when a
  call is made.
* **`Session.resent_on_schedule`** — the whole, spelled out.
-/

namespace ReliableTransfer.Session

variable {settings : Settings} {failing : List Nat} {instructions : List Instruction}
  {states : List Session} {s s' : Session} {i : Instruction} {k l m : Nat} {n : UInt32}
  {time : Int} {p : Packet} {hand : List (Int × Packet)} {warn : List (Int × UInt32)}

/-! ## Up to when a packet is looked after -/

/-- **The time up to which a packet is looked after** that was first sent by instruction `k`: when
the first of the later instructions begins that settles its number, or when the first `l` have
ended. -/
def lastTime (instructions : List Instruction) (k l : Nat) (n : UInt32) : Int :=
  clock (instructions.take
    (k + 1 + ((instructions.take l).drop (k + 1)).findIdx (Instruction.settles n)))

/-- The instructions behind one, up to another. -/
lemma drop_take_succ (hlt : k < l) (hi : instructions[l]? = some i) :
    (instructions.take (l + 1)).drop (k + 1) = (instructions.take l).drop (k + 1) ++ [i] := by
  have hlength : (instructions.take l).length = l :=
    List.length_take_of_le (Nat.le_of_lt (List.getElem?_eq_some_iff.1 hi).1)
  rw [List.take_add_one, hi, Option.toList_some, List.drop_append_of_le_length (by omega)]

lemma lastTime_of_open (hlt : k < l) (hle : l ≤ instructions.length)
    (hopen : ∀ i ∈ (instructions.take l).drop (k + 1), i.settles n = false) :
    lastTime instructions k l n = clock (instructions.take l) := by
  have hindex := List.findIdx_eq_length_of_false hopen
  rw [List.length_drop, List.length_take_of_le hle] at hindex
  rw [lastTime, hindex, Nat.add_sub_cancel' hlt]

/-- Once its number was settled, the time does not change. -/
lemma lastTime_succ (hlt : k < l) (hi : instructions[l]? = some i)
    (hsettled : ∃ j ∈ (instructions.take (l + 1)).drop (k + 1), j.settles n = true) :
    lastTime instructions k (l + 1) n = lastTime instructions k l n := by
  rw [drop_take_succ hlt hi] at hsettled
  rw [lastTime, lastTime, drop_take_succ hlt hi, List.findIdx_append]
  split_ifs with hearlier
  · rfl
  · -- it is the last of them that settles it
    have hopen : ∀ j ∈ (instructions.take l).drop (k + 1), j.settles n = false := by
      intro j hj
      rw [← Bool.not_eq_true]
      exact fun hsettles => hearlier (List.findIdx_lt_length_of_exists ⟨j, hj, hsettles⟩)
    obtain ⟨j, hj, hsettles⟩ := hsettled
    rcases List.mem_append.1 hj with hj | hj
    · rw [hopen j hj] at hsettles
      cases hsettles
    · obtain rfl := List.mem_singleton.1 hj
      have hindex : [j].findIdx (Instruction.settles n) = 0 := by
        rw [List.findIdx_cons, hsettles, cond_true]
      rw [List.findIdx_eq_length_of_false hopen, hindex, Nat.zero_add]

/-! ## A session at work -/

/-- **A session is at work** until its sender is stopped. -/
lemma beating_of_play (hpoll : 1 ≤ settings.poll) (hspans : ∀ i ∈ instructions, 0 ≤ i.span)
    (hplay : play settings true failing instructions = .ok states)
    (hs : (start settings failing :: states)[k]? = some s) :
    s.sender.running = false ∨ (s.Beating settings ∧ s.pulse.Tidy) := by
  induction k generalizing s with
  | zero =>
      obtain rfl := Option.some.inj hs
      refine .inr ⟨beating_start hpoll failing, ?_⟩
      rw [start_eq hpoll]
      exact ⟨.nil, rfl, nofun, nofun, nofun⟩
  | succ k ih =>
      obtain ⟨s₀, _, hs₀, _⟩ := exists_follow_of_play hpoll hplay hs
      obtain ⟨i, _, _, hfollowed, hhalted⟩ := followed_of_play hpoll hspans hplay hs₀ hs
      rcases ih hs₀ with hstopped | ⟨hb, ht⟩
      · exact .inl (hhalted hstopped).stopped
      · cases hrunning : s.sender.running with
        | false => exact .inl rfl
        | true => exact .inr ((hfollowed hb).tidy hb ht hrunning)

/-! ## How things stand with a packet -/

/-- What has come of a packet is all that shows whether it was sent on time. -/
lemma OnTime.of_eq {last : Int} (ho : s.OnTime settings time p hand warn last)
    (hhanded : s'.handed.filter (·.2.seq = p.seq) = s.handed.filter (·.2.seq = p.seq))
    (hwarned : s'.warned.filter (·.2 = p.seq) = s.warned.filter (·.2 = p.seq)) :
    s'.OnTime settings time p hand warn last :=
  ⟨hhanded.trans ho.handed_eq, hwarned.trans ho.warned_eq⟩

/-- **How things stand** after `l` instructions with a packet that was first sent by instruction `k`
as the one with index `m`. -/
inductive Stands (settings : Settings) (instructions : List Instruction) (k m : Nat) (time : Int)
    (p : Packet) (hand : List (Int × Packet)) (warn : List (Int × UInt32)) (l : Nat) (s : Session) :
    Prop
  /-- It is looked after. -/
  | tracked (unsettled : ∀ i ∈ (instructions.take l).drop (k + 1), i.settles p.seq = false)
      (beating : s.Beating settings) (tidy : s.pulse.Tidy)
      (tracks : s.pulse.Tracks settings time p hand warn)
      (lt_packetsSent : m < s.sender.packetsSent) (now_eq : s.now = clock (instructions.take l))
      (le_now : time ≤ s.now)
  /-- It was acknowledged, or the sender was stopped. -/
  | settled (settled : ∃ i ∈ (instructions.take l).drop (k + 1), i.settles p.seq = true)
      (onTime : s.OnTime settings time p hand warn (lastTime instructions k l p.seq))
      (gone : s.sender.running = true → s.Beating settings ∧ s.pulse.Tidy ∧
        m < s.sender.packetsSent ∧ s.pulse.Gone p.seq (s.handed.filter (·.2.seq = p.seq))
          (s.warned.filter (·.2 = p.seq)))

namespace Stands

/-- Once nothing is in flight under its number, nothing more comes of it. -/
lemma of_gone (hf : Followed settings s s' i) (hb : s.Beating settings) (ht : s.pulse.Tidy)
    (hm : m < s.sender.packetsSent)
    (hsettled : ∃ j ∈ (instructions.take l).drop (k + 1), j.settles p.seq = true)
    (hbefore : s.OnTime settings time p hand warn (lastTime instructions k l p.seq))
    (hgone : s'.handed.filter (·.2.seq = p.seq) = s.handed.filter (·.2.seq = p.seq) ∧
      s'.warned.filter (·.2 = p.seq) = s.warned.filter (·.2 = p.seq) ∧
      (s'.sender.running = true → s'.pulse.Gone p.seq (s.handed.filter (·.2.seq = p.seq))
        (s.warned.filter (·.2 = p.seq)))) :
    Stands settings instructions k m time p hand warn l s' := by
  obtain ⟨hhanded, hwarned, hgone⟩ := hgone
  refine .settled hsettled (hbefore.of_eq hhanded hwarned) fun hrunning => ?_
  obtain ⟨hb', ht'⟩ := hf.tidy hb ht hrunning
  refine ⟨hb', ht', Nat.lt_of_lt_of_le hm hf.packetsSent_le, ?_⟩
  rw [hhanded, hwarned]
  exact hgone hrunning

variable (hpoll : 1 ≤ settings.poll) (htimeout : 0 ≤ settings.timeout)
include hpoll htimeout

/-- **A packet is sent on time** however things stand with it. -/
lemma onTime (hk : Stands settings instructions k m time p hand warn l s)
    (hlt : k < l) (hle : l ≤ instructions.length) (hidle : system.Idle s) :
    s.OnTime settings time p hand warn (lastTime instructions k l p.seq) := by
  cases hk with
  | tracked hopen hb _ htracks _ hnow htime =>
      rw [lastTime_of_open hlt hle hopen, ← hnow]
      exact htracks.onTime hpoll htimeout hb.toTimed (hb.lt_wake hidle) htime
  | settled _ honTime => exact honTime

/-- **What one instruction makes of it.** -/
lemma follow (hk : Stands settings instructions k m time p hand warn l s) (hlt : k < l)
    (hi : instructions[l]? = some i) (hidle : system.Idle s)
    (hfollowed : s.Beating settings → Followed settings s s' i)
    (hhalted : s.sender.running = false → Halted s s') (hseq : p.seq = UInt32.ofNat m)
    (hround : s'.sender.packetsSent ≤ m + 4294967296) :
    Stands settings instructions k m time p hand warn (l + 1) s' := by
  have hle : l ≤ instructions.length := Nat.le_of_lt (List.getElem?_eq_some_iff.1 hi).1
  have hbefore := hk.onTime hpoll htimeout hlt hle hidle
  have hsplit := drop_take_succ hlt hi
  cases hk with
  | tracked hopen hb ht htracks hm hnow htime =>
      have hf := hfollowed hb
      cases hsettles : i.settles p.seq with
      | false =>
          obtain ⟨hb', ht', htracks'⟩ :=
            hf.tracks hpoll htimeout hb ht hseq hm hround htracks hsettles
          obtain ⟨hnow', hspan⟩ := hf.now_eq hsettles
          refine .tracked ?_ hb' ht' htracks' (Nat.lt_of_lt_of_le hm hf.packetsSent_le) ?_ ?_
          · rw [hsplit]
            intro j hj
            rcases List.mem_append.1 hj with hj | hj
            · exact hopen j hj
            · rw [List.mem_singleton.1 hj, hsettles]
          · rw [List.take_add_one, hi, Option.toList_some, clock_concat, ← hnow, hnow']
          · omega
      | true =>
          have hsettled : ∃ j ∈ (instructions.take (l + 1)).drop (k + 1), j.settles p.seq = true :=
            ⟨i, hsplit ▸ List.mem_append_right _ (List.mem_singleton_self i), hsettles⟩
          rw [← lastTime_succ hlt hi hsettled] at hbefore
          exact of_gone hf hb ht hm hsettled hbefore (hf.settled hb ht hseq hm hround hsettles)
  | settled hsettled _ hgone =>
      have hsettled' : ∃ j ∈ (instructions.take (l + 1)).drop (k + 1), j.settles p.seq = true := by
        obtain ⟨j, hj, hsettles⟩ := hsettled
        exact ⟨j, hsplit ▸ List.mem_append_left _ hj, hsettles⟩
      rw [← lastTime_succ hlt hi hsettled'] at hbefore
      cases hrunning : s.sender.running with
      | false =>
          have hh := hhalted hrunning
          refine .settled hsettled' (hbefore.of_eq ?_ ?_) fun hrunning' => ?_
          · rw [hh.handed_eq]
          · rw [hh.warned_eq]
          · rw [hh.stopped] at hrunning'
            cases hrunning'
      | true =>
          obtain ⟨hb, ht, hm, hg⟩ := hgone hrunning
          have hf := hfollowed hb
          exact of_gone hf hb ht hm hsettled' hbefore (hf.gone hb ht hseq hm hround hg)

end Stands

/-! ## One instruction of a session -/

section

variable (hpoll : 1 ≤ settings.poll) (hspans : ∀ i ∈ instructions, 0 ≤ i.span)
  (hplay : play settings true failing instructions = .ok states)
  (hs : (start settings failing :: states)[k]? = some s) (hs' : states[k]? = some s')
include hpoll hspans hplay hs hs'

/-- **While time runs on**, packets in flight are sent again, and nothing else is sent. -/
lemma again_of_play {span : Int} (hi : (script instructions)[k]? = some (.advance span)) :
    ∃ again, s'.handed = s.handed ++ again ∧
      again.Pairwise (fun a b => a.1 < b.1 ∨ a.1 = b.1 ∧ a.2.seq < b.2.seq) ∧
      ∀ c ∈ again, c.2.seq ∈ s.sender.numbers := by
  obtain ⟨i, hi', _, hfollowed, hhalted⟩ := followed_of_play hpoll hspans hplay hs hs'
  obtain rfl := Option.some.inj (hi.symm.trans hi')
  rcases beating_of_play hpoll hspans hplay hs with hstopped | ⟨hb, ht⟩
  · exact ⟨[], by rw [(hhalted hstopped).handed_eq, List.append_nil], .nil, nofun⟩
  · cases hfollowed hb with
    | advance m _ _ _ hpulse =>
        obtain ⟨again, hhanded, _, hpairwise, hagain⟩ := ht.exists_again hpoll m
        rw [← hpulse] at hhanded
        exact ⟨again, hhanded, hpairwise, fun c hc => (hagain c hc).2⟩

/-- **When a call is made**, packets are sent for the first time, and nothing else is sent. -/
lemma first_of_play (htimeout : 0 ≤ settings.timeout) {op : Operation}
    (hi : (script instructions)[k]? = some (.call op)) :
    ∃ first : List Packet,
      s'.handed = s.handed ++ first.map (clock ((script instructions).take k), ·) ∧
      first.map Packet.seq
        = (List.range first.length).map (fun i => UInt32.ofNat (s.sender.packetsSent + i)) ∧
      ∀ p ∈ first, s.pulse.Tidy ∧ ∃ m, p.seq = UInt32.ofNat m ∧ s.sender.packetsSent ≤ m ∧
        m < s'.sender.packetsSent ∧
        (p.seq ∉ s.sender.numbers → s'.sender.packetsSent ≤ s.sender.packetsSent + 4294967296 →
          Stands settings (script instructions) k m (clock ((script instructions).take k)) p
            (s.handed.filter (·.2.seq = p.seq)) (s.warned.filter (·.2 = p.seq)) (k + 1) s') := by
  obtain ⟨i, hi', hr, hfollowed, hhalted⟩ := followed_of_play hpoll hspans hplay hs hs'
  obtain rfl := Option.some.inj (hi.symm.trans hi')
  have hnow := hr.point.limit_eq _ rfl
  rcases beating_of_play hpoll hspans hplay hs with hstopped | ⟨hb, ht⟩
  · have hh := hhalted hstopped
    exact ⟨[], by rw [hh.handed_eq]; simp, rfl, nofun⟩
  · cases hfollowed hb with
    | stop hh => exact ⟨[], by rw [hh.handed_eq]; simp, rfl, nofun⟩
    | call hop hb' hwake hnow' hsends =>
        have hlt := hb.lt_wake (system.step?_eq_none hr.step?_eq).1
        obtain ⟨first, hf, htracks⟩ :=
          hsends.exists_firsts_order hpoll htimeout ht hb.dvd hlt hb.le_now
        have hcount : s'.sender.packetsSent = s.sender.packetsSent + first.length :=
          hf.packetsSent_eq
        rw [← hnow]
        refine ⟨first, hf.handed_eq, hf.seqs_eq, fun p hp => ⟨ht, ?_⟩⟩
        obtain ⟨j, hj, hseq⟩ := hf.exists_index hp
        have hlast : s.pulse.sender.packetsSent + j < s'.sender.packetsSent :=
          hcount ▸ Nat.add_lt_add_left hj _
        refine ⟨_, hseq, Nat.le_add_right _ _, hlast, fun hfresh hround => ?_⟩
        refine .tracked ?_ hb' ?_ (htracks hround p hp hfresh) hlast ?_ ?_
        · simp
        · exact Pulse.Sends.tidy hsends (ht.order op)
        · rw [List.take_add_one, hi, Option.toList_some, clock_concat, hnow', hnow]
          exact (Int.add_zero _).symm
        · exact Int.le_of_eq hnow'.symm

end

/-! ## A whole session -/

section

variable (hpoll : 1 ≤ settings.poll) (hspans : ∀ i ∈ instructions, 0 ≤ i.span)
  (hplay : play settings true failing instructions = .ok states)
include hpoll hspans hplay

/-- Packets that were sent stay so. -/
lemma packetsSent_le_of_play (hs : (start settings failing :: states)[k]? = some s)
    (hs' : states[k]? = some s') : s.sender.packetsSent ≤ s'.sender.packetsSent := by
  obtain ⟨_, _, _, hfollowed, hhalted⟩ := followed_of_play hpoll hspans hplay hs hs'
  rcases beating_of_play hpoll hspans hplay hs with hstopped | ⟨hb, _⟩
  · exact Nat.le_of_eq (hhalted hstopped).packetsSent_eq.symm
  · exact (hfollowed hb).packetsSent_le

/-- **From the call on** that first sent a packet. -/
lemma stands_of_play (htimeout : 0 ≤ settings.timeout) (hseq : p.seq = UInt32.ofNat m)
    {sent : Nat} (hsent : sent ≤ m + 4294967296) (hs' : states[k]? = some s')
    (hfirst : s'.sender.packetsSent ≤ sent →
      Stands settings (script instructions) k m time p hand warn (k + 1) s')
    (j : Nat) (hs : states[k + j]? = some s) (hround : s.sender.packetsSent ≤ sent) :
    Stands settings (script instructions) k m time p hand warn (k + j + 1) s := by
  induction j generalizing s with
  | zero =>
      obtain rfl := Option.some.inj (hs'.symm.trans hs)
      exact hfirst hround
  | succ j ih =>
      obtain ⟨s₀, _, hs₀, _⟩ := exists_follow_of_play hpoll hplay hs
      obtain ⟨i, hi, hr, hfollowed, hhalted⟩ := followed_of_play hpoll hspans hplay hs₀ hs
      have hle := packetsSent_le_of_play hpoll hspans hplay hs₀ hs
      exact (ih hs₀ (Nat.le_trans hle hround)).follow hpoll htimeout (by omega) hi
        (system.step?_eq_none hr.step?_eq).1 hfollowed hhalted hseq (Nat.le_trans hround hsent)

end

/-- No more packets are sent than there are instructions to send one. -/
lemma packetsSent_le_countP_of_play (hpoll : 1 ≤ settings.poll)
    (hplay : play settings true failing instructions = .ok states)
    (hs : (start settings failing :: states)[k]? = some s) :
    s.sender.packetsSent ≤ instructions.countP Instruction.isSend := by
  cases k with
  | zero =>
      obtain rfl := Option.some.inj hs
      rw [start_eq hpoll]
      exact Nat.zero_le _
  | succ k =>
      obtain ⟨_, _, _, _, _, _, ⟨_, hp⟩, _⟩ := exists_run_of_play hpoll hplay hs
      have hcount := hp.packetsSent_le
      have hle := countP_take_script_le instructions (k + 1)
      omega

/-- **Packets are sent on schedule, spelled out.**  Take any settings with a window, a poll interval
and a timeout that is not negative, any link, and any instructions by which time does not run
backwards.  There is a session, and a packet is sent again at the first multiple of the poll
interval that is more than the timeout after the time at which it was sent last.  While time runs
on, only packets in flight are sent again, in the order of time and, at one time, in the order of
their numbers.  When a call is made, only packets with the next numbers are sent, each for the first
time.  From then on such a packet, which the link may have taken or not, is sent again at the times
of its timetable, once for each retry, and complained about once, when the retries are used up and
its time comes again, all of it up to the time at which it is acknowledged or the sender is stopped,
whatever else has happened by then.  This holds as long as its number belongs to no other packet:
when nothing is in flight under it, until the numbers have come round, and always if there are no
more sends than numbers. -/
theorem resent_on_schedule (hwindow : settings.window ≠ 0) (hpoll : 1 ≤ settings.poll)
    (htimeout : 0 ≤ settings.timeout) (hspans : ∀ i ∈ instructions, 0 ≤ i.span) :
    (∀ time i, IsLeast {t | settings.poll ∣ t ∧ settings.resendTime time i + settings.timeout < t}
      (settings.resendTime time (i + 1))) ∧
    ∃ states, play settings true failing instructions = .ok states ∧
      states.length = instructions.length + 1 ∧
      ∀ k s s', (start settings failing :: states)[k]? = some s → states[k]? = some s' →
        (∀ span, (script instructions)[k]? = some (.advance span) →
          ∃ again, s'.handed = s.handed ++ again ∧
            again.Pairwise (fun a b => a.1 < b.1 ∨ a.1 = b.1 ∧ a.2.seq < b.2.seq) ∧
            ∀ c ∈ again, c.2.seq ∈ s.sender.numbers) ∧
        (∀ op, (script instructions)[k]? = some (.call op) →
          ∃ first : List Packet,
            s'.handed = s.handed ++ first.map (clock ((script instructions).take k), ·) ∧
            first.map Packet.seq
              = (List.range first.length).map (fun i => UInt32.ofNat (s.sender.packetsSent + i)) ∧
            ∀ p ∈ first,
              (p.seq ∉ s.sender.numbers → ∀ l s'', k ≤ l → states[l]? = some s'' →
                s''.sender.packetsSent ≤ s.sender.packetsSent + 4294967296 →
                s''.OnTime settings (clock ((script instructions).take k)) p
                  (s.handed.filter (·.2.seq = p.seq)) (s.warned.filter (·.2 = p.seq))
                  (lastTime (script instructions) k (l + 1) p.seq)) ∧
              (instructions.countP Instruction.isSend ≤ 4294967296 →
                ∀ l s'', k ≤ l → states[l]? = some s'' →
                s''.OnTime settings (clock ((script instructions).take k)) p [] []
                  (lastTime (script instructions) k (l + 1) p.seq))) := by
  refine ⟨fun time i => settings.isLeast_dueAfter hpoll _, _, play_eq hwindow failing instructions,
    length_states _ _ _, fun k s s' hs hs' => ?_⟩
  have hplay := play_eq hwindow failing instructions
  generalize (start settings failing).states 0 instructions = states at *
  refine ⟨fun span hi => again_of_play hpoll hspans hplay hs hs' hi, fun op hi => ?_⟩
  obtain ⟨first, hhanded, hseqs, hfirst⟩ := first_of_play hpoll hspans hplay hs hs' htimeout hi
  refine ⟨first, hhanded, hseqs, fun p hp => ?_⟩
  obtain ⟨ht, m, hseq, hle, hlt, hstands⟩ := hfirst p hp
  have honTime : p.seq ∉ s.sender.numbers → ∀ l s'', k ≤ l → states[l]? = some s'' →
      s''.sender.packetsSent ≤ s.sender.packetsSent + 4294967296 →
      s''.OnTime settings (clock ((script instructions).take k)) p
        (s.handed.filter (·.2.seq = p.seq)) (s.warned.filter (·.2 = p.seq))
        (lastTime (script instructions) k (l + 1) p.seq) := by
    intro hfresh l s'' hkl hs'' hround
    obtain ⟨j, rfl⟩ := Nat.exists_eq_add_of_le hkl
    have hk := stands_of_play hpoll hspans hplay htimeout hseq (Nat.add_le_add_right hle _) hs'
      (hstands hfresh) j hs'' hround
    obtain ⟨_, _, _, hi, _, _, _, hidle, _⟩ := exists_run_of_play hpoll hplay hs''
    exact hk.onTime hpoll htimeout (by omega) (List.getElem?_eq_some_iff.1 hi).1 hidle
  refine ⟨honTime, fun hsends l s'' hkl hs'' => ?_⟩
  -- no number is given twice
  have hall {l : Nat} {s : Session} (hs : states[l]? = some s) :
      s.sender.packetsSent ≤ 4294967296 :=
    Nat.le_trans (packetsSent_le_countP_of_play hpoll hplay (k := l + 1) hs) hsends
  obtain ⟨hfresh, hhand, hwarn⟩ := ht.fresh hle (Nat.lt_of_lt_of_le hlt (hall hs'))
  rw [← hseq] at hfresh hhand hwarn
  have ho := honTime hfresh l s'' hkl hs'' (Nat.le_add_left_of_le (hall hs''))
  rwa [show s.handed.filter _ = [] from hhand, show s.warned.filter _ = [] from hwarn] at ho

/-- A packet that an instruction sent. -/
lemma mem_of_handed_eq {first : List Packet} (h : s'.handed = s.handed ++ first.map (time, ·))
    (hmem : (time, p) ∈ s'.handed) (hnot : (time, p) ∉ s.handed) : p ∈ first := by
  rw [h, List.mem_append, List.mem_map] at hmem
  obtain ⟨q, hq, heq⟩ := hmem.resolve_left hnot
  exact (Prod.mk.inj heq).2 ▸ hq

/-- A window of one packet, a timeout of a hundred milliseconds and a single retry. -/
def hasty : Settings := { window := 1, timeout := 100, maxRetries := 1 }

/-- Two sends, the second of which waits until the first packet is acknowledged. -/
def hurried : List Instruction :=
  [.advance 30, .call (.send [1] Flags.data), .call (.send [2] Flags.data), .advance 90,
    .call (.acknowledge 0), .advance 400]

/-- The first packet is acknowledged before its time comes.  The second is sent after 120
milliseconds, which the link does not take, again after 250, and complained about after 400. -/
theorem resent_on_schedule_hurried :
    hasty.window ≠ 0 ∧ 1 ≤ hasty.poll ∧ 0 ≤ hasty.timeout ∧ (∀ i ∈ hurried, 0 ≤ i.span) ∧
    ∃ states s, play hasty true [1] hurried = .ok states ∧ states[5]? = some s ∧
      s.handed.filter (·.2.seq = 0) = [(30, ⟨0, 0, Flags.data, [1]⟩)] ∧
      s.handed.filter (·.2.seq = 1)
        = [(120, ⟨1, 0, Flags.data, [2]⟩), (250, ⟨1, 0, Flags.data, [2]⟩)] ∧
      s.warned.filter (·.2 = 0) = [] ∧ s.warned.filter (·.2 = 1) = [(400, 1)] := by
  have hwindow : hasty.window ≠ 0 := by decide
  have hpoll : 1 ≤ hasty.poll := by decide
  have htimeout : 0 ≤ hasty.timeout := by decide
  have hspans : ∀ i ∈ hurried, 0 ≤ i.span := by decide
  have hsends : hurried.countP Instruction.isSend ≤ 4294967296 := by decide
  obtain ⟨_, states, hplay, _, hall⟩ :=
    @resent_on_schedule _ [1] _ hwindow hpoll htimeout hspans
  obtain rfl : (start hasty [1]).states 0 hurried = states := Except.ok.inj hplay
  obtain ⟨first, hfirst, _, honTime⟩ := (hall 1 _ _ rfl rfl).2 (.send [1] Flags.data) rfl
  obtain ⟨second, hsecond, _, honTime'⟩ := (hall 4 _ _ rfl rfl).2 (.acknowledge 0) rfl
  have hmem : ⟨0, 0, Flags.data, [1]⟩ ∈ first :=
    mem_of_handed_eq hfirst (by decide +kernel) (by decide +kernel)
  have hmem' : ⟨1, 0, Flags.data, [2]⟩ ∈ second :=
    mem_of_handed_eq hsecond (by decide +kernel) (by decide +kernel)
  obtain ⟨hhanded, hwarned⟩ := (honTime _ hmem).2 hsends 5 _ (by decide) rfl
  obtain ⟨hhanded', hwarned'⟩ := (honTime' _ hmem').2 hsends 5 _ (by decide) rfl
  refine ⟨hwindow, hpoll, htimeout, hspans, _, _, rfl, rfl, hhanded.trans ?_, hhanded'.trans ?_,
    hwarned.trans ?_, hwarned'.trans ?_⟩
  · decide +kernel
  · decide +kernel
  · decide +kernel
  · decide +kernel

end ReliableTransfer.Session
