import Mathlib.Data.List.InsertIdx
import ReliableTransfer.Proofs.Window.Wakeups

/-!
# Sessions in any order

The driver of a session lets the first task go on that can.  Nothing about the sender depends on
that: this file has sessions in which any task may have the next turn, whether somebody has woken it
or not, and the clock may be set at any time.  Two such sessions are compared, one of which lacks a
call.

* `Session.Choice`, `Session.weave` — what may come next, and a session in which it does.
* **`Session.exists_weave_of_play`** — the sessions of the driver are among these.
* `Session.Choice.without?` — what comes next when a call is not there.
* **`Session.Spared`** — a session, and the same session without a call.
* `Session.Spared.choose` — they stay the same, whatever comes next for the others.
-/

namespace ReliableTransfer.Session

variable {s s' : Session} {i j : Nat} {own : List (Int × SessionEvent)}

/-! ## Choices -/

/-- What may come next in a session. -/
inductive Choice
  /-- A task has a turn; a call that waits may look again without having been woken. -/
  | turn (task : Nat)
  /-- The clock is set. -/
  | clock (time : Int)
  /-- A call is made. -/
  | call (number : Nat) (op : Operation)

/-- What comes next, comes. -/
def choose (s : Session) : Choice → Session
  | .turn task => system.resume task s
  | .clock time => system.advanceTo time s
  | .call number op => { s with calls := s.calls ++ [⟨number, .starting op⟩] }

/-- **A session in any order**: one choice after the other. -/
def weave (s : Session) (choices : List Choice) : Session :=
  choices.foldl choose s

lemma weave_append (s : Session) (first second : List Choice) :
    s.weave (first ++ second) = (s.weave first).weave second :=
  List.foldl_append

lemma weave_concat (s : Session) (choices : List Choice) (choice : Choice) :
    s.weave (choices ++ [choice]) = (s.weave choices).choose choice :=
  weave_append s choices [choice]

/-- The driver's turns and jumps are choices. -/
lemma exists_weave_of_run (limit : Option Int) (fuel : Nat) (s : Session) :
    ∃ choices, system.run limit fuel s = s.weave choices := by
  refine system.run_invariant (P := fun t => ∃ choices, t = s.weave choices) ?_ ?_ limit fuel
    ⟨[], rfl⟩
  · rintro task _ ⟨choices, rfl⟩
    exact ⟨choices ++ [Choice.turn task], (weave_concat s choices (.turn task)).symm⟩
  · rintro time _ ⟨choices, rfl⟩
    exact ⟨choices ++ [Choice.clock time], (weave_concat s choices (.clock time)).symm⟩

/-- So is an instruction. -/
lemma exists_weave_of_follow (number : Nat) (instruction : Instruction) (s : Session) :
    ∃ choices, s.follow number instruction = s.weave choices := by
  cases instruction with
  | call op =>
      obtain ⟨choices, hrun⟩ := exists_weave_of_run (some s.now) _ (s.choose (.call number op))
      exact ⟨.call number op :: choices, hrun⟩
  | advance time =>
      obtain ⟨choices, hrun⟩ := exists_weave_of_run (some (s.now + time)) _ s
      refine ⟨choices ++ [.clock (s.now + time)], ?_⟩
      rw [weave_append, ← hrun]
      rfl

/-- So is the whole, with the stop at its end. -/
lemma exists_weave_of_states (instructions : List Instruction) (number : Nat) {t : Session}
    (ht : t ∈ s.states number instructions) : ∃ choices, t = s.weave choices := by
  induction instructions generalizing s number with
  | nil =>
      obtain rfl := List.mem_singleton.1 ht
      obtain ⟨choices, hrun⟩ := exists_weave_of_run none _ (s.choose (.call number .stop))
      exact ⟨.call number .stop :: choices, hrun⟩
  | cons instruction rest ih =>
      obtain ⟨first, hfirst⟩ := exists_weave_of_follow number instruction s
      rcases List.mem_cons.1 ht with rfl | ht
      · exact ⟨first, hfirst⟩
      · obtain ⟨second, hsecond⟩ := ih (number + 1) ht
        rw [hfirst] at hsecond
        exact ⟨first ++ second, hsecond.trans (weave_append s first second).symm⟩

/-- **The sessions of the driver are sessions in some order.** -/
theorem exists_weave_of_play {settings : Settings} {linked : Bool} {failing : List Nat}
    {instructions : List Instruction} {states : List Session}
    (hplay : play settings linked failing instructions = .ok states) {t : Session}
    (ht : t ∈ states) : ∃ choices, t = weave { settings, failing } choices := by
  have hstates : states = (start settings failing).states 0 instructions := by
    rw [play] at hplay
    cases hw : Sender.create settings with
    | error cause =>
        rw [hw] at hplay
        cases hplay
    | ok w =>
        rw [hw] at hplay
        cases linked with
        | false => cases hplay
        | true => exact (Except.ok.inj hplay).symm
  rw [hstates] at ht
  obtain ⟨first, hfirst⟩ :=
    exists_weave_of_run (some 0) (fuel { settings, failing } (0 - 0)) { settings, failing }
  obtain ⟨second, hsecond⟩ := exists_weave_of_states instructions 0 ht
  refine ⟨first ++ second, ?_⟩
  rw [weave_append, ← hfirst]
  exact hsecond

/-! ## A session without a call -/

/-- The place of call `j` when call `i` is not there. -/
def place (i j : Nat) : Nat :=
  if j < i then j else j - 1

/-- What comes next when call `i` is not there. -/
def Choice.without? (i : Nat) : Choice → Option Choice
  | .turn 0 => some (.turn 0)
  | .turn (j + 1) => if j = i then none else some (.turn (place i j + 1))
  | .clock time => some (.clock time)
  | .call number op => some (.call number op)

/-- Only the turns of the call are not there. -/
lemma Choice.eq_turn_of_without? {choice : Choice} (h : choice.without? i = none) :
    choice = .turn (i + 1) := by
  cases choice with
  | turn task =>
      cases task with
      | zero => cases h
      | succ j =>
          rw [Choice.without?] at h
          split_ifs at h with hj
          rw [hj]
  | clock time => cases h
  | call number op => cases h

lemma getElem?_place (calls : List Call) (hj : j ≠ i) :
    (calls.eraseIdx i)[place i j]? = calls[j]? := by
  rw [List.getElem?_eraseIdx, place]
  split_ifs with hlt hle
  · rfl
  · omega
  · rw [Nat.sub_add_cancel (by omega)]

lemma modify_place (calls : List Call) (f : Call → Call) (hj : j ≠ i) :
    (calls.modify j f).eraseIdx i = (calls.eraseIdx i).modify (place i j) f := by
  rw [place]
  split_ifs with hlt
  · exact List.eraseIdx_modify_of_gt f j i calls hlt
  · exact List.eraseIdx_modify_of_lt f j i calls (by omega)

/-- **The second session is the first without call `i`**, and without the events of that call. -/
def Spared (i : Nat) (own : List (Int × SessionEvent)) (s s' : Session) : Prop :=
  ∃ first second, s.timeline = first ++ own ++ second ∧
    s' = { s with calls := s.calls.eraseIdx i, timeline := first ++ second }

namespace Spared

/-! ### What happens to both -/

lemma happen (h : Spared i own s s') (event : SessionEvent) :
    Spared i own (s.happen event) (s'.happen event) := by
  obtain ⟨first, second, htimeline, rfl⟩ := h
  refine ⟨first, second ++ [(s.now, event)], ?_, ?_⟩
  · show s.timeline ++ _ = _
    rw [htimeline, List.append_assoc]
  · rw [Session.happen, ← List.append_assoc]
    rfl

lemma setSender (h : Spared i own s s') (sender : Sender) (timer : Timer) :
    Spared i own { s with sender, timer } { s' with sender, timer } := by
  obtain ⟨first, second, htimeline, rfl⟩ := h
  exact ⟨first, second, htimeline, rfl⟩

lemma notifyProgress (h : Spared i own s s') :
    Spared i own s.notifyProgress s'.notifyProgress := by
  obtain ⟨first, second, htimeline, rfl⟩ := h
  refine ⟨first, second, htimeline, ?_⟩
  rw [Session.notifyProgress, Session.notifyProgress]
  dsimp only
  rw [List.eraseIdx_map]

lemma setCall (h : Spared i own s s') (hj : j ≠ i) (state : CallState) :
    Spared i own (s.setCall j state) (s'.setCall (place i j) state) := by
  obtain ⟨first, second, htimeline, rfl⟩ := h
  refine ⟨first, second, htimeline, ?_⟩
  rw [Session.setCall, Session.setCall]
  dsimp only
  rw [modify_place _ _ hj]

/-- The link takes a packet in both sessions or in none. -/
lemma transmit (h : Spared i own s s') (p : Packet) :
    (link.transmit p s').1 = (link.transmit p s).1 ∧
      Spared i own (link.transmit p s).2 (link.transmit p s').2 := by
  have hsame : s'.failing.contains s'.transmissions = s.failing.contains s.transmissions := by
    obtain ⟨first, second, _, rfl⟩ := h
    rfl
  have hhappen := h.happen (.transmitted p (!s.failing.contains s.transmissions))
  rw [link]
  dsimp only
  rw [hsame]
  refine ⟨rfl, ?_⟩
  obtain ⟨first, second, htimeline, heq⟩ := hhappen
  refine ⟨first, second, htimeline, ?_⟩
  rw [heq]
  obtain ⟨_, _, _, rfl⟩ := h
  rfl

lemma perform (h : Spared i own s s') (action : Action) :
    Spared i own (action.perform link s) (action.perform link s') := by
  cases action with
  | giveUp maxRetries seq => exact h.happen (.noted (.retriesExceeded maxRetries seq))
  | transmit p | retransmit p =>
      obtain ⟨hsame, hspared⟩ := h.transmit p
      rw [Action.perform, Action.perform]
      generalize link.transmit p s = t at hsame hspared ⊢
      generalize link.transmit p s' = t' at hsame hspared ⊢
      obtain ⟨ok, t⟩ := t
      obtain ⟨ok', t'⟩ := t'
      obtain rfl : ok' = ok := hsame
      cases ok' with
      | true => exact hspared
      | false => exact hspared.happen (.noted _)

lemma performAll (h : Spared i own s s') (actions : List Action) :
    Spared i own (ReliableTransfer.performAll link actions s)
      (ReliableTransfer.performAll link actions s') := by
  induction actions generalizing s s' with
  | nil => exact h
  | cons action rest ih => exact ih (h.perform action)

/-! ### Turns of the others -/

lemma answer (h : Spared i own s s') (hj : j ≠ i) (a : Answer) :
    Spared i own (s.answer j a) (s'.answer (place i j) a) := by
  have hcall : s'.calls[place i j]? = s.calls[j]? := by
    obtain ⟨_, _, _, rfl⟩ := h
    exact getElem?_place s.calls hj
  rw [Session.answer, Session.answer, hcall]
  cases s.calls[j]? with
  | none => exact h
  | some c => exact (h.setCall hj (.returned a)).happen (.returned c.number a)

lemma trySend (h : Spared i own s s') (hj : j ≠ i) (payload : Bytes) (flags : Flags) :
    Spared i own (s.trySend j payload flags) (s'.trySend (place i j) payload flags) := by
  have hspared := h
  obtain ⟨first, second, _, rfl⟩ := h
  rw [Session.trySend, Session.trySend]
  dsimp only
  split_ifs
  · exact hspared.answer hj _
  · exact ((hspared.setSender _ _).performAll _).answer hj _
  · exact hspared.setCall hj _

lemma tryComplete (h : Spared i own s s') (hj : j ≠ i) (deadline : Int) (waited : Bool) :
    Spared i own (s.tryComplete j deadline waited)
      (s'.tryComplete (place i j) deadline waited) := by
  have hspared := h
  obtain ⟨first, second, _, rfl⟩ := h
  rw [Session.tryComplete, Session.tryComplete]
  dsimp only
  split_ifs
  · exact hspared.answer hj _
  · exact hspared.answer hj _
  · exact hspared.setCall hj _

lemma begin (h : Spared i own s s') (hj : j ≠ i) (op : Operation) :
    Spared i own (s.begin j op) (s'.begin (place i j) op) := by
  have hspared := h
  obtain ⟨first, second, _, rfl⟩ := h
  cases op with
  | send payload flags =>
      rw [Session.begin, Session.begin]
      dsimp only
      cases Sender.refusal? s.settings payload with
      | some cause => exact hspared.answer hj _
      | none => exact hspared.trySend hj payload flags
  | acknowledge number => exact (hspared.setSender _ _).notifyProgress.answer hj _
  | await timeout => exact hspared.tryComplete hj _ false
  | stop =>
      have hstopped := (hspared.setSender s.sender.stop s.timer.notify).notifyProgress
      by_cases hended : s.timer.notify.hasEnded = true
      · simp only [Session.begin, Session.notifyProgress, hended]
        exact hstopped.answer hj _
      · simp only [Session.begin, Session.notifyProgress, hended]
        exact hstopped.setCall hj _

lemma resumeCall (h : Spared i own s s') (hj : j ≠ i) :
    Spared i own (s.resumeCall j) (s'.resumeCall (place i j)) := by
  have hspared := h
  obtain ⟨first, second, _, rfl⟩ := h
  rw [Session.resumeCall, Session.resumeCall]
  dsimp only
  rw [getElem?_place s.calls hj]
  cases s.calls[j]? with
  | none => exact hspared
  | some c =>
      dsimp only
      cases c.state with
      | starting op => exact hspared.begin hj op
      | sending payload flags notified => exact hspared.trySend hj payload flags
      | awaiting deadline notified => exact hspared.tryComplete hj deadline true
      | joining => exact hspared.answer hj _
      | returned a => exact hspared

lemma resumeTimer (h : Spared i own s s') : Spared i own s.resumeTimer s'.resumeTimer := by
  have hspared := h
  obtain ⟨first, second, _, rfl⟩ := h
  exact (hspared.setSender _ _).performAll _

/-- **Whatever comes next for the others** comes in both sessions. -/
lemma choose (h : Spared i own s s') (hi : i < s.calls.length) {choice choice' : Choice}
    (hchoice : choice.without? i = some choice') :
    Spared i own (s.choose choice) (s'.choose choice') := by
  cases choice with
  | turn task =>
      cases task with
      | zero =>
          obtain rfl := Option.some.inj hchoice
          exact h.resumeTimer
      | succ j =>
          rw [Choice.without?] at hchoice
          split_ifs at hchoice with hj
          obtain rfl := Option.some.inj hchoice
          exact h.resumeCall hj
  | clock time =>
      obtain rfl := Option.some.inj hchoice
      obtain ⟨first, second, htimeline, rfl⟩ := h
      exact ⟨first, second, htimeline, rfl⟩
  | call number op =>
      obtain rfl := Option.some.inj hchoice
      obtain ⟨first, second, htimeline, rfl⟩ := h
      refine ⟨first, second, htimeline, ?_⟩
      rw [Session.choose, Session.choose]
      dsimp only
      rw [List.eraseIdx_append_of_lt_length hi]

end Spared

end ReliableTransfer.Session
