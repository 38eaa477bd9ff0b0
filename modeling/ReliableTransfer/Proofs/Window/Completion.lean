import Mathlib.Data.Prod.Lex
import Mathlib.Tactic.Ring
import ReliableTransfer.Proofs.Window.Lockstep

/-!
# A file gets through a lossy link

Every run of a closed loop comes to a state in which the file has been sent, delivered and
acknowledged, in whatever order the tasks, the application and the link take their turns.  Each
packet has been sent exactly once more than the link loses of it.

* **`Inevitable`** — every run comes to a state of some kind.
* `Loop.size` — what is left to be done, which every step makes smaller.
* `Loop.Complete` — the file got through.
* **`Loop.complete_over_lossy_link`** — it does so in every run.
-/

namespace ReliableTransfer

/-- **Every run comes to a state with `P`**: the state has it, or there is a next one, and every run
from any next state comes to one. -/
inductive Inevitable {σ : Type} (step : σ → σ → Prop) (P : σ → Prop) : σ → Prop
  | now {s : σ} : P s → Inevitable step P s
  | later {s : σ} : (∃ s', step s s') → (∀ s', step s s' → Inevitable step P s') →
      Inevitable step P s

/-- Where an invariant lets runs go on until `P` holds, and every step makes something smaller,
every run comes to a state with `P`. -/
lemma Inevitable.of_lt {σ γ α : Type} [Preorder α] [WellFoundedLT α] {step : σ → σ → Prop}
    {P : σ → Prop} {I : γ → σ → Prop} (size : γ → σ → α)
    (hstep : ∀ g s, I g s → ¬ P s → (∃ s', step s s') ∧
      ∀ s', step s s' → ∃ g', I g' s' ∧ size g' s' < size g s) {g : γ} {s : σ} (hs : I g s) :
    Inevitable step P s := by
  generalize hn : size g s = n
  induction n using WellFoundedLT.induction generalizing g s with
  | ind n ih =>
      by_cases hP : P s
      · exact .now hP
      · obtain ⟨hnext, hsmaller⟩ := hstep g s hs hP
        refine .later hnext fun s' hs' => ?_
        obtain ⟨g', hg', hlt⟩ := hsmaller s' hs'
        exact ih _ (hn ▸ hlt) hg' rfl

namespace Loop

variable {settings : Settings} {lost : Nat} {pieces : List Bytes} {pace pace' : Pace}
  {x y : Loop}

/-- **What is left to be done**: packets to send, time to wait for the next of them, items to give
and packets to hand over, and turns to take. -/
def size (settings : Settings) (lost : Nat) (pieces : List Bytes) (pace : Pace) (x : Loop) :
    Nat ×ₗ Nat ×ₗ Nat ×ₗ Nat :=
  toLex ((lost + 1) * (pieces.length + 1) - x.transmitted,
    toLex ((pace.time + settings.timeout + 1 - x.session.now).toNat,
      toLex ((pieces.length + 1 - x.sends.length) + (pieces.length + 1 - x.seen),
        x.session.work)))

/-- **The file got through**: all calls to send have returned, each with the number of its packet;
nothing is in flight; the receiver is finished and has written the file; every packet was sent once
more than the link loses of it, and so sent again as often as that. -/
structure Complete (lost : Nat) (pieces : List Bytes) (x : Loop) : Prop where
  sends_length : x.sends.length = pieces.length + 1
  sent : ∀ k i, x.sends[k]? = some i →
    x.session.answerOf? i = some (.sent (UInt32.ofNat k))
  allAcked : x.session.sender.allAcked = true
  finished : x.receiver.finished = true
  output_eq : x.output = pieces.flatten
  timesSent_eq : ∀ seq : UInt32, timesSent x.session.packets seq
    = if seq.toNat < pieces.length + 1 then lost + 1 else 0
  packetsSent_eq : x.session.sender.packetsSent = pieces.length + 1
  retransmissions_eq : x.session.sender.retransmissions
    = lost * x.session.sender.packetsSent

namespace InStep

lemma start (pieces : List Bytes) (lost : Nat) (failing : List Nat) :
    InStep settings lost pieces {} (start settings failing) where
  settings_eq := rfl
  awake := ⟨fun _ hc => absurd hc List.not_mem_nil, nofun, nofun⟩
  paced := Paced.start lost
  sent_le := Nat.zero_le _
  time_le := Int.le_refl _
  timer_eq := .inl ⟨rfl, rfl⟩
  in_time h := by cases h
  follows := .start pieces
  seen_eq := rfl
  base_le := Nat.zero_le _
  seen_le := Nat.zero_le _
  sends_length := Nat.zero_le _
  acks_length := rfl
  sends _ _ h := by cases h
  acks _ _ h := by cases h
  owned _ h := absurd h (Nat.not_lt_zero _)
  settled h := by
    rcases h with h | h
    · exact absurd h (Int.lt_irrefl 0)
    · exact absurd h (Nat.lt_irrefl 0)

/-- A loop in step is complete once the base is behind the last packet. -/
lemma complete (h : InStep settings lost pieces pace x)
    (hbase : x.session.sender.base.toNat = pieces.length + 1) : x.Complete lost pieces := by
  have hbase_le := h.base_le
  have hseen_le := h.seen_le
  have hpassed_le := h.passed_le
  have hsent_le := h.sent_le
  have hsent : x.session.sender.packetsSent = pieces.length + 1 := by omega
  have hpassed : pace.passed = pieces.length + 1 := by omega
  have hseen : x.receiver.delivered = pieces.length + 1 := by rw [h.seen_eq]; omega
  have hfinished := h.follows.finished_iff.2 hseen
  have hreturned : ∀ k i, x.sends[k]? = some i → k < pieces.length + 1 ∧
      x.session.answerOf? i = some (.sent (UInt32.ofNat k)) := by
    intro k i hk
    obtain ⟨c, hc, hstands⟩ := h.sends k i hk
    rw [Session.answerOf?, hc, Option.bind_some]
    generalize c.state = state at hstands
    cases hstands with
    | done hlt => exact ⟨hsent ▸ hlt, rfl⟩
    | pending heq hitem =>
        have hlt := (List.getElem?_eq_some_iff.1 hitem).1
        rw [length_script] at hlt
        omega
  refine ⟨?_, fun k i hk => (hreturned k i hk).2, ?_, hfinished,
    h.follows.output_of_finished hfinished, ?_, hsent, ?_⟩
  · refine Nat.le_antisymm (Nat.not_lt.1 fun hlt => ?_) (hsent ▸ h.sends_length)
    have hlast := (hreturned _ _ (List.getElem?_eq_getElem hlt)).1
    omega
  · rw [h.paced.carries.allAcked_iff, ← UInt32.toNat_inj, h.next_eq]
    omega
  · intro seq
    have htimes := h.paced.timesSent_eq seq
    rw [h.length_items, hpassed, hsent] at htimes
    rw [htimes]
    split_ifs <;> rfl
  · have hretransmissions := h.paced.retransmissions_eq
    rw [h.length_items, hpassed, hsent, Nat.sub_self, Nat.mul_zero, Nat.add_zero]
      at hretransmissions
    rw [hretransmissions, hsent]

/-- No packet is sent more often than one needs to be. -/
lemma transmitted_le (h : InStep settings lost pieces pace x) :
    x.transmitted ≤ (lost + 1) * (pieces.length + 1) := by
  have hpassed := h.passed_le
  have hretransmissions := h.paced.retransmissions_eq
  have hrounds := h.paced.rounds_lt
  rw [h.length_items] at hretransmissions hrounds
  have hwaiting : pace.rounds * (x.session.sender.packetsSent - pace.passed)
      ≤ lost * (x.session.sender.packetsSent - pace.passed) := by
    rcases Nat.lt_or_ge pace.passed x.session.sender.packetsSent with hlt | hge
    · exact Nat.mul_le_mul_right _ (Nat.le_of_lt (hrounds hlt))
    · rw [Nat.sub_eq_zero_of_le hge]
      exact Nat.le_refl _
  calc x.transmitted
      ≤ x.session.sender.packetsSent + (lost * pace.passed
          + lost * (x.session.sender.packetsSent - pace.passed)) := by
        rw [transmitted, hretransmissions]
        omega
    _ = (lost + 1) * x.session.sender.packetsSent := by
        rw [← Nat.mul_add, Nat.add_sub_cancel' hpassed]
        ring
    _ ≤ (lost + 1) * (pieces.length + 1) := Nat.mul_le_mul_left _ h.sent_le

/-! ## Every step leaves less to be done -/

/-- A turn of a task leaves less to be done. -/
lemma size_lt (h : InStep settings lost pieces pace' y) (ho : Onward pace pace' x y)
    (hsends : y.sends = x.sends) (hseen : y.seen = x.seen) :
    size settings lost pieces pace' y < size settings lost pieces pace x := by
  simp only [size, Prod.Lex.toLex_lt_toLex]
  rcases ho.transmitted_lt with hlt | ⟨heq, rfl⟩
  · have hle := h.transmitted_le
    exact .inl (by omega)
  · rw [heq, ho.now_eq, hsends, hseen]
    exact .inr ⟨rfl, .inr ⟨rfl, .inr ⟨rfl, ho.work_lt⟩⟩⟩

/-- **A turn of a task of the session** that can run. -/
lemma turn (h : InStep settings lost pieces pace x) (hfair : Fair settings lost pieces) {i : Nat}
    {r : Readiness} (htask : (Session.system.tasks x.session)[i]? = some r)
    (hready : r.isReadyAt x.session.now = true) :
    ∃ pace', InStep settings lost pieces pace'
        { x with session := Session.system.resume i x.session } ∧
      Onward pace pace' x { x with session := Session.system.resume i x.session } := by
  cases i with
  | zero =>
      obtain rfl := Option.some.inj htask
      exact h.resumeTimer hfair hready
  | succ i =>
      change (x.session.timer.readiness :: x.session.calls.map
        fun c => c.state.readiness x.session.timer)[i + 1]? = some r at htask
      rw [List.getElem?_cons_succ, List.getElem?_map, Option.map_eq_some_iff] at htask
      obtain ⟨c, hc, rfl⟩ := htask
      exact h.resumeCall hfair hc hready

/-- Where all is quiet and not all has been acknowledged, packets are in flight. -/
lemma base_lt_of_quiet (h : InStep settings lost pieces pace x) (hfair : Fair settings lost pieces)
    (hquiet : x.Quiet pieces pace) (hbase : x.session.sender.base.toNat < pieces.length + 1) :
    x.session.sender.base.toNat < x.session.sender.packetsSent := by
  have hpassed := h.passed_le
  rw [hquiet.passed_eq] at hpassed
  refine Nat.lt_of_le_of_ne hpassed fun heq => ?_
  rcases Nat.lt_or_eq_of_le h.sends_length with hlt | hlength
  · -- a call waits for room, while nothing is in flight
    obtain ⟨c, payload, flags, hc, hstate⟩ := hquiet.waits _ (List.getElem?_eq_getElem hlt)
    have hjustified := h.awake.justified c (List.mem_of_getElem? hc)
    rw [hstate] at hjustified
    have hfull := hjustified.2
    have hsame : x.session.sender.next = x.session.sender.base := by
      rw [← UInt32.toNat_inj, h.next_eq, heq]
    have hwindow := hfair.window_pos
    rw [Sender.hasRoom, hsame, UInt32.sub_self, h.settings_eq, decide_eq_false_iff_not,
      UInt32.not_lt] at hfull
    exact absurd (UInt32.le_trans hwindow hfull) (by decide)
  · have hgiven := hquiet.given hlength.symm
    omega

/-- **Every step** keeps the loop in step and takes back no acknowledgement, and until all is
acknowledged it leaves less to be done. -/
lemma step (h : InStep settings lost pieces pace x) (hfair : Fair settings lost pieces)
    (hs : Step lost pieces x y) :
    ∃ pace', InStep settings lost pieces pace' y ∧
      x.session.sender.base.toNat ≤ y.session.sender.base.toNat ∧
      (x.session.sender.base.toNat < pieces.length + 1 →
        size settings lost pieces pace' y < size settings lost pieces pace x) := by
  cases hs with
  | turn i htask hready =>
      obtain ⟨pace', hin, ho⟩ := h.turn hfair htask hready
      exact ⟨pace', hin, ho.base_le, fun _ => hin.size_lt ho rfl rfl⟩
  | give hmay =>
      have hlt := (List.getElem?_eq_some_iff.1 hmay.1).1
      rw [length_script] at hlt
      refine ⟨pace, h.give hfair hmay, Nat.le_refl _, fun _ => ?_⟩
      simp only [size, Prod.Lex.toLex_lt_toLex]
      refine .inr ⟨rfl, .inr ⟨rfl, .inl ?_⟩⟩
      rw [Loop.give]
      dsimp only
      rw [List.length_append, List.length_singleton]
      omega
  | deliver hmay =>
      have hin := h.deliver hfair hmay
      have hpassed := h.passed_le
      have hsent := h.sent_le
      obtain ⟨_, hlt, _, heq⟩ := h.deliver_eq hmay.1
      rw [heq] at hin ⊢
      refine ⟨pace, hin, Nat.le_refl _, fun _ => ?_⟩
      simp only [size, Prod.Lex.toLex_lt_toLex]
      refine .inr ⟨rfl, .inr ⟨rfl, .inl ?_⟩⟩
      omega
  | @jump time hidle hgive hdeliver hdue =>
      have hquiet := h.quiet_of_idle hidle hgive hdeliver
      obtain ⟨hlater, hin⟩ := h.jump hidle hquiet hdue
      refine ⟨pace, hin, Nat.le_refl _, fun hbase => ?_⟩
      have hflight := h.base_lt_of_quiet hfair hquiet hbase
      have hearly := h.in_time (Session.not_ready_of_idle hidle).1 hflight
      simp only [size, Prod.Lex.toLex_lt_toLex]
      refine .inr ⟨rfl, .inl ?_⟩
      change (_ - time).toNat < _
      omega

/-- **Something can always happen**: where nobody can do anything, the timer waits for a time. -/
lemma exists_step (h : InStep settings lost pieces pace x) : ∃ y, Step lost pieces x y := by
  cases hfirst : Session.system.firstReady? x.session with
  | some i =>
      obtain ⟨r, htask, hready⟩ := Session.system.ready_of_firstReady? hfirst
      exact ⟨_, .turn i htask hready⟩
  | none =>
      by_cases hgive : ∃ item, x.MayGive pieces item
      · obtain ⟨item, hmay⟩ := hgive
        exact ⟨_, .give hmay⟩
      · by_cases hdeliver : ∃ p, x.MayDeliver lost p
        · obtain ⟨p, hmay⟩ := hdeliver
          exact ⟨_, .deliver hmay⟩
        · rcases h.timer_eq with ⟨hstarting, _⟩ | ⟨wake, hsleeping⟩
          · have hnot := (Session.not_ready_of_idle hfirst).1
            rw [hstarting] at hnot
            cases hnot
          · have hmem : .dueAt wake ∈ Session.system.tasks x.session := by
              refine List.mem_cons.2 (.inl ?_)
              rw [hsleeping]
              rfl
            obtain ⟨time, hdue⟩ := Session.system.exists_nextDue? hmem
            exact ⟨_, .jump hfirst (not_exists.1 hgive) (not_exists.1 hdeliver) hdue⟩

/-- Once all is acknowledged, the loop stays complete. -/
lemma complete_of_steps (h : InStep settings lost pieces pace x) (hfair : Fair settings lost pieces)
    (hbase : x.session.sender.base.toNat = pieces.length + 1)
    (hs : Relation.ReflTransGen (Step lost pieces) x y) : y.Complete lost pieces := by
  suffices hall : ∃ pace', InStep settings lost pieces pace' y ∧
      y.session.sender.base.toNat = pieces.length + 1 by
    obtain ⟨pace', hin, hbase'⟩ := hall
    exact hin.complete hbase'
  induction hs with
  | refl => exact ⟨pace, h, hbase⟩
  | tail _ hstep ih =>
      obtain ⟨pace', hin, hbase'⟩ := ih
      obtain ⟨pace'', hin', hle, _⟩ := hin.step hfair hstep
      exact ⟨pace'', hin', Nat.le_antisymm hin'.base_le_length (hbase' ▸ hle)⟩

end InStep

/-- **A file gets through a lossy link.**  The sender is given the pieces of a file and its end, one
call after the other; its link loses the first `lost` transmissions of every number, and the sender
sends a packet again at least that often.  In whatever order the tasks of the sender, the
application and the link take their turns, every run comes to a state from which on all calls to
send have returned, nothing is in flight, the receiver is finished and has written the file, every number was
sent exactly `lost + 1` times, and `lost` times as many packets were sent again as were sent. -/
theorem complete_over_lossy_link {settings : Settings} {lost : Nat} {pieces : List Bytes}
    (hwindow : 1 ≤ settings.window) (hpoll : 1 ≤ settings.poll) (htimeout : 0 ≤ settings.timeout)
    (hlost : (lost : Int) ≤ settings.maxRetries)
    (hfits : ∀ piece ∈ pieces, piece.length ≤ settings.maxPayload)
    (hlength : pieces.length + 1 < 4294967296) (failing : List Nat) :
    Inevitable (Step lost pieces)
      (fun x => ∀ y, Relation.ReflTransGen (Step lost pieces) x y → y.Complete lost pieces)
      (start settings failing) := by
  have hfair : Fair settings lost pieces :=
    ⟨hwindow, hpoll, htimeout, hlost, hfits, hlength⟩
  refine Inevitable.of_lt (I := InStep settings lost pieces) (size settings lost pieces) ?_
    (InStep.start pieces lost failing)
  intro pace x h hunfinished
  have hbase : x.session.sender.base.toNat < pieces.length + 1 := by
    refine Nat.lt_of_le_of_ne h.base_le_length fun heq => hunfinished fun y hs => ?_
    exact h.complete_of_steps hfair heq hs
  refine ⟨h.exists_step, fun y hs => ?_⟩
  obtain ⟨pace', hin, _, hlt⟩ := h.step hfair hs
  exact ⟨pace', hin, hlt hbase⟩

/-- Two pieces and the end through a window of one packet, over a link that loses two transmissions
of each and does not take the first, with no time to wait before a packet is overdue. -/
theorem complete_over_lossy_link_narrow :
    (1 : UInt32) ≤ 1 ∧ (1 : Int) ≤ 1 ∧ (0 : Int) ≤ 0 ∧ ((2 : Nat) : Int) ≤ 2 ∧
    (∀ piece ∈ ([[7, 8], [9]] : List Bytes), piece.length ≤ 2) ∧
    ([[7, 8], [9]] : List Bytes).length + 1 < 4294967296 ∧
    Inevitable (Step 2 [[7, 8], [9]])
      (fun x => ∀ y, Relation.ReflTransGen (Step 2 [[7, 8], [9]]) x y → y.Complete 2 [[7, 8], [9]])
      (start { window := 1, poll := 1, timeout := 0, maxRetries := 2, maxPayload := 2 } [0]) := by
  have hfits : ∀ piece ∈ ([[7, 8], [9]] : List Bytes), piece.length ≤ 2 := by decide
  have hlength : ([[7, 8], [9]] : List Bytes).length + 1 < 4294967296 := by decide
  refine ⟨by decide, by decide, by decide, by decide, hfits, hlength, ?_⟩
  exact complete_over_lossy_link (by decide) (by decide) (by decide) (by decide) hfits hlength [0]

end Loop

end ReliableTransfer
