import ReliableTransfer.Proofs.Window.Carries
import ReliableTransfer.Proofs.Window.Scan

/-!
# A sender whose packets are lost in step

A link loses the first transmissions of every packet, as many of each, and lets all later ones
through.  A sender on it keeps in step as long as all that is in flight was sent last at the same
time: then a scan sends again either everything in flight or nothing, all packets in flight have
been sent equally often, and they get through together and in order.

* `timesSent`, `survivors` — how often a number was sent, and what gets through.
* `Pace` — how far a sender is.
* **`Paced`** — the sender keeps in step.
* `Paced.send`, `Paced.acknowledge`, `Paced.scan_late` — what keeps it so.
-/

namespace ReliableTransfer

/-! ## What gets through -/

/-- How often packets with a number were sent. -/
def timesSent (packets : List Packet) (seq : UInt32) : Nat :=
  packets.countP (·.seq = seq)

/-- What gets through of packets sent after `earlier`. -/
def survivorsAfter (lost : Nat) (earlier : List Packet) : List Packet → List Packet
  | [] => []
  | p :: rest =>
    if lost ≤ timesSent earlier p.seq then p :: survivorsAfter lost (earlier ++ [p]) rest
    else survivorsAfter lost (earlier ++ [p]) rest

/-- **What gets through** a link that loses the first `lost` transmissions of every number. -/
def survivors (lost : Nat) (packets : List Packet) : List Packet :=
  survivorsAfter lost [] packets

variable {lost : Nat} {earlier packets : List Packet}

lemma timesSent_append (first second : List Packet) (seq : UInt32) :
    timesSent (first ++ second) seq = timesSent first seq + timesSent second seq :=
  List.countP_append

lemma survivorsAfter_append (lost : Nat) (earlier first second : List Packet) :
    survivorsAfter lost earlier (first ++ second)
      = survivorsAfter lost earlier first ++ survivorsAfter lost (earlier ++ first) second := by
  induction first generalizing earlier with
  | nil => simp [survivorsAfter]
  | cons p rest ih =>
      rw [List.cons_append, survivorsAfter, survivorsAfter, ih, List.append_assoc,
        List.singleton_append]
      split <;> rfl

lemma survivors_append (lost : Nat) (first second : List Packet) :
    survivors lost (first ++ second)
      = survivors lost first ++ survivorsAfter lost first second := by
  rw [survivors, survivorsAfter_append, List.nil_append, survivors]

/-- Packets whose numbers were lost often enough all get through. -/
lemma survivorsAfter_eq_self (h : ∀ p ∈ packets, lost ≤ timesSent earlier p.seq) :
    survivorsAfter lost earlier packets = packets := by
  induction packets generalizing earlier with
  | nil => rfl
  | cons p rest ih =>
      rw [survivorsAfter, if_pos (h p List.mem_cons_self), ih]
      intro q hq
      rw [timesSent_append]
      exact Nat.le_add_right_of_le (h q (List.mem_cons_of_mem p hq))

/-- Packets with different numbers, none of which was lost often enough, are all lost. -/
lemma survivorsAfter_eq_nil (hnodup : (packets.map Packet.seq).Nodup)
    (h : ∀ p ∈ packets, timesSent earlier p.seq < lost) :
    survivorsAfter lost earlier packets = [] := by
  induction packets generalizing earlier with
  | nil => rfl
  | cons p rest ih =>
      rw [List.map_cons, List.nodup_cons] at hnodup
      rw [survivorsAfter, if_neg (Nat.not_le.2 (h p List.mem_cons_self)), ih hnodup.2]
      intro q hq
      have hne : p.seq ≠ q.seq := fun heq => hnodup.1 (heq ▸ List.mem_map_of_mem hq)
      rw [timesSent_append, show timesSent [p] q.seq = 0 by simp [timesSent, hne]]
      exact h q (List.mem_cons_of_mem p hq)

/-! ## Keeping in step -/

/-- How far a sender is that keeps in step. -/
structure Pace where
  /-- The numbers below this one have got through. -/
  passed : Nat := 0
  /-- How often the others were sent again. -/
  rounds : Nat := 0
  /-- When all that is in flight was sent last. -/
  time : Int := 0

namespace Pace

/-- The pace after one more of `count` packets was sent at the same time as the others. -/
def sent (pace : Pace) (lost count : Nat) : Pace :=
  { pace with passed := if lost = 0 then count + 1 else pace.passed }

/-- The pace after all of `count` packets that are in flight were sent again. -/
def again (pace : Pace) (lost count : Nat) (now : Int) : Pace where
  passed := if pace.rounds + 1 = lost then count else pace.passed
  rounds := if pace.rounds + 1 = lost then 0 else pace.rounds + 1
  time := now

end Pace

/-- **The sender keeps in step** with the link it was handed these packets to: what has got through
is a front part of its packets, and all that has not was sent equally often and last at the same
time. -/
structure Paced (lost : Nat) (items : List Item) (packets : List Packet) (pace : Pace)
    (w : Sender) : Prop where
  carries : w.Carries items
  running : w.running = true
  lastSent_eq : ∀ r ∈ w.inFlight, r.lastSent = pace.time
  retries_eq : ∀ r ∈ w.inFlight, pace.passed ≤ r.seq.toNat → r.retries = pace.rounds
  passed_le : pace.passed ≤ items.length
  rounds_lt : pace.passed < items.length → pace.rounds < lost
  timesSent_eq : ∀ seq : UInt32, timesSent packets seq
    = if seq.toNat < pace.passed then lost + 1
      else if seq.toNat < items.length then pace.rounds + 1 else 0
  survivors_eq : survivors lost packets = (numbered items).take pace.passed
  retransmissions_eq : w.retransmissions
    = lost * pace.passed + pace.rounds * (items.length - pace.passed)

/-- Among the packets in flight, every number from the base on occurs once. -/
lemma Sender.Carries.timesSent_packets {items : List Item} {w : Sender} (h : w.Carries items)
    (seq : UInt32) : timesSent (w.inFlight.map Unacked.packet) seq
      = if w.base.toNat ≤ seq.toNat ∧ seq.toNat < items.length then 1 else 0 := by
  have hcount : timesSent (w.inFlight.map Unacked.packet) seq = w.numbers.count seq := by
    rw [timesSent, Sender.numbers, List.countP_map, List.count, List.countP_map]
    exact List.countP_congr fun r _ => by simp [Unacked.seq]
  rw [hcount, h.nodup_numbers.count]
  simp only [h.mem_numbers]

namespace Paced

variable {items : List Item} {pace : Pace} {w : Sender} {settings : Settings} {now : Int}

lemma start (lost : Nat) : Paced lost [] [] {} {} where
  carries := ⟨rfl, Nat.le_refl 0, rfl, rfl⟩
  running := rfl
  lastSent_eq _ hr := absurd hr List.not_mem_nil
  retries_eq _ hr := absurd hr List.not_mem_nil
  passed_le := Nat.le_refl 0
  rounds_lt h := absurd h (Nat.lt_irrefl 0)
  timesSent_eq _ := rfl
  survivors_eq := rfl
  retransmissions_eq := by simp

/-- An acknowledgement takes packets out of flight and leaves the others in step. -/
lemma acknowledge (h : Paced lost items packets pace w) (number : UInt32) :
    Paced lost items packets pace (w.acknowledge number) where
  carries := h.carries.acknowledge number
  running := h.running
  lastSent_eq r hr := h.lastSent_eq r (List.mem_of_mem_filter hr)
  retries_eq r hr := h.retries_eq r (List.mem_of_mem_filter hr)
  passed_le := h.passed_le
  rounds_lt := h.rounds_lt
  timesSent_eq := h.timesSent_eq
  survivors_eq := h.survivors_eq
  retransmissions_eq := h.retransmissions_eq

/-- A packet that is sent for the first time gets through only if none is lost. -/
lemma survivors_send (h : Paced lost items packets pace w)
    (hlength : items.length < 4294967296) (payload : Bytes) (flags : Flags) :
    survivors lost (packets ++ [w.packet payload flags])
      = (numbered (items ++ [(payload, flags)])).take (pace.sent lost items.length).passed := by
  have hpassed := h.passed_le
  have hlt := h.rounds_lt
  have hcount : (numbered items).length = items.length := length_numberedFrom 0 items
  rw [survivors_append, h.survivors_eq, h.carries.draws.packet_eq, numbered_concat, Pace.sent]
  by_cases hlost : lost = 0
  · subst hlost
    dsimp only
    rw [survivorsAfter_eq_self fun _ _ => Nat.zero_le _, if_pos rfl,
      List.take_of_length_le (by omega), List.take_of_length_le]
    exact Nat.le_of_eq (by rw [List.length_append, List.length_singleton, hcount])
  · dsimp only
    rw [survivorsAfter_eq_nil (by simp), List.append_nil, if_neg hlost,
      List.take_append_of_le_length (by omega)]
    intro p hp
    rw [List.mem_singleton.1 hp, h.timesSent_eq, toNat_ofNat_of_lt hlength, if_neg (by omega),
      if_neg (by omega)]
    exact Nat.pos_of_ne_zero hlost

/-- **Sending** a packet at the time when all others in flight were sent last, and before any of
them was sent again. -/
lemma send (h : Paced lost items packets pace w) (hlength : items.length + 1 < 4294967296)
    (hrounds : pace.rounds = 0) (payload : Bytes) (flags : Flags) :
    Paced lost (items ++ [(payload, flags)]) (packets ++ [w.packet payload flags])
      (pace.sent lost items.length) (w.send pace.time payload flags).1 := by
  have hpassed := h.passed_le
  have hlt := h.rounds_lt
  have hnext := h.carries.next_eq
  have hcount : (items ++ [(payload, flags)]).length = items.length + 1 := List.length_append
  have hsingle : ∀ seq : UInt32, timesSent [w.packet payload flags] seq
      = if seq.toNat = items.length then 1 else 0 := by
    intro seq
    rw [timesSent, List.countP_singleton, Sender.packet, ← hnext]
    simp only [decide_eq_true_eq, UInt32.toNat_inj, @eq_comm _ seq]
  exact
    { carries := h.carries.send hlength _ payload flags
      running := h.running
      lastSent_eq := by
        intro r hr
        rcases Unacked.mem_of_mem_insert hr with rfl | hr
        · rfl
        · exact h.lastSent_eq r hr
      retries_eq := by
        intro r hr hle
        rcases Unacked.mem_of_mem_insert hr with rfl | hr
        · exact hrounds.symm
        · refine h.retries_eq r hr (Nat.le_trans ?_ hle)
          dsimp only [Pace.sent]
          split_ifs <;> omega
      passed_le := by
        rw [hcount]
        dsimp only [Pace.sent]
        split_ifs <;> omega
      rounds_lt := by
        rw [hcount]
        dsimp only [Pace.sent]
        split_ifs <;> omega
      timesSent_eq := by
        intro seq
        rw [timesSent_append, hsingle, h.timesSent_eq, hcount]
        dsimp only [Pace.sent]
        split_ifs <;> omega
      survivors_eq := h.survivors_send (by omega) payload flags
      retransmissions_eq := by
        rw [hcount]
        show w.retransmissions = _
        rw [h.retransmissions_eq]
        dsimp only [Pace.sent]
        rw [hrounds, Nat.zero_mul, Nat.zero_mul]
        split_ifs with hlost
        · rw [hlost, Nat.zero_mul, Nat.zero_mul]
        · rfl }

/-- A scan that comes in time for what is in flight does nothing. -/
lemma scan_early (h : Paced lost items packets pace w)
    (hearly : w.base.toNat < items.length → now - pace.time ≤ settings.timeout) :
    w.scan settings now = (w, []) := by
  have hscan : ∀ r ∈ w.inFlight, r.scan settings now = (r, []) := by
    intro r hr
    have hseq : r.seq ∈ w.numbers := List.mem_map_of_mem hr
    rw [h.carries.mem_numbers] at hseq
    rw [Unacked.scan, h.lastSent_eq r hr, if_pos (hearly (by omega))]
  have hmap : w.inFlight.map (Unacked.scan settings now) = w.inFlight.map (·, []) :=
    List.map_congr_left hscan
  have hactions : (w.inFlight.map (·, ([] : List Action))).flatMap (·.2) = [] := by
    simp [List.flatMap_eq_nil_iff]
  rw [Sender.scan, hmap, hactions]
  simp [Function.comp_def]

/-- What gets through when all in flight is sent again: all of it, if it was lost often enough, or
nothing. -/
lemma survivors_again (h : Paced lost items packets pace w) (hpassed : pace.passed = w.base.toNat)
    (hflight : w.base.toNat < items.length) (now : Int) :
    survivors lost (packets ++ w.inFlight.map Unacked.packet)
      = (numbered items).take (pace.again lost items.length now).passed := by
  have hrounds := h.rounds_lt (by omega)
  have hsent : ∀ p ∈ w.inFlight.map Unacked.packet,
      timesSent packets p.seq = pace.rounds + 1 := by
    intro p hp
    obtain ⟨r, hr, rfl⟩ := List.mem_map.1 hp
    have hseq : r.seq ∈ w.numbers := List.mem_map_of_mem hr
    rw [h.carries.mem_numbers] at hseq
    rw [h.timesSent_eq, show r.packet.seq = r.seq from rfl, if_neg (by omega), if_pos hseq.2]
  rw [survivors_append, h.survivors_eq, Pace.again]
  by_cases hlast : pace.rounds + 1 = lost
  · rw [if_pos hlast, survivorsAfter_eq_self fun p hp => Nat.le_of_eq (hlast ▸ (hsent p hp).symm),
      h.carries.packets_eq, hpassed, List.take_append_drop, List.take_of_length_le]
    exact Nat.le_of_eq (length_numberedFrom 0 items)
  · rw [if_neg hlast, survivorsAfter_eq_nil, List.append_nil]
    · rw [List.map_map]
      exact h.carries.nodup_numbers
    · intro p hp
      rw [hsent p hp]
      omega

section Late

variable (h : Paced lost items packets pace w) (hlate : settings.timeout < now - pace.time)
  (hpassed : pace.passed = w.base.toNat) (hflight : w.base.toNat < items.length)
  (hlost : (lost : Int) ≤ settings.maxRetries)

include h hlate hpassed hflight hlost

/-- A scan that comes too late for what is in flight, when nothing of it has got through, sends all
of it again. -/
lemma scan_late_record {r : Unacked} (hr : r ∈ w.inFlight) :
    r.scan settings now
      = ({ r with lastSent := now, retries := pace.rounds + 1 }, [.retransmit r.packet]) := by
  have hseq : r.seq ∈ w.numbers := List.mem_map_of_mem hr
  rw [h.carries.mem_numbers] at hseq
  have hretries := h.retries_eq r hr (by omega)
  have hrounds := h.rounds_lt (by omega)
  rw [Unacked.scan, h.lastSent_eq r hr, if_neg (by omega), if_neg (by omega), hretries]

lemma packets_scan_late :
    (w.scan settings now).2.filterMap Action.packet? = w.inFlight.map Unacked.packet := by
  have hscan := fun r hr => scan_late_record h hlate hpassed hflight hlost (r := r) hr
  rw [Sender.actions_scan, List.filterMap_flatMap, List.map_eq_flatMap]
  refine List.flatMap_congr fun r hr => ?_
  rw [hscan r hr]
  rfl

lemma retransmissions_scan_late :
    (w.scan settings now).1.retransmissions
      = w.retransmissions + (items.length - w.base.toNat) := by
  have hpackets := packets_scan_late h hlate hpassed hflight hlost
  show w.retransmissions + (w.scan settings now).2.countP Action.isRetransmit = _
  rw [← Sender.length_packets_scan, hpackets, List.length_map, h.carries.length_inFlight,
    h.carries.next_eq]

/-- **A scan that comes too late** for what is in flight sends all of it again, and the sender keeps
in step. -/
lemma scan_late :
    Paced lost items (packets ++ (w.scan settings now).2.filterMap Action.packet?)
      (pace.again lost items.length now) (w.scan settings now).1 := by
  have hscan := fun r hr => scan_late_record h hlate hpassed hflight hlost (r := r) hr
  have hpackets := packets_scan_late h hlate hpassed hflight hlost
  have hrounds := h.rounds_lt (by omega)
  exact
    { carries := h.carries.scan now
      running := h.running
      lastSent_eq := by
        intro x hx
        obtain ⟨r, hr, rfl⟩ := Sender.mem_scan.1 hx
        rw [hscan r hr]
        rfl
      retries_eq := by
        intro x hx hle
        obtain ⟨r, hr, rfl⟩ := Sender.mem_scan.1 hx
        have hseq : r.seq ∈ w.numbers := List.mem_map_of_mem hr
        rw [h.carries.mem_numbers] at hseq
        rw [Unacked.seq_scan] at hle
        rw [hscan r hr]
        dsimp only [Pace.again] at hle ⊢
        split_ifs at hle ⊢ with hlast
        · exact absurd hle (Nat.not_le.2 hseq.2)
        · rfl
      passed_le := by
        dsimp only [Pace.again]
        split_ifs
        · exact Nat.le_refl _
        · exact h.passed_le
      rounds_lt := by
        dsimp only [Pace.again]
        split_ifs <;> omega
      timesSent_eq := by
        intro seq
        rw [hpackets, timesSent_append, h.timesSent_eq, h.carries.timesSent_packets]
        dsimp only [Pace.again]
        split_ifs <;> omega
      survivors_eq := by
        rw [hpackets]
        exact h.survivors_again hpassed hflight now
      retransmissions_eq := by
        rw [retransmissions_scan_late h hlate hpassed hflight hlost, h.retransmissions_eq,
          ← hpassed, Nat.add_assoc, ← Nat.add_one_mul]
        dsimp only [Pace.again]
        split_ifs with hlast
        · -- all that was in flight has now been sent again as often as is lost
          rw [hlast, ← Nat.mul_add, Nat.zero_mul, Nat.add_zero, Nat.add_sub_cancel' h.passed_le]
        · rfl }

end Late

end Paced

end ReliableTransfer
