import ReliableTransfer.Proofs.Window.Pulse

/-!
# A packet in flight and what becomes of it

From the time at which it was first sent a packet is looked after: it is in flight and keeps its own
timetable.  Scans, other packets and acknowledgements of earlier ones make no difference to that.
Once it is acknowledged, or the sender is stopped, nothing more comes of it.

* `Session.Pulse.Tidy` — the packets in flight are in order, and numbers are given one after the
  other.
* `Session.Pulse.Tracks`, `Session.Pulse.Gone` — a packet that is looked after, and one that is not
  any more.
* `Session.Pulse.Tracks.scan`, `Session.Pulse.Tracks.send`, `Session.Pulse.Tracks.order` — every
  turn keeps it.
* `Session.Pulse.Sends.exists_firsts` — what is sent for the first time.
* `Session.Pulse.Tidy.exists_again` — what is sent again.
* `Session.OnTime` — what has come of a packet.
* **`Session.Followed.tracks`**, `Session.Followed.settled`, `Session.Followed.gone` — one
  instruction.
-/

namespace ReliableTransfer

/-- Numbers that are less than a full round apart are different. -/
lemma ofNat_ne_ofNat {m n : Nat} (hlt : m < n) (hround : n < m + 4294967296) :
    UInt32.ofNat m ≠ UInt32.ofNat n := by
  intro h
  have hsame := congrArg UInt32.toNat h
  rw [UInt32.toNat_ofNat', UInt32.toNat_ofNat'] at hsame
  omega

namespace Unacked

/-- A packet with a number of its own is in flight when it was added. -/
lemma mem_insert_self {r : Unacked} {records : List Unacked} (h : r.seq ∉ records.map seq) :
    r ∈ insert r records := by
  induction records with
  | nil => exact List.mem_singleton_self r
  | cons head rest ih =>
      simp only [List.map_cons, List.mem_cons, not_or] at h
      rw [insert, if_neg h.1]
      split_ifs
      · exact List.mem_cons_self
      · exact List.mem_cons_of_mem head (ih h.2)

/-- Packets are added in the order of their numbers. -/
lemma pairwise_insert (r : Unacked) {records : List Unacked}
    (h : (records.map seq).Pairwise (· < ·)) : ((insert r records).map seq).Pairwise (· < ·) := by
  induction records with
  | nil => simp [insert]
  | cons head rest ih =>
      rw [insert]
      split_ifs with hlt heq
      · simp only [List.map_cons, List.pairwise_cons] at h ⊢
        refine ⟨?_, h⟩
        rintro n (_ | ⟨_, hn⟩)
        · exact hlt
        · exact UInt32.lt_trans hlt (h.1 n hn)
      · exact h
      · simp only [List.map_cons, List.pairwise_cons] at h ⊢
        refine ⟨fun n hn => ?_, ih h.2⟩
        rcases (mem_map_seq_insert r rest n).1 hn with rfl | hn
        · have hle := UInt32.not_lt.1 hlt
          exact UInt32.lt_of_le_of_ne hle (Ne.symm heq)
        · exact h.1 n hn

end Unacked

/-- All that a scan does is about what is in flight. -/
lemma Sender.seq_mem_of_mem_scan {settings : Settings} {now : Int} {w : Sender} {a : Action}
    (h : a ∈ (w.scan settings now).2) : a.seq ∈ w.numbers := by
  rw [actions_scan, List.mem_flatMap] at h
  obtain ⟨r, hr, ha⟩ := h
  rw [Unacked.seq_of_mem_scan ha]
  exact List.mem_map_of_mem hr

/-- What a scan hands to the link comes in the order of what is in flight. -/
lemma Sender.seqs_scan_sublist (settings : Settings) (now : Int) (w : Sender) :
    (((w.scan settings now).2.filterMap Action.packet?).map Packet.seq).Sublist w.numbers := by
  rw [actions_scan, numbers]
  induction w.inFlight with
  | nil => exact .slnil
  | cons r rest ih =>
      rw [List.flatMap_cons, List.filterMap_append, List.map_append, List.map_cons]
      rcases Unacked.scan_cases settings now r with h | ⟨_, _, h⟩ | ⟨_, _, h⟩
      · rw [h]
        exact ih.cons _
      · rw [h]
        exact ih.cons _
      · rw [h]
        exact ih.cons_cons _

namespace Session

variable {settings : Settings} {failing : List Nat} {time now : Int} {p : Packet}
  {hand : List (Int × Packet)} {warn : List (Int × UInt32)} {n : UInt32}

namespace Pulse

variable {x y : Pulse}

/-! ## Numbers -/

/-- **The packets in flight are in order**, and numbers are given one after the other. -/
structure Tidy (x : Pulse) : Prop where
  sorted : x.sender.numbers.Pairwise (· < ·)
  next_eq : x.sender.next = UInt32.ofNat x.sender.packetsSent
  numbers : ∀ n ∈ x.sender.numbers, ∃ i < x.sender.packetsSent, n = UInt32.ofNat i
  handed : ∀ c ∈ x.handed, ∃ i < x.sender.packetsSent, c.2.seq = UInt32.ofNat i
  warned : ∀ c ∈ x.warned, ∃ i < x.sender.packetsSent, c.2 = UInt32.ofNat i

namespace Tidy

lemma scan (ht : x.Tidy) (settings : Settings) : (x.scan settings).Tidy := by
  have hnumbers := Sender.numbers_scan settings x.wake x.sender
  refine ⟨?_, ht.next_eq, ?_, fun c hc => ?_, fun c hc => ?_⟩
  · rw [Pulse.scan, hnumbers]
    exact ht.sorted
  · rw [Pulse.scan, hnumbers]
    exact ht.numbers
  · rcases List.mem_append.1 hc with hc | hc
    · exact ht.handed c hc
    · obtain ⟨p, hp, rfl⟩ := List.mem_map.1 hc
      obtain ⟨a, ha, hpacket⟩ := List.mem_filterMap.1 hp
      exact ht.numbers _ (Action.seq_of_packet? hpacket ▸ Sender.seq_mem_of_mem_scan ha)
  · rcases List.mem_append.1 hc with hc | hc
    · exact ht.warned c hc
    · obtain ⟨n, hn, rfl⟩ := List.mem_map.1 hc
      obtain ⟨a, ha, hwarning⟩ := List.mem_filterMap.1 hn
      exact ht.numbers _ (Action.seq_of_warning? hwarning ▸ Sender.seq_mem_of_mem_scan ha)

lemma send (ht : x.Tidy) (now : Int) (payload : Bytes) (flags : Flags) :
    (x.send now payload flags).Tidy := by
  have hnext : UInt32.ofNat (x.sender.packetsSent + 1) = x.sender.next + 1 := by
    rw [ht.next_eq, UInt32.ofNat_add]
    rfl
  refine ⟨Unacked.pairwise_insert _ ht.sorted, hnext.symm, fun n hn => ?_, fun c hc => ?_,
    fun c hc => ?_⟩
  · rcases (Sender.mem_numbers_send now payload flags x.sender n).1 hn with rfl | hn
    · exact ⟨x.sender.packetsSent, Nat.lt_succ_self _, ht.next_eq⟩
    · obtain ⟨i, hi, hseq⟩ := ht.numbers n hn
      exact ⟨i, Nat.lt_succ_of_lt hi, hseq⟩
  · rcases List.mem_append.1 hc with hc | hc
    · obtain ⟨i, hi, hseq⟩ := ht.handed c hc
      exact ⟨i, Nat.lt_succ_of_lt hi, hseq⟩
    · rw [List.mem_singleton.1 hc]
      exact ⟨x.sender.packetsSent, Nat.lt_succ_self _, ht.next_eq⟩
  · obtain ⟨i, hi, hseq⟩ := ht.warned c hc
    exact ⟨i, Nat.lt_succ_of_lt hi, hseq⟩

lemma order (ht : x.Tidy) (op : Operation) : (x.order op).Tidy := by
  cases op with
  | acknowledge number =>
      have hnumbers := Sender.numbers_acknowledge number x.sender
      refine ⟨?_, ht.next_eq, ?_, ht.handed, ht.warned⟩
      · rw [Pulse.order, hnumbers]
        exact ht.sorted.filter _
      · rw [Pulse.order, hnumbers]
        exact fun n hn => ht.numbers n (List.mem_filter.1 hn).1
  | send | await | stop => exact ht

lemma nodup (ht : x.Tidy) : x.sender.numbers.Nodup :=
  ht.sorted.imp fun h => UInt32.ne_of_lt h

/-- **A number is fresh** as long as numbers do not come round. -/
lemma fresh (ht : x.Tidy) {m : Nat} (hle : x.sender.packetsSent ≤ m) (hlt : m < 4294967296) :
    UInt32.ofNat m ∉ x.sender.numbers ∧ x.handed.filter (·.2.seq = UInt32.ofNat m) = [] ∧
      x.warned.filter (·.2 = UInt32.ofNat m) = [] := by
  have hother : ∀ n, (∃ i < x.sender.packetsSent, n = UInt32.ofNat i) → n ≠ UInt32.ofNat m := by
    rintro n ⟨i, hi, rfl⟩
    exact ofNat_ne_ofNat (by omega) (by omega)
  refine ⟨fun h => hother _ (ht.numbers _ h) rfl, ?_, ?_⟩
  · exact List.filter_eq_nil_iff.2 fun c hc h => hother _ (ht.handed c hc) (of_decide_eq_true h)
  · exact List.filter_eq_nil_iff.2 fun c hc h => hother _ (ht.warned c hc) (of_decide_eq_true h)

end Tidy

/-! ## A packet in flight -/

/-- **A packet is looked after**: it is in flight and has kept its timetable, and beyond what was
there before it was sent, the link was called with it and it was complained about just as that
says. -/
def Tracks (settings : Settings) (time : Int) (p : Packet) (hand : List (Int × Packet))
    (warn : List (Int × UInt32)) (x : Pulse) : Prop :=
  ∃ r ∈ x.sender.inFlight, ∃ i, r.Keeps settings time p x.wake i ∧
    x.handed.filter (·.2.seq = p.seq) = hand ++ Unacked.calls settings time p i ∧
    x.warned.filter (·.2 = p.seq) = warn ++ Unacked.complaints settings time i r

/-- **A number is out of use**: nothing is in flight under it, and this is what has come of it. -/
structure Gone (n : UInt32) (hand : List (Int × Packet)) (warn : List (Int × UInt32)) (x : Pulse) :
    Prop where
  notMem : n ∉ x.sender.numbers
  handed_eq : x.handed.filter (·.2.seq = n) = hand
  warned_eq : x.warned.filter (·.2 = n) = warn

/-- What the actions of a scan have of one number. -/
lemma filter_handed_scan (settings : Settings) (x : Pulse) (n : UInt32) :
    (x.scan settings).handed.filter (·.2.seq = n) = x.handed.filter (·.2.seq = n)
      ++ (((x.sender.scan settings x.wake).2.filter (·.seq = n)).filterMap Action.packet?).map
        (x.wake, ·) := by
  rw [← Action.filter_filterMap Action.seq_of_packet?, Pulse.scan,
    List.filter_append, List.filter_map]
  rfl

lemma filter_warned_scan (settings : Settings) (x : Pulse) (n : UInt32) :
    (x.scan settings).warned.filter (·.2 = n) = x.warned.filter (·.2 = n)
      ++ (((x.sender.scan settings x.wake).2.filter (·.seq = n)).filterMap Action.warning?).map
        (x.wake, ·) := by
  rw [← Action.filter_filterMap Action.seq_of_warning?, Pulse.scan,
    List.filter_append, List.filter_map]
  rfl

/-- Sending a packet with another number. -/
lemma filter_handed_send (now : Int) (payload : Bytes) (flags : Flags) (h : x.sender.next ≠ n) :
    (x.send now payload flags).handed.filter (·.2.seq = n) = x.handed.filter (·.2.seq = n) := by
  rw [Pulse.send, List.filter_append, List.filter_singleton,
    decide_eq_false (show ¬ (x.sender.packet payload flags).seq = n from h)]
  exact List.append_nil _

namespace Tracks

/-- **A scan** does with the packet what its timetable says. -/
lemma scan (hpoll : 1 ≤ settings.poll) (htimeout : 0 ≤ settings.timeout) (ht : x.Tidy)
    (hdvd : settings.poll ∣ x.wake) (hk : x.Tracks settings time p hand warn) :
    (x.scan settings).Tracks settings time p hand warn := by
  obtain ⟨r, hr, i, hkeeps, hhanded, hwarned⟩ := hk
  obtain ⟨i', hkeeps', hcalls, hcomplaints⟩ := hkeeps.scan hpoll htimeout hdvd
  have hseq : r.seq = p.seq := congrArg Packet.seq hkeeps.packet_eq
  have hactions := Sender.filter_scan_of_mem settings x.wake hr ht.nodup
  rw [hseq] at hactions
  refine ⟨_, Sender.mem_scan.2 ⟨r, hr, rfl⟩, i', hkeeps', ?_, ?_⟩
  · rw [filter_handed_scan, hactions, hhanded, hcalls, List.append_assoc]
  · rw [filter_warned_scan, hactions, hwarned, hcomplaints, List.append_assoc]

/-- Sending another packet makes no difference. -/
lemma send (hk : x.Tracks settings time p hand warn) (now : Int) (payload : Bytes) (flags : Flags)
    (hother : x.sender.next ≠ p.seq) :
    (x.send now payload flags).Tracks settings time p hand warn := by
  obtain ⟨r, hr, i, hkeeps, hhanded, hwarned⟩ := hk
  refine ⟨r, Unacked.mem_insert_of_mem _ hr, i, hkeeps, ?_, hwarned⟩
  rw [filter_handed_send now payload flags hother, hhanded]

/-- Neither does an acknowledgement of an earlier one. -/
lemma order (hk : x.Tracks settings time p hand warn) {op : Operation}
    (hearlier : ∀ number, op = .acknowledge number → number < p.seq) :
    (x.order op).Tracks settings time p hand warn := by
  cases op with
  | acknowledge number =>
      obtain ⟨r, hr, i, hkeeps, hhanded, hwarned⟩ := hk
      have hlt : number < r.seq := by
        rw [Unacked.seq, hkeeps.packet_eq]
        exact hearlier number rfl
      exact ⟨r, List.mem_filter.2 ⟨hr, decide_eq_true hlt⟩, i, hkeeps, hhanded, hwarned⟩
  | send | await | stop => exact hk

end Tracks

namespace Gone

lemma scan (hg : x.Gone n hand warn) (settings : Settings) :
    (x.scan settings).Gone n hand warn := by
  have hactions := Sender.filter_scan_of_notMem settings x.wake hg.notMem
  refine ⟨?_, ?_, ?_⟩
  · rw [Pulse.scan, Sender.numbers_scan]
    exact hg.notMem
  · rw [filter_handed_scan, hactions, hg.handed_eq]
    exact List.append_nil _
  · rw [filter_warned_scan, hactions, hg.warned_eq]
    exact List.append_nil _

lemma send (hg : x.Gone n hand warn) (now : Int) (payload : Bytes) (flags : Flags)
    (hother : x.sender.next ≠ n) : (x.send now payload flags).Gone n hand warn := by
  refine ⟨fun hn => ?_, ?_, hg.warned_eq⟩
  · rcases (Sender.mem_numbers_send now payload flags x.sender n).1 hn with rfl | hn
    · exact hother rfl
    · exact hg.notMem hn
  · rw [filter_handed_send now payload flags hother, hg.handed_eq]

lemma order (hg : x.Gone n hand warn) (op : Operation) : (x.order op).Gone n hand warn := by
  cases op with
  | acknowledge number =>
      refine ⟨fun hn => ?_, hg.handed_eq, hg.warned_eq⟩
      rw [Pulse.order, Sender.numbers_acknowledge] at hn
      exact hg.notMem (List.mem_filter.1 hn).1
  | send | await | stop => exact hg

end Gone

/-! ## Several packets at one time -/

namespace Sends

lemma tidy (hs : Sends now x y) (ht : x.Tidy) : y.Tidy := by
  induction hs with
  | refl => exact ht
  | tail _ hsend ih =>
      obtain ⟨payload, flags, rfl⟩ := hsend
      exact ih.send now payload flags

lemma packetsSent_le (hs : Sends now x y) : x.sender.packetsSent ≤ y.sender.packetsSent := by
  induction hs with
  | refl => exact Nat.le_refl _
  | tail _ hsend ih =>
      obtain ⟨payload, flags, rfl⟩ := hsend
      exact Nat.le_succ_of_le ih

/-- **What sending packets with other numbers keeps** is kept as long as numbers do not come
round. -/
lemma keep {P : Pulse → Prop} {m : Nat} (hs : Sends now x y) (ht : x.Tidy)
    (hsend : ∀ (z : Pulse) (payload : Bytes) (flags : Flags),
      z.sender.next ≠ UInt32.ofNat m → P z → P (z.send now payload flags))
    (hm : m < x.sender.packetsSent) (hround : y.sender.packetsSent ≤ m + 4294967296)
    (hx : P x) : P y := by
  induction hs with
  | refl => exact hx
  | @tail z _ hfirst hlast ih =>
      obtain ⟨payload, flags, rfl⟩ := hlast
      have hle := packetsSent_le hfirst
      have hround' : z.sender.packetsSent + 1 ≤ m + 4294967296 := hround
      refine hsend z payload flags ?_ (ih (by omega))
      rw [(tidy hfirst ht).next_eq]
      exact (ofNat_ne_ofNat (by omega) (by omega)).symm

end Sends

/-- **The packets sent for the first time** at one time have the next numbers. -/
structure Firsts (now : Int) (x : Pulse) (first : List Packet) (y : Pulse) : Prop where
  wake_eq : y.wake = x.wake
  warned_eq : y.warned = x.warned
  handed_eq : y.handed = x.handed ++ first.map (now, ·)
  packetsSent_eq : y.sender.packetsSent = x.sender.packetsSent + first.length
  seqs_eq : first.map Packet.seq
    = (List.range first.length).map fun i => UInt32.ofNat (x.sender.packetsSent + i)
  numbers : ∀ n ∈ y.sender.numbers, n ∈ x.sender.numbers ∨ n ∈ first.map Packet.seq

namespace Firsts

variable {first : List Packet}

lemma refl (now : Int) (x : Pulse) : Firsts now x [] x :=
  ⟨rfl, rfl, (List.append_nil _).symm, rfl, rfl, fun _ hn => .inl hn⟩

lemma send (hf : Firsts now x first y) (ht : y.Tidy) (payload : Bytes) (flags : Flags) :
    Firsts now x (first ++ [y.sender.packet payload flags]) (y.send now payload flags) := by
  have hseq : (y.sender.packet payload flags).seq
      = UInt32.ofNat (x.sender.packetsSent + first.length) := by
    rw [← hf.packetsSent_eq]
    exact ht.next_eq
  refine ⟨hf.wake_eq, hf.warned_eq, ?_, ?_, ?_, fun n hn => ?_⟩
  · rw [Pulse.send, hf.handed_eq]
    simp
  · rw [List.length_append, List.length_singleton, ← Nat.add_assoc, ← hf.packetsSent_eq]
    rfl
  · rw [List.map_append, hf.seqs_eq, List.length_append, List.length_singleton, List.range_succ]
    simp [hseq]
  · rw [List.map_append]
    rcases (Sender.mem_numbers_send now payload flags y.sender n).1 hn with rfl | hn
    · exact .inr (List.mem_append_right _ (List.mem_singleton_self _))
    · exact (hf.numbers n hn).imp_right (List.mem_append_left _)

lemma exists_index (hf : Firsts now x first y) (hp : p ∈ first) :
    ∃ i < first.length, p.seq = UInt32.ofNat (x.sender.packetsSent + i) := by
  have hmem := List.mem_map_of_mem (f := Packet.seq) hp
  rw [hf.seqs_eq] at hmem
  obtain ⟨i, hi, hseq⟩ := List.mem_map.1 hmem
  exact ⟨i, List.mem_range.1 hi, hseq.symm⟩

end Firsts

/-- **Whatever is sent for the first time** under a number of its own is looked after from then
on. -/
lemma Sends.exists_firsts (hpoll : 1 ≤ settings.poll) (htimeout : 0 ≤ settings.timeout)
    (hs : Sends now x y) (ht : x.Tidy) (hdvd : settings.poll ∣ x.wake) (hlt : now < x.wake)
    (hle : x.wake - settings.poll ≤ now) :
    ∃ first, Firsts now x first y ∧
      (y.sender.packetsSent ≤ x.sender.packetsSent + 4294967296 → ∀ p ∈ first,
        p.seq ∉ x.sender.numbers → y.Tracks settings now p
          (x.handed.filter (·.2.seq = p.seq)) (x.warned.filter (·.2 = p.seq))) := by
  induction hs with
  | refl => exact ⟨[], .refl now x, nofun⟩
  | @tail y _ hsends hlast ih =>
      obtain ⟨payload, flags, rfl⟩ := hlast
      obtain ⟨first, hf, htracks⟩ := ih
      have hy := Sends.tidy hsends ht
      refine ⟨_, hf.send hy payload flags, fun hround p hp hfresh => ?_⟩
      have hround' : x.sender.packetsSent + first.length + 1
          ≤ x.sender.packetsSent + 4294967296 := by
        rw [← hf.packetsSent_eq]
        exact hround
      have hnext : y.sender.next = UInt32.ofNat (x.sender.packetsSent + first.length) := by
        rw [← hf.packetsSent_eq]
        exact hy.next_eq
      have hothers : ∀ q ∈ first, y.sender.next ≠ q.seq := by
        intro q hq
        obtain ⟨i, hi, hseq⟩ := hf.exists_index hq
        rw [hnext, hseq]
        exact (ofNat_ne_ofNat (by omega) (by omega)).symm
      rcases List.mem_append.1 hp with hp | hp
      · exact (htracks (by rw [hf.packetsSent_eq]; omega) p hp hfresh).send now payload flags
          (hothers p hp)
      · -- it is the packet that was just sent, and its number is not in flight
        obtain rfl := List.mem_singleton.1 hp
        have hnotMem : y.sender.next ∉ y.sender.inFlight.map Unacked.seq := by
          intro hmem
          rcases hf.numbers _ hmem with hmem | hmem
          · exact hfresh hmem
          · obtain ⟨q, hq, hseq⟩ := List.mem_map.1 hmem
            exact hothers q hq hseq.symm
        refine ⟨_, Unacked.mem_insert_self hnotMem, 0, ?_, ?_, ?_⟩
        · have hwake := hf.wake_eq
          refine Unacked.Keeps.fresh hpoll htimeout ?_ ?_ ?_ _
          · exact hwake ▸ hdvd
          · exact hwake ▸ hlt
          · exact hwake ▸ hle
        · have hnone : (first.map (now, ·)).filter
              (·.2.seq = (y.sender.packet payload flags).seq) = [] := by
            rw [List.filter_eq_nil_iff]
            intro c hc
            obtain ⟨q, hq, rfl⟩ := List.mem_map.1 hc
            rw [decide_eq_true_eq]
            exact (hothers q hq).symm
          rw [Pulse.send, hf.handed_eq, List.filter_append, List.filter_append, hnone]
          simp [Unacked.calls, Settings.resendTime]
        · rw [Pulse.send, hf.warned_eq]
          exact (List.append_nil _).symm

/-- The same for what is sent when a call is made. -/
lemma Sends.exists_firsts_order (hpoll : 1 ≤ settings.poll) (htimeout : 0 ≤ settings.timeout)
    {op : Operation} (hs : Sends now (x.order op) y) (ht : x.Tidy) (hdvd : settings.poll ∣ x.wake)
    (hlt : now < x.wake) (hle : x.wake - settings.poll ≤ now) :
    ∃ first, Firsts now x first y ∧
      (y.sender.packetsSent ≤ x.sender.packetsSent + 4294967296 → ∀ p ∈ first,
        p.seq ∉ x.sender.numbers → y.Tracks settings now p
          (x.handed.filter (·.2.seq = p.seq)) (x.warned.filter (·.2 = p.seq))) := by
  have hwake := x.wake_order op
  obtain ⟨first, hf, htracks⟩ := hs.exists_firsts hpoll htimeout (ht.order op) (hwake ▸ hdvd)
    (hwake ▸ hlt) (hwake ▸ hle)
  obtain ⟨hwake, hwarned, hhanded, hsent, hseqs, hnumbers⟩ := hf
  rw [wake_order] at hwake
  rw [handed_order] at hhanded htracks
  rw [warned_order] at hwarned
  rw [packetsSent_order] at hsent hseqs htracks
  have hsubset := numbers_order_subset op x
  refine ⟨first, ⟨hwake, hwarned, hhanded, hsent, hseqs, fun n hn => ?_⟩,
    fun hround p hp hfresh => ?_⟩
  · exact (hnumbers n hn).imp_left fun h => hsubset h
  · have hp' := htracks hround p hp fun hn => hfresh (hsubset hn)
    rwa [warned_order] at hp'

/-- What scans keep is kept by any number of them. -/
lemma Tidy.iterate_scan {P : Pulse → Prop}
    (hscan : ∀ z : Pulse, z.Tidy → settings.poll ∣ z.wake → P z → P (z.scan settings))
    (ht : x.Tidy) (hdvd : settings.poll ∣ x.wake) (hx : P x) (m : Nat) :
    ((Pulse.scan settings)^[m] x).Tidy ∧ settings.poll ∣ ((Pulse.scan settings)^[m] x).wake ∧
      P ((Pulse.scan settings)^[m] x) := by
  induction m with
  | zero => exact ⟨ht, hdvd, hx⟩
  | succ m ih =>
      obtain ⟨ht, hdvd, hx⟩ := ih
      rw [Function.iterate_succ_apply']
      exact ⟨ht.scan settings, Int.dvd_add hdvd (Int.dvd_refl _), hscan _ ht hdvd hx⟩

/-- **What scans send again** is in flight, and it comes in the order of time, and at one time in
the order of the numbers. -/
lemma Tidy.exists_again (hpoll : 1 ≤ settings.poll) (ht : x.Tidy) (m : Nat) :
    ∃ again, ((Pulse.scan settings)^[m] x).handed = x.handed ++ again ∧
      ((Pulse.scan settings)^[m] x).sender.numbers = x.sender.numbers ∧
      again.Pairwise (fun a b => a.1 < b.1 ∨ a.1 = b.1 ∧ a.2.seq < b.2.seq) ∧
      ∀ c ∈ again, c.1 < ((Pulse.scan settings)^[m] x).wake ∧ c.2.seq ∈ x.sender.numbers := by
  induction m with
  | zero => exact ⟨[], (List.append_nil _).symm, rfl, .nil, nofun⟩
  | succ m ih =>
      obtain ⟨again, hhanded, hnumbers, hpairwise, hagain⟩ := ih
      rw [Function.iterate_succ_apply']
      generalize (Pulse.scan settings)^[m] x = y at *
      have hsorted := (hnumbers ▸ ht.sorted).sublist
        (Sender.seqs_scan_sublist settings y.wake y.sender)
      have hlater : ∀ c ∈ again, c.1 < y.wake + settings.poll := fun c hc => by
        have hlt := (hagain c hc).1
        omega
      refine ⟨_, by rw [Pulse.scan, hhanded, List.append_assoc],
        (Sender.numbers_scan settings y.wake y.sender).trans hnumbers, ?_, fun c hc => ?_⟩
      · refine List.pairwise_append.2 ⟨hpairwise, ?_, fun a ha b hb => ?_⟩
        · rw [List.pairwise_map] at hsorted ⊢
          exact hsorted.imp fun h => .inr ⟨rfl, h⟩
        · obtain ⟨q, _, rfl⟩ := List.mem_map.1 hb
          exact .inl (hagain a ha).1
      · rcases List.mem_append.1 hc with hc | hc
        · exact ⟨hlater c hc, (hagain c hc).2⟩
        · obtain ⟨q, hq, rfl⟩ := List.mem_map.1 hc
          obtain ⟨a, ha, hpacket⟩ := List.mem_filterMap.1 hq
          refine ⟨Int.lt_add_of_pos_right _ (by omega), ?_⟩
          rw [← hnumbers, Action.seq_of_packet? hpacket]
          exact Sender.seq_mem_of_mem_scan ha

end Pulse

/-! ## One instruction -/

/-- Whether an instruction ends the care for a packet with this number. -/
def Instruction.settles (n : UInt32) : Instruction → Bool
  | call (.acknowledge number) => n ≤ number
  | call .stop => true
  | _ => false

/-- **The times at which a packet was sent**, and complained about, are those of its timetable up to
the last at which it was looked after. -/
structure OnTime (settings : Settings) (time : Int) (p : Packet) (hand : List (Int × Packet))
    (warn : List (Int × UInt32)) (last : Int) (s : Session) : Prop where
  handed_eq : s.handed.filter (·.2.seq = p.seq) = hand ++ (settings.timetable time last).map (·, p)
  warned_eq : s.warned.filter (·.2 = p.seq)
    = warn ++ if settings.warningTime time ≤ last then [(settings.warningTime time, p.seq)] else []

/-- **A packet that is looked after** is sent, and complained about, as its timetable says. -/
lemma Pulse.Tracks.onTime {s : Session} (hpoll : 1 ≤ settings.poll)
    (htimeout : 0 ≤ settings.timeout) (hb : s.Timed settings) (hlt : s.now < s.wake)
    (htime : time ≤ s.now) (hk : s.pulse.Tracks settings time p hand warn) :
    s.OnTime settings time p hand warn s.now := by
  obtain ⟨r, hr, i, hkeeps, hhanded, hwarned⟩ := hk
  refine ⟨?_, ?_⟩
  · rw [← hkeeps.calls_eq hpoll htimeout hb.dvd hlt hb.le_now htime]
    exact hhanded
  · rw [← hkeeps.complaints_eq hpoll htimeout hb.dvd hlt hb.le_now]
    exact hwarned

namespace Followed

variable {s s' : Session} {i : Instruction} {m : Nat} {last : Int}

lemma packetsSent_le (hf : Followed settings s s' i) :
    s.sender.packetsSent ≤ s'.sender.packetsSent := by
  cases hf with
  | advance m _ _ _ hpulse =>
      rw [← show _ = s.sender.packetsSent from s.pulse.packetsSent_iterate_scan settings m,
        ← hpulse]
      exact Nat.le_refl _
  | @call op _ _ _ _ hsends =>
      rw [← show _ = s.sender.packetsSent from s.pulse.packetsSent_order op]
      exact Pulse.Sends.packetsSent_le hsends
  | stop halted => exact Nat.le_of_eq halted.packetsSent_eq.symm

/-- The sender stays at work, or it is stopped and nothing else happens. -/
lemma running_or_halted (hf : Followed settings s s' i) :
    s'.sender.running = true ∨ Halted s s' := by
  cases hf with
  | advance _ hb => exact .inl hb.running
  | call _ hb => exact .inl hb.running
  | stop halted => exact .inr halted

/-- An instruction that does not stop the sender takes the time it says. -/
lemma now_eq (hf : Followed settings s s' i) (hnot : i.settles n = false) :
    s'.now = s.now + i.span ∧ 0 ≤ i.span := by
  cases hf with
  | advance _ _ hspan hnow => exact ⟨hnow, hspan⟩
  | call _ _ _ hnow => exact ⟨hnow.trans (Int.add_zero _).symm, Int.le_refl 0⟩
  | stop => cases hnot

/-- A session at work stays so until it is stopped. -/
lemma tidy (hf : Followed settings s s' i) (hb : s.Beating settings) (ht : s.pulse.Tidy)
    (hrunning : s'.sender.running = true) : s'.Beating settings ∧ s'.pulse.Tidy := by
  cases hf with
  | advance m hb' _ _ hpulse =>
      refine ⟨hb', ?_⟩
      rw [hpulse]
      exact (ht.iterate_scan (P := fun _ => True) (fun _ _ _ h => h) hb.dvd trivial m).1
  | @call op _ hb' _ _ hsends => exact ⟨hb', Pulse.Sends.tidy hsends (ht.order op)⟩
  | stop halted =>
      rw [halted.stopped] at hrunning
      cases hrunning

/-- **What one instruction keeps**, as long as numbers do not come round. -/
lemma keep {P : Pulse → Prop} (hf : Followed settings s s' i) (hb : s.Beating settings)
    (ht : s.pulse.Tidy)
    (hscan : ∀ z : Pulse, z.Tidy → settings.poll ∣ z.wake → P z → P (z.scan settings))
    (hsend : ∀ (z : Pulse) (now : Int) (payload : Bytes) (flags : Flags),
      z.sender.next ≠ UInt32.ofNat m → P z → P (z.send now payload flags))
    (hadvance : ∀ span, i = .advance span → P s.pulse)
    (hcall : ∀ op, op ≠ .stop → i = .call op → P (s.pulse.order op))
    (hm : m < s.sender.packetsSent) (hround : s'.sender.packetsSent ≤ m + 4294967296)
    (hrunning : s'.sender.running = true) : P s'.pulse := by
  cases hf with
  | advance m' _ _ _ hpulse =>
      rw [hpulse]
      exact (ht.iterate_scan hscan hb.dvd (hadvance _ rfl) m').2.2
  | @call op hop _ _ _ hsends =>
      exact Pulse.Sends.keep hsends (ht.order op) (fun z => hsend z s.now)
        (s.pulse.packetsSent_order op ▸ hm) hround (hcall op hop rfl)
  | stop halted =>
      rw [halted.stopped] at hrunning
      cases hrunning

variable (hpoll : 1 ≤ settings.poll) (htimeout : 0 ≤ settings.timeout)
  (hf : Followed settings s s' i) (hb : s.Beating settings) (ht : s.pulse.Tidy)
  (hseq : p.seq = UInt32.ofNat m) (hm : m < s.sender.packetsSent)
  (hround : s'.sender.packetsSent ≤ m + 4294967296)
include hf hb ht hseq hm hround

include hpoll htimeout in
/-- **A packet stays looked after** while it is neither acknowledged nor the sender stopped. -/
lemma tracks (hk : s.pulse.Tracks settings time p hand warn) (hnot : i.settles p.seq = false) :
    s'.Beating settings ∧ s'.pulse.Tidy ∧ s'.pulse.Tracks settings time p hand warn := by
  have hearlier : ∀ op, op ≠ .stop → i = .call op →
      (s.pulse.order op).Tracks settings time p hand warn := by
    rintro op _ rfl
    refine hk.order fun number hop => ?_
    subst hop
    exact UInt32.not_le.1 (of_decide_eq_false hnot)
  have hrunning : s'.sender.running = true := by
    cases hf with
    | advance _ hb' => exact hb'.running
    | call _ hb' => exact hb'.running
    | stop => cases hnot
  obtain ⟨hb', ht'⟩ := hf.tidy hb ht hrunning
  exact ⟨hb', ht', hf.keep hb ht (fun z hz hdvd h => h.scan hpoll htimeout hz hdvd)
    (fun z now payload flags hnext h => h.send now payload flags (hseq ▸ hnext))
    (fun _ _ => hk) hearlier hm hround hrunning⟩

/-- Whatever an instruction leaves gone stays as it was before. -/
lemma gone_of
    (hadvance : ∀ span, i = .advance span → s.pulse.Gone p.seq hand warn)
    (hcall : ∀ op, op ≠ .stop → i = .call op → (s.pulse.order op).Gone p.seq hand warn)
    (hhanded : s.handed.filter (·.2.seq = p.seq) = hand)
    (hwarned : s.warned.filter (·.2 = p.seq) = warn) :
    s'.handed.filter (·.2.seq = p.seq) = hand ∧ s'.warned.filter (·.2 = p.seq) = warn ∧
      (s'.sender.running = true → s'.pulse.Gone p.seq hand warn) := by
  have hkept : s'.sender.running = true → s'.pulse.Gone p.seq hand warn :=
    hf.keep hb ht (fun z _ _ h => h.scan settings)
      (fun z now payload flags hnext h => h.send now payload flags (hseq ▸ hnext)) hadvance hcall hm
      hround
  rcases hf.running_or_halted with hrunning | hhalted
  · have hg := hkept hrunning
    exact ⟨hg.handed_eq, hg.warned_eq, fun _ => hg⟩
  · exact ⟨by rw [hhalted.handed_eq, hhanded], by rw [hhalted.warned_eq, hwarned], hkept⟩

/-- **A packet that was settled** stays so. -/
lemma gone (hg : s.pulse.Gone p.seq hand warn) :
    s'.handed.filter (·.2.seq = p.seq) = hand ∧ s'.warned.filter (·.2 = p.seq) = warn ∧
      (s'.sender.running = true → s'.pulse.Gone p.seq hand warn) :=
  hf.gone_of hb ht hseq hm hround (fun _ _ => hg) (fun op _ _ => hg.order op) hg.handed_eq
    hg.warned_eq

/-- **A packet is settled** by an acknowledgement or by the stop, and that changes nothing about
what has come of it. -/
lemma settled (hsettles : i.settles p.seq = true) :
    s'.handed.filter (·.2.seq = p.seq) = s.handed.filter (·.2.seq = p.seq) ∧
      s'.warned.filter (·.2 = p.seq) = s.warned.filter (·.2 = p.seq) ∧
      (s'.sender.running = true → s'.pulse.Gone p.seq (s.handed.filter (·.2.seq = p.seq))
        (s.warned.filter (·.2 = p.seq))) := by
  refine hf.gone_of hb ht hseq hm hround ?_ ?_ rfl rfl
  · rintro span rfl
    cases hsettles
  · rintro op hop rfl
    cases op with
    | acknowledge number =>
        refine ⟨fun hn => ?_, rfl, rfl⟩
        rw [Pulse.order, Sender.numbers_acknowledge] at hn
        have hlt : number < p.seq := of_decide_eq_true (List.mem_filter.1 hn).2
        exact UInt32.not_le.2 hlt (of_decide_eq_true hsettles)
    | stop => exact absurd rfl hop
    | send | await => cases hsettles

end Followed

end Session

end ReliableTransfer
