import ReliableTransfer.Proofs.Window.Calls

/-!
# How far cumulative acknowledgements reach

An acknowledgement goes by the order of the numbers.  There are 4294967296 of them, and the packet
after the last is number zero again.  As long as the numbers in flight are all of one lap, their
order is that of sending, and an acknowledgement of a packet in flight takes out that packet and
those sent before it.  A packet that is number zero again while others are in flight stands before
all of them, and the next acknowledgement takes it out unseen.

* `Log.Confirms` — an item that was acknowledged after it was given, in whatever lap.
* `History.LapsApart` — a new lap is begun only when nothing is in flight.
* `History.Trails` — what is in flight is what was sent last, and the rest is acknowledged.
* **`History.acknowledge_in_order`** — as long as laps are kept apart.
* `History.lapsApart_of_length_le`, `History.lapsApart_of_window_one` — they are in the first lap,
  and with a window of one packet always; `History.exists_lapsApart_beyond` is about such histories.
* `History.undrained_packet_lost` — the first time they are not, a packet can be lost.
* **`History.wrapped_packet_lost`** — a history in which it does.
-/

namespace ReliableTransfer

/-- Whether the item with index `i` was acknowledged after it was given. -/
def Log.Confirms (log : Log) (i : Nat) : Prop :=
  ∃ (pre : Log) (number : UInt32) (post : Log), log = pre ++ .acknowledged number :: post ∧
    i < pre.items.length ∧ UInt32.ofNat i ≤ number

namespace Log

/-- As long as every item has a number of its own, it is confirmed when its number is settled. -/
lemma confirms_iff_settles {log : Log} {i : Nat} (hi : i < 4294967296) :
    log.Confirms i ↔ log.Settles (UInt32.ofNat i) := by
  simp only [Confirms, Settles, toNat_ofNat_of_lt hi]

/-- What was acknowledged stays acknowledged. -/
lemma Confirms.append {log : Log} {i : Nat} (hc : log.Confirms i) (more : Log) :
    Log.Confirms (log ++ more) i := by
  obtain ⟨pre, number, post, rfl, hpre⟩ := hc
  exact ⟨pre, number, post ++ more, by rw [List.append_assoc, List.cons_append], hpre⟩

end Log

namespace History

variable {settings : Settings} {h h' : History} {lap first : Nat}

/-- **Laps are kept apart** on the way to a history: number zero is given out again only when
nothing is in flight. -/
def LapsApart (settings : Settings) (h : History) : Prop :=
  ∀ (g : History) (takes : Log → Bool) (time : Int) (payload : Bytes) (flags : Flags),
    Reachable settings g → g.sender.hasRoom settings = true →
      Later settings (g.send takes time payload flags) h →
      g.log.items ≠ [] → g.sender.next = 0 → g.sender.inFlight = []

lemma LapsApart.before (hlaps : LapsApart settings h') (hl : Later settings h h') :
    LapsApart settings h :=
  fun g takes time payload flags hg hroom hl' =>
    hlaps g takes time payload flags hg hroom (hl'.trans hl)

/-- **What is in flight is what was sent last**, in the order of sending, and all that was sent
before was acknowledged after it was sent.  The numbers in flight begin with `first`, and number
zero of their lap is the item with index `lap`. -/
structure Trails (lap first : Nat) (h : History) : Prop where
  lap_eq : lap % 4294967296 = 0
  next_eq : h.sender.next = UInt32.ofNat h.log.items.length
  first_le : lap + first ≤ h.log.items.length
  length_le : h.log.items.length ≤ lap + 4294967296
  packets_eq : h.sender.inFlight.map Unacked.packet
    = numberedFrom first (h.log.items.drop (lap + first))
  confirmed : ∀ i < lap + first, h.log.Confirms i

namespace Trails

/-- The numbers in flight count on from the first of them. -/
lemma map_seq_eq (ht : Trails lap first h) :
    h.sender.inFlight.map (·.seq.toNat)
      = List.range' first (h.log.items.length - (lap + first)) := by
  have hfirst := ht.first_le
  have hlength := ht.length_le
  calc h.sender.inFlight.map (·.seq.toNat)
      = (h.sender.inFlight.map Unacked.packet).map (·.seq.toNat) := by
        rw [List.map_map]
        rfl
    _ = List.range' first (h.log.items.drop (lap + first)).length := by
        rw [ht.packets_eq, map_seq_numberedFrom (by rw [List.length_drop]; omega)]
    _ = List.range' first (h.log.items.length - (lap + first)) := by
        rw [List.length_drop]

/-- The packets in flight are the last of all that were numbered. -/
lemma packets_eq_drop (ht : Trails lap first h) :
    h.sender.inFlight.map Unacked.packet
      = (numbered h.log.items).drop (lap + first) := by
  rw [ht.packets_eq, numbered, drop_numberedFrom, Nat.zero_add, numberedFrom_lap ht.lap_eq]

/-- With nothing in flight, everything is behind. -/
lemma length_eq (ht : Trails lap first h) (hempty : h.sender.inFlight = []) :
    h.log.items.length = lap + first := by
  have hseq := ht.map_seq_eq
  have hfirst := ht.first_le
  rw [hempty, List.map_nil] at hseq
  have hzero := congrArg List.length hseq
  rw [List.length_nil, List.length_range'] at hzero
  omega

lemma start {w : Sender} (hw : Sender.create settings = .ok w) : Trails 0 0 ⟨w, []⟩ := by
  rw [Sender.eq_of_create hw]
  exact ⟨rfl, rfl, Nat.le_refl 0, Nat.zero_le _, rfl, fun i hi => absurd hi (Nat.not_lt_zero i)⟩

/-- Sending goes on in the lap that has numbers left. -/
lemma send (ht : Trails lap first h) (hlength : h.log.items.length < lap + 4294967296)
    (takes : Log → Bool) (time : Int) (payload : Bytes) (flags : Flags) :
    Trails lap first (h.send takes time payload flags) := by
  have hfirst := ht.first_le
  obtain ⟨n, hn⟩ := Nat.exists_eq_add_of_le hfirst
  have hnext : h.sender.next = UInt32.ofNat (first + n) := by
    rw [ht.next_eq, hn, Nat.add_assoc, ofNat_lap ht.lap_eq]
  -- the new number is above all that are in flight, so its packet goes to the end
  have habove : ∀ x ∈ h.sender.inFlight, x.seq < h.sender.next := by
    intro x hx
    have hmem : x.seq.toNat ∈ h.sender.inFlight.map (·.seq.toNat) := List.mem_map_of_mem hx
    rw [ht.map_seq_eq, List.mem_range'_1] at hmem
    rw [UInt32.lt_iff_toNat_lt, hnext, toNat_ofNat_of_lt (by omega)]
    omega
  obtain ⟨more, hmore, _⟩ := log_send takes time payload flags h
  refine ⟨ht.lap_eq, ?_, ?_, ?_, ?_, ?_⟩
  · rw [items_send, List.length_append, List.length_singleton, UInt32.ofNat_add, ← ht.next_eq]
    rfl
  · rw [items_send, List.length_append]
    exact Nat.le_add_right_of_le hfirst
  · rw [items_send, List.length_append, List.length_singleton]
    exact hlength
  · show (Unacked.insert _ h.sender.inFlight).map Unacked.packet = _
    have hcount : (h.log.items.drop (lap + first)).length = n := by
      rw [List.length_drop]
      omega
    rw [Unacked.insert_eq_append habove, List.map_append, ht.packets_eq, items_send,
      List.drop_append_of_le_length hfirst, numberedFrom_append, hcount, numberedFrom, ← hnext]
    rfl
  · rw [hmore]
    exact fun i hi => (ht.confirmed i hi).append more

/-- **With nothing in flight a new lap can be begun** where the old one ends. -/
lemma lap_succ (ht : Trails lap first h) (hlength : h.log.items.length = lap + 4294967296)
    (hempty : h.sender.inFlight = []) : Trails (lap + 4294967296) 0 h := by
  have hlap := ht.lap_eq
  have hend := ht.length_eq hempty
  refine ⟨by omega, ht.next_eq, by omega, by omega, ?_, fun i hi => ht.confirmed i (by omega)⟩
  rw [hempty, Nat.add_zero, ← hlength, List.drop_length]
  rfl

/-- **An acknowledgement** moves the first packet in flight behind the number it names. -/
lemma acknowledge (ht : Trails lap first h) (number : UInt32) :
    Trails lap (min (max first (number.toNat + 1)) (h.log.items.length - lap))
      (h.acknowledge number) := by
  have hfirst := ht.first_le
  have hlength := ht.length_le
  refine ⟨ht.lap_eq, ?_, ?_, ?_, ?_, ?_⟩
  · rw [items_acknowledge]
    exact ht.next_eq
  · rw [items_acknowledge]
    omega
  · rw [items_acknowledge]
    exact hlength
  · have hfilter : (h.acknowledge number).sender.inFlight.map Unacked.packet
        = (h.sender.inFlight.map Unacked.packet).filter (number < ·.seq) := by
      rw [List.filter_map]
      rfl
    have hmax : first + (number.toNat + 1 - first) = max first (number.toNat + 1) := by omega
    rw [hfilter, ht.packets_eq, filter_numberedFrom (by rw [List.length_drop]; omega),
      drop_numberedFrom, List.drop_drop, items_acknowledge, Nat.add_assoc, hmax]
    rcases Nat.le_total (max first (number.toNat + 1)) (h.log.items.length - lap) with hle | hle
    · rw [Nat.min_eq_left hle]
    · -- a number beyond all that were sent leaves nothing in flight
      have hbehind : h.log.items.drop (lap + max first (number.toNat + 1)) = [] :=
        List.drop_of_length_le (by omega)
      have hall : h.log.items.drop (lap + (h.log.items.length - lap)) = [] :=
        List.drop_of_length_le (by omega)
      rw [Nat.min_eq_right hle, hbehind, hall]
      rfl
  · intro i hi
    by_cases hold : i < lap + first
    · exact (ht.confirmed i hold).append [.acknowledged number]
    · -- what was in flight has its place in the lap for a number
      obtain ⟨j, rfl⟩ := Nat.exists_eq_add_of_le (show lap ≤ i by omega)
      refine ⟨h.log, number, [], rfl, by omega, ?_⟩
      rw [ofNat_lap ht.lap_eq, UInt32.le_iff_toNat_le, toNat_ofNat_of_lt (by omega)]
      omega

lemma scan (ht : Trails lap first h) (takes : Log → Bool) (time : Int) :
    Trails lap first (h.scan settings takes time) := by
  obtain ⟨more, hmore, _⟩ := log_scan settings takes time h
  refine ⟨ht.lap_eq, ?_, ?_, ?_, ?_, ?_⟩
  · rw [items_scan]
    exact ht.next_eq
  · rw [items_scan]
    exact ht.first_le
  · rw [items_scan]
    exact ht.length_le
  · rw [items_scan, ← ht.packets_eq]
    exact Sender.map_packet_scan settings time h.sender
  · rw [hmore]
    exact fun i hi => (ht.confirmed i hi).append more

lemma stop (ht : Trails lap first h) : Trails lap first h.stop := by
  refine ⟨ht.lap_eq, ?_, ?_, ?_, ?_, fun i hi => (ht.confirmed i hi).append [.stopped]⟩
  · rw [items_stop]
    exact ht.next_eq
  · rw [items_stop]
    exact ht.first_le
  · rw [items_stop]
    exact ht.length_le
  · rw [items_stop]
    exact ht.packets_eq

end Trails

/-- As long as laps are kept apart, what is in flight trails behind what was sent. -/
lemma Reachable.trails (hr : Reachable settings h) (hlaps : LapsApart settings h) :
    ∃ lap first, Trails lap first h := by
  induction hr with
  | start hw => exact ⟨0, 0, .start hw⟩
  | @step g g' hg hs ih =>
      obtain ⟨lap, first, ht⟩ := ih (hlaps.before (.single hs))
      cases hs with
      | send takes time payload flags _ hroom _ =>
          rcases Nat.lt_or_eq_of_le ht.length_le with hlength | hlength
          · exact ⟨lap, first, ht.send hlength takes time payload flags⟩
          · -- the lap is over, and the next number is zero
            have hnext : g.sender.next = 0 := by
              rw [ht.next_eq, hlength, ofNat_lap ht.lap_eq]
              rfl
            have hne : g.log.items ≠ [] := List.ne_nil_of_length_pos (by omega)
            have hempty := hlaps g takes time payload flags hg hroom .refl hne hnext
            exact ⟨lap + 4294967296, 0,
              (ht.lap_succ hlength hempty).send (by omega) takes time payload flags⟩
      | acknowledge number => exact ⟨lap, _, ht.acknowledge number⟩
      | scan takes time => exact ⟨lap, first, ht.scan takes time⟩
      | stop => exact ⟨lap, first, ht.stop⟩

/-! ## Where laps are kept apart -/

/-- **In the first lap** there is no other to keep apart from. -/
theorem lapsApart_of_length_le (hlength : h.log.items.length ≤ 4294967296) :
    LapsApart settings h := by
  intro g takes time payload flags hg _ hl hne hnext
  have hsent := hl.length_items_le
  rw [items_send, List.length_append, List.length_singleton] at hsent
  have hpos := List.length_pos_iff.2 hne
  have hzero := congrArg UInt32.toNat (hg.drawn.draws.next_eq.symm.trans hnext)
  rw [toNat_ofNat_of_lt (by omega), UInt32.toNat_zero] at hzero
  omega

/-- What a window of one packet holds: nothing, or the packet that was sent last. -/
inductive Single (w : Sender) : Prop
  | empty (inFlight_eq : w.inFlight = []) (base_eq : w.base = w.next)
  | held (r : Unacked) (inFlight_eq : w.inFlight = [r]) (seq_eq : r.seq = w.base)
      (next_eq : w.next = w.base + 1)

namespace Single

variable {w : Sender}

/-- It has room only when it holds nothing. -/
lemma eq_nil_of_hasRoom (hs : Single w) (hwindow : settings.window = 1)
    (hroom : w.hasRoom settings = true) : w.inFlight = [] ∧ w.base = w.next := by
  cases hs with
  | empty hempty hbase => exact ⟨hempty, hbase⟩
  | held r _ _ hnext =>
      -- one number is taken, and that is all of the window
      rw [Sender.hasRoom, hwindow, hnext, decide_eq_true_eq, UInt32.lt_iff_toNat_lt,
        UInt32.toNat_sub, UInt32.toNat_add, UInt32.toNat_one] at hroom
      have hbase := w.base.toNat_lt
      omega

lemma send (hempty : w.inFlight = []) (hbase : w.base = w.next) (time : Int) (payload : Bytes)
    (flags : Flags) : Single (w.send time payload flags).1 := by
  refine .held ⟨w.packet payload flags, time, 0, false⟩ ?_ hbase.symm ?_
  · show Unacked.insert _ w.inFlight = _
    rw [hempty]
    rfl
  · show w.next + 1 = w.base + 1
    rw [hbase]

lemma acknowledge (hs : Single w) (number : UInt32) : Single (w.acknowledge number) := by
  cases hs with
  | empty hempty hbase =>
      refine .empty ?_ ?_
      · show w.inFlight.filter _ = []
        rw [hempty, List.filter_nil]
      · show (if number < w.base then w.base else if number < w.next then number + 1 else w.next)
          = w.next
        rw [hbase]
        split_ifs
        all_goals rfl
  | held r hheld hseq hnext =>
      by_cases hbelow : number < w.base
      · refine .held r ?_ ?_ ?_
        · show w.inFlight.filter _ = [r]
          rw [hheld, List.filter_cons_of_pos (by rw [hseq]; exact decide_eq_true hbelow),
            List.filter_nil]
        · show r.seq = if number < w.base then w.base else _
          rw [if_pos hbelow, hseq]
        · show w.next = (if number < w.base then w.base else _) + 1
          rw [if_pos hbelow, hnext]
      · refine .empty ?_ ?_
        · show w.inFlight.filter _ = []
          rw [hheld, List.filter_cons_of_neg (by rw [hseq, decide_eq_true_eq]; exact hbelow),
            List.filter_nil]
        · show (if number < w.base then w.base else if number < w.next then number + 1 else w.next)
            = w.next
          rw [if_neg hbelow]
          split_ifs with hinside
          · -- the base's own number is the only one below the next
            rw [hnext, UInt32.lt_iff_toNat_lt, UInt32.toNat_add, UInt32.toNat_one] at hinside
            rw [UInt32.lt_iff_toNat_lt] at hbelow
            rw [hnext, UInt32.toNat_inj.1 (show number.toNat = w.base.toNat by omega)]
          · rfl

lemma scan (hs : Single w) (time : Int) : Single (w.scan settings time).1 := by
  cases hs with
  | empty hempty hbase =>
      refine .empty ?_ hbase
      rw [Sender.scan, hempty]
      rfl
  | held r hheld hseq hnext =>
      refine .held (r.scan settings time).1 ?_ ((r.seq_scan settings time).trans hseq) hnext
      rw [Sender.scan, hheld]
      rfl

lemma stop (hs : Single w) : Single w.stop := by
  cases hs with
  | empty hempty hbase => exact .empty hempty hbase
  | held r hheld hseq hnext => exact .held r hheld hseq hnext

end Single

lemma Reachable.single (hr : Reachable settings h) (hwindow : settings.window = 1) :
    Single h.sender := by
  induction hr with
  | start hw =>
      rw [Sender.eq_of_create hw]
      exact .empty rfl rfl
  | step _ hs ih =>
      cases hs with
      | send takes time payload flags _ hroom _ =>
          obtain ⟨hempty, hbase⟩ := ih.eq_nil_of_hasRoom hwindow hroom
          exact .send hempty hbase time payload flags
      | acknowledge number => exact ih.acknowledge number
      | scan takes time => exact ih.scan time
      | stop => exact ih.stop

/-- **With a window of one packet** laps are kept apart however many packets are sent. -/
theorem lapsApart_of_window_one (hwindow : settings.window = 1) : LapsApart settings h :=
  fun _ _ _ _ _ hg hroom _ _ _ => ((hg.single hwindow).eq_nil_of_hasRoom hwindow hroom).1

/-- However many packets there are, they can be sent and acknowledged one by one. -/
lemma exists_acknowledged (settings : Settings) (hwindow : settings.window ≠ 0) (n : Nat) :
    ∃ h : History, Reachable settings h ∧ h.log.items.length = n ∧
      h.sender = { base := UInt32.ofNat n, next := UInt32.ofNat n, packetsSent := n } := by
  induction n with
  | zero => exact ⟨⟨{}, []⟩, .start (if_neg hwindow), rfl, rfl⟩
  | succ n ih =>
      obtain ⟨h, hr, hlength, hsender⟩ := ih
      have hroom : h.sender.hasRoom settings = true := by
        rw [hsender, Sender.hasRoom, UInt32.sub_self]
        exact decide_eq_true (UInt32.pos_iff_ne_zero.2 hwindow)
      have hrunning : h.sender.running = true := by rw [hsender]
      have hfits : Sender.refusal? settings [] = none := if_neg (Nat.not_lt_zero _)
      refine ⟨(h.send (fun _ => true) 0 [] Flags.data).acknowledge (UInt32.ofNat n),
        (hr.step (.send _ 0 [] Flags.data hrunning hroom hfits)).step (.acknowledge _), ?_, ?_⟩
      · rw [items_acknowledge, items_send, List.length_append, hlength]
        rfl
      · have hsent : (h.send (fun _ => true) 0 [] Flags.data).sender = {
            base := UInt32.ofNat n, next := UInt32.ofNat n + 1, packetsSent := n + 1
            inFlight := [⟨⟨UInt32.ofNat n, 0, Flags.data, []⟩, 0, 0, false⟩] } := by
          show (h.sender.send 0 [] Flags.data).1 = _
          rw [hsender]
          rfl
        show (h.send (fun _ => true) 0 [] Flags.data).sender.acknowledge (UInt32.ofNat n) = _
        rw [hsent, Sender.acknowledge, if_neg (UInt32.lt_irrefl _), ite_self,
          List.filter_cons_of_neg (by rw [decide_eq_true_eq]; exact UInt32.lt_irrefl _),
          UInt32.ofNat_add]
        rfl

/-- Such histories go on beyond the last number. -/
theorem exists_lapsApart_beyond : ∃ h : History, Reachable { window := 1 } h ∧
    LapsApart { window := 1 } h ∧ 4294967296 < h.log.items.length := by
  obtain ⟨h, hr, hlength, _⟩ := exists_acknowledged { window := 1 } (by decide) 4294967297
  exact ⟨h, hr, lapsApart_of_window_one rfl, by omega⟩

/-! ## As long as laps are kept apart -/

/-- Of records whose numbers count on from `k`, those above the one with index `j` are those behind
it. -/
lemma filter_eq_drop {records : List Unacked} {n j : Nat}
    (hseq : records.map (·.seq.toNat) = List.range' k n) {number : UInt32}
    (hnumber : number.toNat + 1 = k + j) :
    records.filter (fun r => decide (number < r.seq)) = records.drop j := by
  induction records generalizing k n j with
  | nil => rw [List.filter_nil, List.drop_nil]
  | cons r records ih =>
      cases n with
      | zero => cases hseq
      | succ n =>
          rw [List.map_cons, List.range'_succ, List.cons.injEq] at hseq
          obtain ⟨hr, hrest⟩ := hseq
          cases j with
          | zero =>
              -- the head is above the number, and so are all behind it
              rw [List.drop_zero, List.filter_eq_self]
              intro x hx
              have hmem : x.seq.toNat ∈ (r :: records).map (·.seq.toNat) :=
                List.mem_map_of_mem hx
              rw [List.map_cons, hr, hrest, ← List.range'_succ, List.mem_range'_1] at hmem
              exact decide_eq_true (UInt32.lt_iff_toNat_lt.2 (by omega))
          | succ j =>
              have hnumber' : number.toNat + 1 = k + 1 + j := by omega
              rw [List.filter_cons_of_neg, List.drop_succ_cons, ih hrest hnumber']
              rw [decide_eq_true_eq, UInt32.lt_iff_toNat_lt]
              omega

/-- **As long as laps are kept apart**, what is in flight is in the order of sending, an
acknowledgement of a packet in flight takes out that packet and those before it and none behind it,
and there is nothing in flight only when the packet that was sent last was acknowledged after it was
sent. -/
theorem acknowledge_in_order (hr : Reachable settings h) (hlaps : LapsApart settings h) :
    (∃ k, h.sender.inFlight.map Unacked.packet = (numbered h.log.items).drop k) ∧
    (∀ (j : Nat) (r : Unacked), h.sender.inFlight[j]? = some r →
      (h.acknowledge r.seq).sender.inFlight = h.sender.inFlight.drop (j + 1)) ∧
    (h.log.items ≠ [] → h.sender.allAcked = true →
      h.log.Confirms (h.log.items.length - 1)) := by
  obtain ⟨lap, first, ht⟩ := hr.trails hlaps
  have hseq := ht.map_seq_eq
  refine ⟨⟨_, ht.packets_eq_drop⟩, fun j r hj => ?_, fun hne hacked => ?_⟩
  · have hnumber := congrArg (·[j]?) hseq
    simp only [List.getElem?_map, hj, Option.map_some] at hnumber
    obtain ⟨hlt, heq⟩ := List.getElem?_eq_some_iff.1 hnumber.symm
    rw [List.getElem_range', Nat.one_mul] at heq
    exact filter_eq_drop hseq (by omega)
  · -- with nothing in flight, all that was sent was acknowledged
    have hall := ht.length_eq (List.isEmpty_iff.1 hacked)
    have hpos := List.length_pos_iff.2 hne
    exact ht.confirmed _ (by omega)

/-- Three packets, the first of which is sent again. -/
def threeSent : History :=
  (((((⟨{}, []⟩ : History).send (fun _ => true) 0 [1] Flags.data).send (fun _ => false) 3 [2]
    Flags.data).send (fun _ => true) 7 [3] Flags.data).scan {} (fun _ => true) 502)

/-- The second of them is acknowledged, and the third stays. -/
theorem acknowledge_in_order_middle :
    Reachable {} threeSent ∧ LapsApart {} threeSent ∧
    threeSent.sender.retransmissions = 1 ∧
    (threeSent.sender.inFlight[1]?).map Unacked.seq = some 1 ∧
    (threeSent.acknowledge 1).sender.inFlight = threeSent.sender.inFlight.drop 2 ∧
    threeSent.sender.inFlight.drop 2 ≠ [] := by
  have hr : Reachable {} threeSent :=
    ((((Reachable.start rfl).step (.send _ 0 _ _ rfl (by decide) rfl)).step
      (.send _ 3 _ _ rfl (by decide) rfl)).step (.send _ 7 _ _ rfl (by decide) rfl)).step
        (.scan _ 502 rfl)
  have hlaps : LapsApart {} threeSent := lapsApart_of_length_le (by decide)
  have hsecond : threeSent.sender.inFlight[1]? = some ⟨⟨1, 0, Flags.data, [2]⟩, 3, 0, false⟩ := by
    decide
  exact ⟨hr, hlaps, by decide, by rw [hsecond]; rfl,
    (acknowledge_in_order hr hlaps).2.1 1 _ hsecond, by decide⟩

/-! ## The packet after the last number -/

/-- **Where laps are not kept apart a packet is lost.**  When number zero is given out again while
packets are in flight, the acknowledgement of one of them takes out everything, the packet that was
sent after it included. -/
theorem undrained_packet_lost (hr : Reachable settings h) (hlaps : LapsApart settings h)
    (hnext : h.sender.next = 0) (hflight : h.sender.inFlight ≠ []) (takes : Log → Bool)
    (time : Int) (payload : Bytes) (flags : Flags) :
    ∃ r ∈ h.sender.inFlight, r ∈ (h.send takes time payload flags).sender.inFlight ∧
      ((h.send takes time payload flags).acknowledge r.seq).sender.allAcked = true := by
  obtain ⟨lap, first, ht⟩ := hr.trails hlaps
  have hseq := ht.map_seq_eq
  have hcount : h.sender.inFlight.length = h.log.items.length - (lap + first) := by
    rw [← List.length_map (·.seq.toNat), hseq, List.length_range']
  -- the lap is at its end, so its last number is in flight
  have hround : h.log.items.length % 4294967296 = 0 := by
    rw [← UInt32.toNat_ofNat', ← ht.next_eq, hnext]
    rfl
  have hpos := List.length_pos_iff.2 hflight
  have hfirst := ht.first_le
  have hlength := ht.length_le
  have hlap := ht.lap_eq
  have hlast : 4294967295 ∈ h.sender.inFlight.map (·.seq.toNat) := by
    rw [hseq, List.mem_range'_1]
    omega
  obtain ⟨r, hr, hmax⟩ := List.mem_map.1 hlast
  refine ⟨r, hr, Unacked.mem_insert_of_mem _ hr, List.isEmpty_iff.2 (List.filter_eq_nil_iff.2 ?_)⟩
  intro x _
  rw [decide_eq_true_eq, UInt32.lt_iff_toNat_lt, hmax]
  have hx := x.seq.toNat_lt
  omega

/-- **The packet after the last number is lost.**  There is a history in which two packets are in
flight, one sent after the other: the first has the last number and the second is number zero again.
The acknowledgement of the first takes out the second too, and everything counts as acknowledged. -/
theorem wrapped_packet_lost :
    ∃ (h : History) (items : List Item) (first second : Unacked),
      Reachable {} h ∧ h.log.items = items ++ [([1], Flags.data), ([2], Flags.data)] ∧
      items.length = 4294967295 ∧
      first ∈ h.sender.inFlight ∧ first.packet = ⟨4294967295, 0, Flags.data, [1]⟩ ∧
      second ∈ h.sender.inFlight ∧ second.packet = ⟨0, 0, Flags.data, [2]⟩ ∧
      second ∉ (h.acknowledge first.seq).sender.inFlight ∧
      (h.acknowledge first.seq).sender.allAcked = true := by
  obtain ⟨h, hr, hlength, hsender⟩ := exists_acknowledged {} (by decide) 4294967295
  have hroom : h.sender.hasRoom {} = true := by
    rw [hsender]
    decide
  have hfirst : (h.send (fun _ => true) 0 [1] Flags.data).sender = {
      base := 4294967295, next := 0, packetsSent := 4294967296
      inFlight := [⟨⟨4294967295, 0, Flags.data, [1]⟩, 0, 0, false⟩] } := by
    show (h.sender.send 0 [1] Flags.data).1 = _
    rw [hsender]
    rfl
  have hroom' : (h.send (fun _ => true) 0 [1] Flags.data).sender.hasRoom {} = true := by
    rw [hfirst]
    decide
  let h' := (h.send (fun _ => true) 0 [1] Flags.data).send (fun _ => true) 0 [2] Flags.data
  have hboth : h'.sender.inFlight = [⟨⟨0, 0, Flags.data, [2]⟩, 0, 0, false⟩,
      ⟨⟨4294967295, 0, Flags.data, [1]⟩, 0, 0, false⟩] := by
    show ((h.send (fun _ => true) 0 [1] Flags.data).sender.send 0 [2] Flags.data).1.inFlight = _
    rw [hfirst]
    decide
  have hnone : (h'.acknowledge 4294967295).sender.inFlight = [] := by
    show h'.sender.inFlight.filter _ = []
    rw [hboth]
    decide
  refine ⟨h', h.log.items, _, _,
    (hr.step (.send _ 0 [1] Flags.data (by rw [hsender]) hroom rfl)).step
      (.send _ 0 [2] Flags.data (by rw [hfirst]) hroom' rfl), ?_, hlength,
    hboth ▸ List.mem_cons_of_mem _ (List.mem_singleton_self _), rfl,
    hboth ▸ List.mem_cons_self, rfl, ?_, ?_⟩
  · rw [items_send, items_send, List.append_assoc]
    rfl
  · exact hnone ▸ List.not_mem_nil
  · exact List.isEmpty_iff.2 hnone

end History

end ReliableTransfer
