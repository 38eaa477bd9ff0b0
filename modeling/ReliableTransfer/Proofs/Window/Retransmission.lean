import Mathlib.Data.List.Chain
import ReliableTransfer.Proofs.Window.Calls
import ReliableTransfer.Proofs.Window.Invariant

/-!
# The discipline of retransmission

How often, when and with what the link is called for one number, over a whole history.

* `Unacked.Told` — the log tells of a packet in flight what its record says.
* `Log.Disciplined` — the calls for one number are few enough and far enough apart.
* `History.Accounted` — both hold throughout; `History.Reachable.accounted` says that they do.
* `History.Later.callsFor_eq` — a number below the base is never sent again.
* `History.Reachable.settles_iff` — the acknowledgements in the log say where the base is.
* **`History.retransmission_discipline`** — the whole, spelled out.

Whether the link took a packet makes no difference to any of this, and neither does the clock:
that a packet is sent again only after its timeout is seen from the times of the calls alone.
-/

namespace ReliableTransfer

/-- The calls for one number are few enough and far enough apart, and it is given up only once. -/
structure Log.Disciplined (settings : Settings) (log : Log) (seq : UInt32) : Prop where
  length_le : (log.callsFor seq).length ≤ 1 + (max 0 settings.maxRetries).toNat
  chain : (log.callsFor seq).IsChain fun a b => settings.timeout < b.1 - a.1
  warnings_le : (log.warningsFor seq).length ≤ 1

/-- The log tells of a packet what its record says: how often it was sent, when it was sent last,
and whether it was given up. -/
structure Unacked.Told (log : Log) (r : Unacked) : Prop where
  length_eq : (log.callsFor r.seq).length = r.retries + 1
  last_eq : (log.callsFor r.seq).getLast?.map Prod.fst = some r.lastSent
  warnings_eq : (log.warningsFor r.seq).length = r.reported.toNat

/-- Only what the log says about the number matters. -/
lemma Log.Disciplined.of_eq {settings : Settings} {log log' : Log} {seq : UInt32}
    (h : Disciplined settings log seq) (hcalls : log'.callsFor seq = log.callsFor seq)
    (hwarnings : log'.warningsFor seq = log.warningsFor seq) : Disciplined settings log' seq :=
  ⟨hcalls ▸ h.length_le, hcalls ▸ h.chain, hwarnings ▸ h.warnings_le⟩

namespace Unacked

variable {settings : Settings} {log log' : Log} {r : Unacked}

lemma Told.of_eq (h : Told log r) (hcalls : log'.callsFor r.seq = log.callsFor r.seq)
    (hwarnings : log'.warningsFor r.seq = log.warningsFor r.seq) : Told log' r :=
  ⟨hcalls ▸ h.length_eq, hcalls ▸ h.last_eq, hwarnings ▸ h.warnings_eq⟩

/-- **A scan of one packet**: what it adds to the log is what it changes in the record. -/
lemma Told.scan (ht : Told log r) (hd : Log.Disciplined settings log r.seq) {time : Int}
    (hcalls : log'.callsFor r.seq
      = log.callsFor r.seq ++ ((r.scan settings time).2.filterMap Action.packet?).map (time, ·))
    (hwarnings : log'.warningsFor r.seq
      = log.warningsFor r.seq ++ (r.scan settings time).2.filterMap Action.warning?) :
    Told log' (r.scan settings time).1 ∧ Log.Disciplined settings log' r.seq := by
  rcases scan_cases settings time r with hs | ⟨_, hreported, hs⟩ | ⟨hdue, hleft, hs⟩
  · rw [hs] at hcalls hwarnings ⊢
    have hcalls' := hcalls.trans (List.append_nil _)
    have hwarnings' := hwarnings.trans (List.append_nil _)
    exact ⟨ht.of_eq hcalls' hwarnings', hd.of_eq hcalls' hwarnings'⟩
  · -- no call is added, and the first warning
    rw [hs] at hcalls hwarnings ⊢
    have hcalls' := hcalls.trans (List.append_nil _)
    have hwarnings' : (log'.warningsFor r.seq).length = 1 := by
      rw [hwarnings, List.length_append, ht.warnings_eq, hreported]
      rfl
    exact ⟨⟨hcalls'.symm ▸ ht.length_eq, hcalls'.symm ▸ ht.last_eq, hwarnings'⟩,
      ⟨hcalls'.symm ▸ hd.length_le, hcalls'.symm ▸ hd.chain, Nat.le_of_eq hwarnings'⟩⟩
  · -- one call is added, late enough after the last, and no warning
    rw [hs] at hcalls hwarnings ⊢
    have hcalls' : log'.callsFor r.seq = log.callsFor r.seq ++ [(time, r.packet)] := hcalls
    have hwarnings' := hwarnings.trans (List.append_nil _)
    have hlength : (log'.callsFor r.seq).length = r.retries + 1 + 1 := by
      rw [hcalls', List.length_append, ht.length_eq]
      rfl
    refine ⟨⟨hlength, ?_, hwarnings'.symm ▸ ht.warnings_eq⟩,
      ⟨?_, ?_, hwarnings'.symm ▸ hd.warnings_le⟩⟩
    · show (log'.callsFor r.seq).getLast?.map Prod.fst = some time
      rw [hcalls', List.getLast?_append]
      rfl
    · omega
    · rw [hcalls', List.isChain_append]
      refine ⟨hd.chain, List.isChain_singleton _, ?_⟩
      intro a ha b hb
      have hlast : some a.1 = some r.lastSent := by
        rw [← ht.last_eq, Option.mem_def.1 ha]
        rfl
      rw [List.head?_cons, Option.mem_some_iff] at hb
      rw [Option.some.injEq] at hlast
      rw [← hb, hlast]
      exact hdue

end Unacked

namespace History

variable {settings : Settings} {h h' : History}

/-! ## What each turn adds for one number -/

section Turns

variable (takes : Log → Bool) (time : Int) (h : History) (seq : UInt32)

lemma callsFor_send (payload : Bytes) (flags : Flags) :
    (h.send takes time payload flags).log.callsFor seq
      = h.log.callsFor seq
        ++ if h.sender.next = seq then [(time, h.sender.packet payload flags)] else [] := by
  obtain ⟨more, hmore, _, hcalls, _⟩ := log_send takes time payload flags h
  rw [hmore, Log.callsFor_append]
  congr 1
  rw [Log.callsFor, hcalls]
  split_ifs with hseq
  · exact List.filter_cons_of_pos (decide_eq_true hseq)
  · exact List.filter_cons_of_neg (by rw [decide_eq_true_eq]; exact hseq)

lemma warningsFor_send (payload : Bytes) (flags : Flags) :
    (h.send takes time payload flags).log.warningsFor seq = h.log.warningsFor seq := by
  obtain ⟨more, hmore, _, _, hwarnings, _⟩ := log_send takes time payload flags h
  rw [hmore, Log.warningsFor, Log.warnings_append, hwarnings, List.append_nil]
  rfl

lemma callsFor_scan :
    (h.scan settings takes time).log.callsFor seq
      = h.log.callsFor seq
        ++ (((h.sender.scan settings time).2.filter (·.seq = seq)).filterMap
            Action.packet?).map (time, ·) := by
  obtain ⟨more, hmore, _, hcalls, _⟩ := log_scan settings takes time h
  rw [hmore, Log.callsFor_append]
  congr 1
  rw [Log.callsFor, hcalls, List.filter_map, ← Action.filter_filterMap Action.seq_of_packet?]
  rfl

lemma warningsFor_scan :
    (h.scan settings takes time).log.warningsFor seq
      = h.log.warningsFor seq
        ++ ((h.sender.scan settings time).2.filter (·.seq = seq)).filterMap Action.warning? := by
  obtain ⟨more, hmore, _, _, hwarnings, _⟩ := log_scan settings takes time h
  rw [hmore, Log.warningsFor_append]
  congr 1
  rw [Log.warningsFor, hwarnings, ← Action.filter_filterMap Action.seq_of_warning?]

/-- A scan says nothing about a number that is not in flight. -/
lemma scan_of_notMem (hseq : seq ∉ h.sender.numbers) :
    (h.scan settings takes time).log.callsFor seq = h.log.callsFor seq ∧
      (h.scan settings takes time).log.warningsFor seq = h.log.warningsFor seq := by
  have hfilter := Sender.filter_scan_of_notMem settings time hseq
  rw [callsFor_scan, warningsFor_scan, hfilter]
  exact ⟨List.append_nil _, List.append_nil _⟩

end Turns

/-- An order from outside says nothing about any number. -/
lemma order_for (log : Log) {d : Deed} (hd : d.isOrder = true) (seq : UInt32) :
    Log.callsFor (log ++ [d]) seq = log.callsFor seq ∧
      Log.warningsFor (log ++ [d]) seq = log.warningsFor seq := by
  obtain ⟨_, hcalls, hwarnings⟩ := Log.append_order log hd
  rw [Log.callsFor, Log.warningsFor, hcalls, hwarnings]
  exact ⟨rfl, rfl⟩

/-! ## The log and the records -/

/-- **The log and the records in flight tell the same story.** -/
structure Accounted (settings : Settings) (h : History) : Prop where
  told : ∀ r ∈ h.sender.inFlight, r.Told h.log
  disciplined : ∀ seq, h.log.Disciplined settings seq
  unsent : ∀ seq : UInt32, h.log.items.length ≤ seq.toNat →
    h.log.callsFor seq = [] ∧ h.log.warningsFor seq = []

namespace Accounted

lemma start {w : Sender} (hw : Sender.create settings = .ok w) :
    Accounted settings ⟨w, []⟩ := by
  rw [Sender.eq_of_create hw]
  exact ⟨fun r hr => absurd hr List.not_mem_nil, fun seq => ⟨Nat.zero_le _, .nil, Nat.zero_le _⟩,
    fun seq _ => ⟨rfl, rfl⟩⟩

/-- An order may take packets out of flight, but adds nothing to the account. -/
lemma order (ha : Accounted settings h) {d : Deed} (hd : d.isOrder = true) {w : Sender}
    (hinFlight : w.inFlight ⊆ h.sender.inFlight) : Accounted settings ⟨w, h.log ++ [d]⟩ := by
  have hitems := (Log.append_order h.log hd).1
  have hfor := order_for h.log hd
  refine ⟨?_, ?_, ?_⟩
  · intro r hr
    exact (ha.told r (hinFlight hr)).of_eq (hfor r.seq).1 (hfor r.seq).2
  · intro seq
    exact (ha.disciplined seq).of_eq (hfor seq).1 (hfor seq).2
  · intro seq hseq
    rw [(hfor seq).1, (hfor seq).2]
    exact ha.unsent seq (hitems ▸ hseq)

/-- A send makes the first call for its number. -/
lemma send (ha : Accounted settings h) (hi : InWindow settings h) (takes : Log → Bool)
    (time : Int) (payload : Bytes) (flags : Flags) :
    Accounted settings (h.send takes time payload flags) := by
  have hnext := hi.carries.next_eq
  -- nothing was said of the new number so far
  obtain ⟨hnone, hnone'⟩ := ha.unsent h.sender.next (Nat.le_of_eq hnext.symm)
  have hnew : (h.send takes time payload flags).log.callsFor h.sender.next
        = [(time, h.sender.packet payload flags)] ∧
      (h.send takes time payload flags).log.warningsFor h.sender.next = [] := by
    rw [callsFor_send, warningsFor_send, hnone, hnone', if_pos rfl]
    exact ⟨rfl, rfl⟩
  -- and nothing new is said of the others
  have hold : ∀ seq, h.sender.next ≠ seq →
      (h.send takes time payload flags).log.callsFor seq = h.log.callsFor seq ∧
      (h.send takes time payload flags).log.warningsFor seq = h.log.warningsFor seq := by
    intro seq hseq
    rw [callsFor_send, warningsFor_send, if_neg hseq]
    exact ⟨List.append_nil _, rfl⟩
  refine ⟨?_, ?_, ?_⟩
  · intro r hr
    rcases Unacked.mem_of_mem_insert hr with rfl | hr
    · exact ⟨congrArg List.length hnew.1, congrArg (·.getLast?.map Prod.fst) hnew.1,
        congrArg List.length hnew.2⟩
    · have hlt := (hi.carries.mem_numbers.1 (List.mem_map_of_mem hr)).2
      obtain ⟨hcalls', hwarnings'⟩ := hold r.seq fun hseq => by rw [← hseq] at hlt; omega
      exact (ha.told r hr).of_eq hcalls' hwarnings'
  · intro seq
    by_cases hseq : h.sender.next = seq
    · subst hseq
      refine ⟨?_, ?_, ?_⟩
      · rw [hnew.1]
        exact Nat.le_add_right 1 _
      · rw [hnew.1]
        exact List.isChain_singleton _
      · rw [hnew.2]
        exact Nat.zero_le 1
    · exact (ha.disciplined seq).of_eq (hold seq hseq).1 (hold seq hseq).2
  · intro seq hseq
    rw [items_send, List.length_append, List.length_singleton] at hseq
    obtain ⟨hcalls', hwarnings'⟩ := hold seq fun he => by rw [← he] at hseq; omega
    rw [hcalls', hwarnings']
    exact ha.unsent seq (by omega)

/-- A scan makes at most one call for each number in flight, and none for others. -/
lemma scan (ha : Accounted settings h) (hi : InWindow settings h) (takes : Log → Bool)
    (time : Int) : Accounted settings (h.scan settings takes time) := by
  have hrecord : ∀ r ∈ h.sender.inFlight,
      (r.scan settings time).1.Told (h.scan settings takes time).log ∧
        (h.scan settings takes time).log.Disciplined settings r.seq := by
    intro r hr
    have hfilter := Sender.filter_scan_of_mem settings time hr hi.carries.nodup_numbers
    exact (ha.told r hr).scan (ha.disciplined r.seq) (by rw [callsFor_scan, hfilter])
      (by rw [warningsFor_scan, hfilter])
  refine ⟨?_, ?_, ?_⟩
  · intro x hx
    obtain ⟨r, hr, rfl⟩ := Sender.mem_scan.1 hx
    exact (hrecord r hr).1
  · intro seq
    by_cases hseq : seq ∈ h.sender.numbers
    · obtain ⟨r, hr, rfl⟩ := List.mem_map.1 hseq
      exact (hrecord r hr).2
    · obtain ⟨hcalls', hwarnings'⟩ := scan_of_notMem takes time h seq hseq
      exact (ha.disciplined seq).of_eq hcalls' hwarnings'
  · intro seq hseq
    rw [items_scan] at hseq
    have hnot : seq ∉ h.sender.numbers := by
      intro hmem
      have hlt := (hi.carries.mem_numbers.1 hmem).2
      omega
    rw [(scan_of_notMem takes time h seq hnot).1, (scan_of_notMem takes time h seq hnot).2]
    exact ha.unsent seq hseq

lemma step (ha : Accounted settings h) (hi : InWindow settings h) (hs : Step settings h h') :
    Accounted settings h' := by
  cases hs with
  | send takes time payload flags running room fits => exact ha.send hi takes time payload flags
  | acknowledge number => exact ha.order rfl (List.filter_subset_self _)
  | scan takes time running => exact ha.scan hi takes time
  | stop => exact ha.order rfl (List.Subset.refl _)

end Accounted

lemma Reachable.accounted (hr : Reachable settings h) (hlength : h.log.items.length < 4294967296) :
    Accounted settings h := by
  induction hr with
  | start hw => exact .start hw
  | step hg hs ih =>
      have hle := Later.length_items_le (.single hs)
      exact (ih (by omega)).step (hg.inWindow (by omega)) hs

/-! ## What is never sent again -/

/-- A turn says nothing about a number below the base. -/
lemma Step.callsFor_eq (hi : InWindow settings h) (hs : Step settings h h') {seq : UInt32}
    (hseq : seq.toNat < h.sender.base.toNat) : h'.log.callsFor seq = h.log.callsFor seq := by
  have hbase := hi.carries.base_le
  have hnext := hi.carries.next_eq
  cases hs with
  | send takes time payload flags =>
      have hne : h.sender.next ≠ seq := by
        rintro rfl
        omega
      rw [callsFor_send, if_neg hne, List.append_nil]
  | acknowledge number => exact (order_for h.log rfl seq).1
  | scan takes time =>
      have hnot : seq ∉ h.sender.numbers := by
        intro hmem
        have hle := (hi.carries.mem_numbers.1 hmem).1
        omega
      exact (scan_of_notMem takes time h seq hnot).1
  | stop => exact (order_for h.log rfl seq).1

/-- **A number below the base is never sent again.** -/
lemma Later.callsFor_eq (hr : Reachable settings h) (hl : Later settings h h')
    (hlength : h'.log.items.length < 4294967296) {seq : UInt32}
    (hseq : seq.toNat < h.sender.base.toNat) : h'.log.callsFor seq = h.log.callsFor seq := by
  induction hl with
  | refl => rfl
  | @tail g g' hg hs ih =>
      have hle := Later.length_items_le (.single hs)
      have hbase := Later.base_le hr hg (by omega)
      have hi := (hr.later hg).inWindow (by omega)
      rw [hs.callsFor_eq hi (by omega), ih (by omega)]

/-- **After the stop nothing is sent.** -/
lemma Later.calls_eq (hl : Later settings h h') (hstopped : h.sender.running = false) :
    h'.log.calls = h.log.calls ∧ h'.sender.running = false := by
  induction hl with
  | refl => exact ⟨rfl, hstopped⟩
  | @tail g g' _ hs ih =>
      obtain ⟨hcalls, hg⟩ := ih
      cases hs with
      | send takes time payload flags running =>
          rw [hg] at running
          cases running
      | acknowledge number => exact ⟨(Log.append_order g.log rfl).2.1.trans hcalls, hg⟩
      | scan takes time running =>
          rw [hg] at running
          cases running
      | stop => exact ⟨(Log.append_order g.log rfl).2.1.trans hcalls, rfl⟩

/-! ## Where the base is -/

/-- An acknowledgement of a number that was sent moves the base past it. -/
lemma lt_base_acknowledge (hi : InWindow settings h) {seq number : UInt32}
    (hseq : seq.toNat < h.log.items.length) (hle : seq ≤ number) :
    seq.toNat < (h.acknowledge number).sender.base.toNat := by
  have hbase := hi.carries.toNat_base_acknowledge number
  rw [UInt32.le_iff_toNat_le] at hle
  show _ < (h.sender.acknowledge number).base.toNat
  omega

/-- A number that was acknowledged after it was sent is below the base from then on. -/
lemma Reachable.lt_base (hr : Reachable settings h) (hlength : h.log.items.length < 4294967296)
    {seq : UInt32} (hsettles : h.log.Settles seq) : seq.toNat < h.sender.base.toNat := by
  obtain ⟨pre, number, post, hlog, hseq, hle⟩ := hsettles
  obtain ⟨h₀, h₁, hr₀, rfl, hl, ⟨_, heq, rfl⟩ | ⟨heq, _⟩⟩ := hr.split rfl hlog
  · cases heq
    have hitems := hl.length_items_le
    rw [items_acknowledge] at hitems
    have hlt := lt_base_acknowledge (hr₀.inWindow (by omega)) hseq hle
    have hbase := Later.base_le (hr₀.step (.acknowledge number)) hl hlength
    omega
  · cases heq

/-- **The base** lies above a number exactly if the number was acknowledged after it was sent. -/
lemma Reachable.settles_iff (hr : Reachable settings h)
    (hlength : h.log.items.length < 4294967296) {seq : UInt32} :
    h.log.Settles seq ↔ seq.toNat < h.sender.base.toNat := by
  refine ⟨hr.lt_base hlength, ?_⟩
  induction hr with
  | start hw =>
      intro hseq
      have hbase := (Sender.Carries.create hw).base_le
      exact absurd (Nat.lt_of_lt_of_le hseq hbase) (Nat.not_lt_zero _)
  | @step g g' hg hs ih =>
      intro hseq
      have hitems := Later.length_items_le (.single hs)
      have old : seq.toNat < g.sender.base.toNat → g'.log.Settles seq := by
        intro hbase
        obtain ⟨more, hmore⟩ := Later.log_append (.single hs)
        obtain ⟨pre, number, post, hlog, hpre⟩ := ih (by omega) hbase
        exact ⟨pre, number, post ++ more, by rw [hmore, hlog, List.append_assoc]; rfl, hpre⟩
      cases hs with
      | send => exact old hseq
      | acknowledge number =>
          by_cases hbase : seq.toNat < g.sender.base.toNat
          · exact old hbase
          · -- it is this acknowledgement that covers the number
            have hmoved : (g.acknowledge number).sender.base.toNat = _ :=
              (hg.inWindow (by omega)).carries.toNat_base_acknowledge number
            exact ⟨g.log, number, [], rfl, by omega, UInt32.le_iff_toNat_le.2 (by omega)⟩
      | scan => exact old hseq
      | stop => exact old hseq

/-! ## The whole -/

/-- **The discipline of retransmission, spelled out.**  For every number that was sent in a history
with fewer than 4294967296 items: the link is called at most once more than there are retries, each
time with the packet of the item with that index, and each time more than the timeout after the
last; it is not called after the number was acknowledged, and after a stop not at all; the number
is in flight, with its retries and its warning on record, until it is acknowledged and no longer,
however many retries it has had; it is complained about at most once; and all calls are counted
either as sent or as sent again. -/
theorem retransmission_discipline (hr : Reachable settings h)
    (hlength : h.log.items.length < 4294967296) {seq : UInt32}
    (hseq : seq.toNat < h.log.items.length) :
    (h.log.callsFor seq).length ≤ 1 + (max 0 settings.maxRetries).toNat ∧
    (∃ payload flags, h.log.items[seq.toNat]? = some (payload, flags) ∧
      ∀ c ∈ h.log.callsFor seq, c.2 = ⟨seq, 0, flags, payload⟩) ∧
    (h.log.callsFor seq).IsChain (fun a b => settings.timeout < b.1 - a.1) ∧
    (∀ (pre : Log) (number : UInt32) (post : Log), h.log = pre ++ .acknowledged number :: post →
      seq.toNat < pre.items.length → seq ≤ number → post.callsFor seq = []) ∧
    (∀ pre post : Log, h.log = pre ++ .stopped :: post → post.calls = []) ∧
    (seq ∈ h.sender.numbers ↔ ¬ h.log.Settles seq) ∧
    (∀ r ∈ h.sender.inFlight, r.seq = seq →
      (h.log.callsFor seq).length = r.retries + 1 ∧
      (h.log.warningsFor seq).length = r.reported.toNat) ∧
    (h.log.warningsFor seq).length ≤ 1 ∧
    h.log.calls.length = h.sender.packetsSent + h.sender.retransmissions := by
  have hi := hr.inWindow hlength
  have ha := hr.accounted hlength
  have hd := ha.disciplined seq
  refine ⟨hd.length_le, ?_, hd.chain, ?_, ?_, ?_, ?_, hd.warnings_le, hr.drawn.length_calls⟩
  · obtain ⟨⟨payload, flags⟩, hitem⟩ : ∃ item, h.log.items[seq.toNat]? = some item :=
      ⟨_, List.getElem?_eq_getElem hseq⟩
    refine ⟨payload, flags, hitem, ?_⟩
    intro c hc
    obtain ⟨hmem, hcseq⟩ := List.mem_filter.1 hc
    rw [decide_eq_true_eq] at hcseq
    obtain ⟨payload', flags', hitem', hpacket⟩ :=
      exists_item_of_mem_numbered hlength (hr.drawn.packet_mem c hmem)
    rw [hcseq, hitem, Option.some.injEq, Prod.mk.injEq] at hitem'
    rw [hpacket, hcseq, hitem'.1, hitem'.2]
  · intro pre number post hlog hpre hle
    obtain ⟨h₀, h₁, hr₀, rfl, hl, ⟨_, heq, rfl⟩ | ⟨heq, _⟩⟩ := hr.split rfl hlog
    · cases heq
      have hitems := hl.length_items_le
      rw [items_acknowledge] at hitems
      have hlt := lt_base_acknowledge (hr₀.inWindow (by omega)) hpre hle
      have hcalls := Later.callsFor_eq (hr₀.step (.acknowledge number)) hl hlength hlt
      rw [hlog, ← List.singleton_append, ← List.append_assoc, Log.callsFor_append] at hcalls
      exact List.append_right_eq_self.1 hcalls
    · cases heq
  · intro pre post hlog
    obtain ⟨h₀, h₁, _, rfl, hl, ⟨_, heq, _⟩ | ⟨_, rfl⟩⟩ := hr.split rfl hlog
    · cases heq
    · have hcalls := (Later.calls_eq hl rfl).1
      rw [hlog, ← List.singleton_append, ← List.append_assoc, Log.calls_append] at hcalls
      exact List.append_right_eq_self.1 hcalls
  · rw [hr.settles_iff hlength, hi.carries.mem_numbers]
    omega
  · rintro r hmem rfl
    exact ⟨(ha.told r hmem).length_eq, (ha.told r hmem).warnings_eq⟩

/-- A packet that is sent again once, given up, acknowledged by an acknowledgement of the packet
behind it, and a stop. -/
def givenUp : History :=
  (((((((⟨{}, []⟩ : History).send (fun _ => true) 0 [1] Flags.data).scan { maxRetries := 1 }
    (fun _ => false) 501).send (fun _ => true) 700 [] Flags.fin).scan { maxRetries := 1 }
      (fun _ => true) 1002).scan { maxRetries := 1 } (fun _ => true) 1003).acknowledge 1).stop

/-- Its first packet is handed to the link twice, and complained about once. -/
theorem retransmission_discipline_givenUp :
    Reachable { maxRetries := 1 } givenUp ∧ givenUp.log.items.length < 4294967296 ∧
    (0 : UInt32).toNat < givenUp.log.items.length ∧
    (givenUp.log.callsFor 0).length = 2 ∧ givenUp.log.warningsFor 0 = [0] ∧
    (givenUp.log.callsFor 0).IsChain (fun a b => 500 < b.1 - a.1) ∧
    ((0 : UInt32) ∈ givenUp.sender.numbers ↔ ¬ givenUp.log.Settles 0) ∧
    givenUp.log.calls.length = givenUp.sender.packetsSent + givenUp.sender.retransmissions := by
  have hr : Reachable { maxRetries := 1 } givenUp :=
    (((((((Reachable.start rfl).step (.send _ 0 _ _ rfl (by decide) rfl)).step
      (.scan _ 501 rfl)).step (.send _ 700 _ _ rfl (by decide) rfl)).step (.scan _ 1002 rfl)).step
        (.scan _ 1003 rfl)).step (.acknowledge 1)).step .stop
  have hlength : givenUp.log.items.length < 4294967296 := by decide
  have hseq : (0 : UInt32).toNat < givenUp.log.items.length := by decide
  obtain ⟨_, _, hchain, _, _, hflight, _, _, hcount⟩ := retransmission_discipline hr hlength hseq
  exact ⟨hr, hlength, hseq, by decide, by decide, hchain, hflight, hcount⟩

end History

end ReliableTransfer
