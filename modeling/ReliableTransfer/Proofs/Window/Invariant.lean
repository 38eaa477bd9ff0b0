import ReliableTransfer.Proofs.Window.History

/-!
# The window

At any point of any history in which the numbers do not run out, base, next number and packets in
flight fit together, the window is not exceeded, and no packet was sent again too often.

* `History.InWindow` — the invariant; `History.Reachable.inWindow` says that it is one.
* `History.Later.base_le`, `History.Later.next_le` — the window only moves forward.
* **`History.window_invariant`** — the whole, spelled out.

The invariant speaks of histories with fewer than 4294967296 items.  Acknowledgements may have
any numbers, stale ones and ones far beyond anything sent among them.
-/

namespace ReliableTransfer.History

variable {settings : Settings} {h h' : History}

/-- The sender carries what it was given, inside its window and within its retries. -/
structure InWindow (settings : Settings) (h : History) : Prop where
  carries : h.sender.Carries h.log.items
  width_le : h.sender.next.toNat - h.sender.base.toNat ≤ settings.window.toNat
  retries_le : ∀ r ∈ h.sender.inFlight, (r.retries : Int) ≤ max 0 settings.maxRetries

/-! ## Each turn keeps it -/

namespace InWindow

lemma start {w : Sender} (hw : Sender.create settings = .ok w) : InWindow settings ⟨w, []⟩ := by
  refine ⟨.create hw, ?_, ?_⟩
  · rw [Sender.eq_of_create hw]
    exact Nat.zero_le _
  · rw [Sender.eq_of_create hw]
    exact fun r hr => absurd hr List.not_mem_nil

lemma send (hi : InWindow settings h) (hlength : h.log.items.length + 1 < 4294967296)
    (room : h.sender.hasRoom settings = true) (takes : Log → Bool) (time : Int)
    (payload : Bytes) (flags : Flags) :
    InWindow settings (h.send takes time payload flags) := by
  have hnext := hi.carries.next_eq
  have hbase := hi.carries.base_le
  refine ⟨?_, ?_, ?_⟩
  · rw [items_send]
    exact hi.carries.send hlength time payload flags
  · -- the subtraction of the window test does not wrap, since the base is not above the next
    have hroom : h.sender.next.toNat - h.sender.base.toNat < settings.window.toNat := by
      rw [Sender.hasRoom, decide_eq_true_eq, UInt32.lt_iff_toNat_lt, UInt32.toNat_sub] at room
      omega
    have hnext' : (h.send takes time payload flags).sender.next.toNat
        = h.sender.next.toNat + 1 := by
      show (h.sender.next + 1).toNat = _
      rw [UInt32.toNat_add, UInt32.toNat_one]
      omega
    rw [hnext']
    show h.sender.next.toNat + 1 - h.sender.base.toNat ≤ _
    omega
  · intro r hr
    rcases Unacked.mem_of_mem_insert hr with rfl | hr
    · exact Int.le_max_left 0 _
    · exact hi.retries_le r hr

lemma acknowledge (hi : InWindow settings h) (number : UInt32) :
    InWindow settings (h.acknowledge number) := by
  refine ⟨?_, ?_, fun r hr => hi.retries_le r (List.mem_of_mem_filter hr)⟩
  · rw [items_acknowledge]
    exact hi.carries.acknowledge number
  · have hbase := hi.carries.toNat_base_acknowledge number
    have hwidth := hi.width_le
    show h.sender.next.toNat - (h.sender.acknowledge number).base.toNat ≤ _
    omega

lemma scan (hi : InWindow settings h) (takes : Log → Bool) (time : Int) :
    InWindow settings (h.scan settings takes time) := by
  refine ⟨?_, hi.width_le, ?_⟩
  · rw [items_scan]
    exact hi.carries.scan time
  · intro x hx
    obtain ⟨r, hr, rfl⟩ := Sender.mem_scan.1 hx
    have hretries := hi.retries_le r hr
    rcases Unacked.scan_cases settings time r with hs | ⟨_, _, hs⟩ | ⟨_, hleft, hs⟩
    · rwa [hs]
    · rwa [hs]
    · rw [hs]
      push_cast
      omega

lemma stop (hi : InWindow settings h) : InWindow settings h.stop := by
  refine ⟨?_, hi.width_le, hi.retries_le⟩
  rw [items_stop]
  exact hi.carries.stop

lemma step (hi : InWindow settings h) (hs : Step settings h h')
    (hlength : h'.log.items.length < 4294967296) : InWindow settings h' := by
  cases hs with
  | send takes time payload flags running room fits =>
      rw [items_send, List.length_append, List.length_singleton] at hlength
      exact hi.send hlength room takes time payload flags
  | acknowledge number => exact hi.acknowledge number
  | scan takes time running => exact hi.scan takes time
  | stop => exact hi.stop

end InWindow

/-- **The window invariant** holds in every history in which the numbers do not run out. -/
lemma Reachable.inWindow (hr : Reachable settings h) (hlength : h.log.items.length < 4294967296) :
    InWindow settings h := by
  induction hr with
  | start hw => exact .start hw
  | step hg hs ih =>
      have hle := Later.length_items_le (.single hs)
      exact (ih (by omega)).step hs hlength

/-! ## The window moves forward -/

lemma Step.base_le (hi : InWindow settings h) (hs : Step settings h h') :
    h.sender.base.toNat ≤ h'.sender.base.toNat := by
  cases hs with
  | send => exact Nat.le_refl _
  | acknowledge number =>
      show _ ≤ (h.sender.acknowledge number).base.toNat
      rw [hi.carries.toNat_base_acknowledge]
      exact Nat.le_max_left _ _
  | scan => exact Nat.le_refl _
  | stop => exact Nat.le_refl _

lemma Later.base_le (hr : Reachable settings h) (hl : Later settings h h')
    (hlength : h'.log.items.length < 4294967296) :
    h.sender.base.toNat ≤ h'.sender.base.toNat := by
  induction hl with
  | refl => exact Nat.le_refl _
  | @tail g g' hg hs ih =>
      have hle := Later.length_items_le (.single hs)
      have hg' := (hr.later hg).inWindow (by omega)
      exact Nat.le_trans (ih (by omega)) (hs.base_le hg')

lemma Later.next_le (hr : Reachable settings h) (hl : Later settings h h')
    (hlength : h'.log.items.length < 4294967296) :
    h.sender.next.toNat ≤ h'.sender.next.toNat := by
  have hle := hl.length_items_le
  rw [(hr.inWindow (by omega)).carries.next_eq, ((hr.later hl).inWindow hlength).carries.next_eq]
  exact hle

/-! ## The whole -/

/-- **The window invariant, spelled out.**  At any point of a history with fewer than 4294967296
items: the numbers in flight run from the base to the next number without a gap; each of them
stands for the packet with that number, and with no acknowledgement in it, of the item that was
given as the one with that index; there are no more of them than the window holds; all that was
given was counted as sent; no packet was sent again too often; nothing is in flight exactly if
the base has reached the next number; and neither of the two ever moves back. -/
theorem window_invariant (hr : Reachable settings h)
    (hlength : h.log.items.length < 4294967296) :
    h.sender.base ≤ h.sender.next ∧
    h.sender.numbers.map UInt32.toNat
      = List.range' h.sender.base.toNat (h.sender.next.toNat - h.sender.base.toNat) ∧
    (∀ r ∈ h.sender.inFlight, ∃ payload flags,
      h.log.items[r.seq.toNat]? = some (payload, flags) ∧
      r.packet = ⟨r.seq, 0, flags, payload⟩) ∧
    h.sender.inFlight.length = h.sender.next.toNat - h.sender.base.toNat ∧
    h.sender.next.toNat - h.sender.base.toNat ≤ settings.window.toNat ∧
    h.sender.packetsSent = h.sender.next.toNat ∧
    h.sender.next.toNat = h.log.items.length ∧
    (∀ r ∈ h.sender.inFlight, 0 ≤ r.retries ∧ (r.retries : Int) ≤ max 0 settings.maxRetries) ∧
    (h.sender.allAcked = true ↔ h.sender.base = h.sender.next) ∧
    ∀ h', Later settings h h' → h'.log.items.length < 4294967296 →
      h.sender.base ≤ h'.sender.base ∧ h.sender.next ≤ h'.sender.next := by
  have hi := hr.inWindow hlength
  have hc := hi.carries
  refine ⟨?_, hc.numbers_eq, ?_, hc.length_inFlight, hi.width_le, ?_, hc.next_eq, ?_,
    hc.allAcked_iff, ?_⟩
  · rw [UInt32.le_iff_toNat_le, hc.next_eq]
    exact hc.base_le
  · intro r hmem
    exact hc.exists_item hmem
  · rw [hc.packetsSent_eq, hc.next_eq]
  · exact fun r hmem => ⟨Nat.zero_le _, hi.retries_le r hmem⟩
  · intro h' hl hlength'
    exact ⟨UInt32.le_iff_toNat_le.2 (Later.base_le hr hl hlength'),
      UInt32.le_iff_toNat_le.2 (Later.next_le hr hl hlength')⟩

/-- Two packets that the link does not take, a scan that sends the first of them again, its
acknowledgement, a second copy of it, and one of far more than was ever sent. -/
def overrun : History :=
  ((((((⟨{}, []⟩ : History).send (fun _ => false) 0 [1] Flags.data).send (fun _ => false) 9 [2]
    Flags.data).scan { window := 2 } (fun _ => true) 505).acknowledge 0).acknowledge 0).acknowledge
      4000000000

/-- In between, one packet is in flight; in the end, none. -/
theorem window_invariant_overrun :
    Reachable { window := 2 } overrun ∧ overrun.log.items.length < 4294967296 ∧
    overrun.sender.retransmissions = 1 ∧ overrun.sender.next = 2 ∧
    overrun.sender.base ≤ overrun.sender.next ∧
    overrun.sender.inFlight.length = overrun.sender.next.toNat - overrun.sender.base.toNat ∧
    (overrun.sender.allAcked = true ↔ overrun.sender.base = overrun.sender.next) := by
  have hr : Reachable { window := 2 } overrun :=
    ((((((Reachable.start rfl).step (.send _ 0 _ _ rfl (by decide) rfl)).step
      (.send _ 9 _ _ rfl (by decide) rfl)).step (.scan _ 505 rfl)).step (.acknowledge 0)).step
        (.acknowledge 0)).step (.acknowledge 4000000000)
  have hlength : overrun.log.items.length < 4294967296 := by decide
  obtain ⟨hle, _, _, hcount, _, _, _, _, hacked, _⟩ := window_invariant hr hlength
  exact ⟨hr, hlength, by decide, by decide, hle, hcount, hacked⟩

end ReliableTransfer.History
