import ReliableTransfer.Proofs.Window.Retransmission

/-!
# The order in which retries are used up

A receiver that takes packets in order only has no use for a packet while an earlier one is missing.
So what is sent again should be sent again in order.  Nothing in a scan looks at two packets at a
time, but as long as the clock does not go back the order of sending is never lost: of two packets
in flight the earlier one is always ahead with its retries, and level with the later one only if
its last transmission is the older one, so that it is overdue whenever the later one is.

* `Leads` — in a list, the `i`-th place of one value is always before the `i`-th of another.
* `Unacked.Precedes` — one packet is ahead of another with its retries;
  **`Unacked.Precedes.scan`** says that it stays ahead.
* `History.Before`, `History.InLine` — the same with what the log says about the two, for one pair
  and for all.
* **`History.Reachable.inLine`** — packets in flight are served in the order of their numbers.
* **`History.retries_in_order`** — the whole, spelled out.
-/

namespace ReliableTransfer

/-! ## Who comes first in a list -/

/-- **One value leads another** in a list: for every `i`, its `i`-th place comes before the `i`-th
place of the other.  That is, up to any point it has come up at least as often. -/
def Leads {α : Type} [DecidableEq α] (a b : α) (l : List α) : Prop :=
  ∀ before, before <+: l → before.count b ≤ before.count a

namespace Leads

variable {α : Type} [DecidableEq α] {a b : α} {l more : List α}

/-- A value that does not come up is led by all. -/
lemma of_notMem (h : b ∉ l) : Leads a b l := by
  intro before hbefore
  rw [List.count_eq_zero_of_not_mem fun hb => h (hbefore.subset hb)]
  exact Nat.zero_le _

/-- The place of the other has a place in front of it that no earlier place needs. -/
lemma count_lt (h : Leads a b l) (hne : a ≠ b) {before after : List α}
    (hl : l = before ++ b :: after) : before.count b < before.count a := by
  have hle := h (before ++ [b]) ⟨after, by rw [hl, List.append_assoc]; rfl⟩
  rw [List.count_append, List.count_append, List.count_singleton_self,
    List.count_singleton, if_neg (by simpa using hne.symm)] at hle
  omega

/-- Ascending numbers are added.  If the greater of the two is among them, so is the smaller one
unless it was a place ahead. -/
lemma append {m n : UInt32} {numbers new : List UInt32} (h : Leads m n numbers) (hlt : m < n)
    (hsorted : new.Pairwise (· < ·))
    (hnew : n ∈ new → numbers.count n < numbers.count m ∨ m ∈ new) :
    Leads m n (numbers ++ new) := by
  rintro before ⟨after, hcut⟩
  rcases List.append_eq_append_iff.1 hcut with ⟨rest, rfl, _⟩ | ⟨front, rfl, rfl⟩
  · exact h before ⟨rest, rfl⟩
  · have hle := h numbers (List.prefix_refl numbers)
    have hordered := List.pairwise_append.1 hsorted
    rw [List.count_append, List.count_append]
    by_cases hn : n ∈ front
    · have hone : front.count n ≤ 1 :=
        List.nodup_iff_count_le_one.1 (hordered.1.imp UInt32.ne_of_lt) n
      rcases hnew (List.mem_append_left after hn) with hahead | hm
      · omega
      · -- the smaller number cannot come behind the greater one
        have hmfront : m ∈ front := (List.mem_append.1 hm).resolve_right fun hafter =>
          UInt32.lt_asymm hlt (hordered.2.2 n hn m hafter)
        have hpos := List.count_pos_iff.2 hmfront
        omega
    · rw [List.count_eq_zero_of_not_mem hn]
      omega

end Leads

/-! ## The log about two numbers -/

namespace Log

/-- The numbers of the packets that were handed to the link, in order. -/
def called (log : Log) : List UInt32 :=
  log.calls.map (·.2.seq)

/-- The clock does not go back from one call of the link to a later one. -/
def Steady (log : Log) : Prop :=
  log.calls.Pairwise (·.1 ≤ ·.1)

lemma count_called (log : Log) (seq : UInt32) :
    log.called.count seq = (log.callsFor seq).length := by
  rw [called, List.count_eq_countP, List.countP_map, List.countP_eq_length_filter, callsFor]
  rfl

lemma count_warnings (log : Log) (seq : UInt32) :
    log.warnings.count seq = (log.warningsFor seq).length := by
  rw [List.count_eq_countP, List.countP_eq_length_filter]
  rfl

lemma Steady.of_append {log more : Log} (h : Steady (log ++ more)) : log.Steady := by
  rw [Steady, calls_append] at h
  exact (List.pairwise_append.1 h).1

end Log

/-! ## One packet ahead of another -/

namespace Unacked

variable {settings : Settings} {now : Int} {r r' : Unacked}

/-- **A packet is ahead of another**: it was sent again at least as often and, if no more often, not
later; and it was complained about if the other was. -/
structure Precedes (r r' : Unacked) : Prop where
  retries_le : r'.retries ≤ r.retries
  lastSent_le : r.retries = r'.retries → r.lastSent ≤ r'.lastSent
  reported : r'.reported = true → r.reported = true

namespace Precedes

/-- When the other is sent again, so is this one, unless it has been already. -/
lemma isResent (h : r.Precedes r') (hresent : r'.IsResent settings now) :
    r'.retries < r.retries ∨ r.IsResent settings now := by
  rcases Nat.lt_or_eq_of_le h.retries_le with hlt | heq
  · exact .inl hlt
  · have hle := h.lastSent_le heq.symm
    exact .inr ⟨Int.lt_of_lt_of_le hresent.1 (by omega), heq ▸ hresent.2⟩

/-- When the other is complained about, so is this one, unless it has been already: it cannot have
had more retries. -/
lemma isGivenUp (h : r.Precedes r') (hbound : (r.retries : Int) ≤ max 0 settings.maxRetries)
    (hgivenUp : r'.IsGivenUp settings now) : r.reported = true ∨ r.IsGivenUp settings now := by
  obtain ⟨hdue, hused, _⟩ := hgivenUp
  have hretries := h.retries_le
  have hle := h.lastSent_le (by omega)
  cases hreported : r.reported with
  | true => exact .inl rfl
  | false => exact .inr ⟨by omega, by omega, hreported⟩

/-- **A scan leaves a packet ahead of another**, as long as the clock has not gone back when it
sends the other again. -/
lemma scan (h : r.Precedes r') (hbound : (r.retries : Int) ≤ max 0 settings.maxRetries)
    (hclock : r'.IsResent settings now → r.lastSent ≤ now) :
    (r.scan settings now).1.Precedes (r'.scan settings now).1 := by
  have hretries := h.retries_le
  refine ⟨?_, ?_, ?_⟩
  · rw [retries_scan, retries_scan]
    split_ifs with hresent' hresent hresent
    · omega
    · have hahead := (h.isResent hresent').resolve_right hresent
      omega
    · omega
    · exact hretries
  · rw [retries_scan, retries_scan, lastSent_scan, lastSent_scan]
    split_ifs with hresent hresent' hresent'
    · exact fun _ => Int.le_refl now
    · -- this one alone is sent again, and is ahead by one retry at least
      intro hlevel
      omega
    · exact fun _ => hclock hresent'
    · exact h.lastSent_le
  · rw [reported_scan, reported_scan]
    rintro (hreported | hgivenUp)
    · exact .inl (h.reported hreported)
    · exact h.isGivenUp hbound hgivenUp

end Precedes

/-- A packet was last sent with one of the calls in the log. -/
lemma Told.lastSent_le {log : Log} (h : r.Told log) {time : Int}
    (hlate : ∀ c ∈ log.calls, c.1 ≤ time) : r.lastSent ≤ time := by
  obtain ⟨c, hc, hlast⟩ := Option.map_eq_some_iff.1 h.last_eq
  rw [← hlast]
  exact hlate c (List.mem_filter.1 (List.mem_of_getLast? hc)).1

end Unacked

/-! ## Histories -/

namespace History

variable {settings : Settings} {h h' : History} {r r' : Unacked}

/-- **One packet is served before another**, by their records and by the log: it is ahead with its
retries, and for every `i` its `i`-th transmission came before the `i`-th of the other, and so did
the report about it. -/
structure Before (h : History) (r r' : Unacked) : Prop where
  precedes : r.Precedes r'
  called : Leads r.seq r'.seq h.log.called
  warned : Leads r.seq r'.seq h.log.warnings

/-- Packets in flight are served in the order of their numbers. -/
def InLine (h : History) : Prop :=
  ∀ r ∈ h.sender.inFlight, ∀ r' ∈ h.sender.inFlight, r.seq < r'.seq → h.Before r r'

section Turns

variable (takes : Log → Bool) (time : Int) (h : History)

lemma called_send (payload : Bytes) (flags : Flags) :
    (h.send takes time payload flags).log.called = h.log.called ++ [h.sender.next] := by
  obtain ⟨more, hmore, _, hcalls, _⟩ := log_send takes time payload flags h
  rw [Log.called, hmore, Log.calls_append, hcalls, List.map_append]
  rfl

lemma warnings_send (payload : Bytes) (flags : Flags) :
    (h.send takes time payload flags).log.warnings = h.log.warnings := by
  obtain ⟨more, hmore, _, _, hwarnings, _⟩ := log_send takes time payload flags h
  rw [hmore, Log.warnings_append, hwarnings, List.append_nil]

lemma called_scan :
    (h.scan settings takes time).log.called = h.log.called
      ++ (h.sender.inFlight.filter (·.IsResent settings time)).map Unacked.seq := by
  obtain ⟨more, hmore, _, hcalls, _⟩ := log_scan settings takes time h
  rw [Log.called, hmore, Log.calls_append, hcalls, Sender.packets_scan, List.map_append,
    List.map_map, List.map_map]
  rfl

lemma warnings_scan :
    (h.scan settings takes time).log.warnings = h.log.warnings
      ++ (h.sender.inFlight.filter (·.IsGivenUp settings time)).map Unacked.seq := by
  obtain ⟨more, hmore, _, _, hwarnings, _⟩ := log_scan settings takes time h
  rw [hmore, Log.warnings_append, hwarnings, Sender.warnings_scan]

/-- A call that a turn makes comes after all that were made before. -/
lemma le_of_steady_send (payload : Bytes) (flags : Flags)
    (hclock : (h.send takes time payload flags).log.Steady) : ∀ c ∈ h.log.calls, c.1 ≤ time := by
  obtain ⟨more, hmore, _, hcalls, _⟩ := log_send takes time payload flags h
  rw [Log.Steady, hmore, Log.calls_append, hcalls] at hclock
  exact fun c hc => (List.pairwise_append.1 hclock).2.2 c hc _ (List.mem_singleton_self _)

lemma le_of_steady_scan (hclock : (h.scan settings takes time).log.Steady)
    (hr : r ∈ h.sender.inFlight) (hresent : r.IsResent settings time) :
    ∀ c ∈ h.log.calls, c.1 ≤ time := by
  obtain ⟨more, hmore, _, hcalls, _⟩ := log_scan settings takes time h
  rw [Log.Steady, hmore, Log.calls_append, hcalls, Sender.packets_scan] at hclock
  have hcall : (time, r.packet) ∈ ((h.sender.inFlight.filter (·.IsResent settings time)).map
      Unacked.packet).map (time, ·) :=
    List.mem_map_of_mem (List.mem_map_of_mem
      (List.mem_filter.2 ⟨hr, decide_eq_true hresent⟩))
  exact fun c hc => (List.pairwise_append.1 hclock).2.2 c hc _ hcall

end Turns

namespace InLine

lemma start {w : Sender} (hw : Sender.create settings = .ok w) : InLine ⟨w, []⟩ := by
  rw [Sender.eq_of_create hw]
  exact fun r hr => absurd hr List.not_mem_nil

/-- An order may take packets out of flight; those that stay keep their places. -/
lemma order (hl : h.InLine) {d : Deed} (hd : d.isOrder = true) {w : Sender}
    (hinFlight : w.inFlight ⊆ h.sender.inFlight) : InLine ⟨w, h.log ++ [d]⟩ := by
  obtain ⟨_, hcalls, hwarnings⟩ := Log.append_order h.log hd
  intro r hr r' hr' hlt
  have hb := hl r (hinFlight hr) r' (hinFlight hr') hlt
  refine ⟨hb.precedes, ?_, ?_⟩
  · rw [Log.called, hcalls]
    exact hb.called
  · rw [hwarnings]
    exact hb.warned

/-- A new packet goes to the end of the line. -/
lemma send (hl : h.InLine) (hi : InWindow settings h) (ha : Accounted settings h)
    (takes : Log → Bool) (time : Int) (payload : Bytes) (flags : Flags)
    (hclock : (h.send takes time payload flags).log.Steady) :
    (h.send takes time payload flags).InLine := by
  have hnext := hi.carries.next_eq
  have hlate := le_of_steady_send takes time h payload flags hclock
  have hbelow : ∀ r ∈ h.sender.inFlight, r.seq < h.sender.next := fun r hr => by
    rw [UInt32.lt_iff_toNat_lt, hnext]
    exact (hi.carries.mem_numbers.1 (List.mem_map_of_mem hr)).2
  -- nothing was said of the new number so far
  obtain ⟨hnone, hnone'⟩ := ha.unsent h.sender.next (Nat.le_of_eq hnext.symm)
  have hcount : h.log.called.count h.sender.next = 0 := by
    rw [Log.count_called, hnone, List.length_nil]
  have hunwarned : h.sender.next ∉ h.log.warnings := by
    rw [← List.count_eq_zero, Log.count_warnings, hnone', List.length_nil]
  intro r hr r' hr' hlt
  rcases Unacked.mem_of_mem_insert hr with rfl | hr
  · -- nothing is behind the new packet
    rcases Unacked.mem_of_mem_insert hr' with rfl | hr'
    · exact absurd hlt (UInt32.lt_irrefl _)
    · exact absurd hlt (UInt32.lt_asymm (hbelow r' hr'))
  · have htold := ha.told r hr
    rcases Unacked.mem_of_mem_insert hr' with rfl | hr'
    · refine ⟨⟨Nat.zero_le _, fun _ => htold.lastSent_le hlate, nofun⟩, ?_, ?_⟩
      · rw [called_send]
        refine (Leads.of_notMem (List.count_eq_zero.1 hcount)).append hlt
          (List.pairwise_singleton _ _) fun _ => .inl ?_
        show h.log.called.count h.sender.next < _
        rw [hcount, Log.count_called, htold.length_eq]
        exact Nat.succ_pos _
      · rw [warnings_send]
        exact .of_notMem hunwarned
    · have hb := hl r hr r' hr' hlt
      refine ⟨hb.precedes, ?_, ?_⟩
      · rw [called_send]
        refine hb.called.append hlt (List.pairwise_singleton _ _) fun hmem => ?_
        exact absurd (List.mem_singleton.1 hmem) (UInt32.ne_of_lt (hbelow r' hr'))
      · rw [warnings_send]
        exact hb.warned

/-- **A scan** goes along the line. -/
lemma scan (hl : h.InLine) (hi : InWindow settings h) (ha : Accounted settings h)
    (takes : Log → Bool) (time : Int) (hclock : (h.scan settings takes time).log.Steady) :
    (h.scan settings takes time).InLine := by
  have hsorted : ∀ picked : Unacked → Bool,
      ((h.sender.inFlight.filter picked).map Unacked.seq).Pairwise (· < ·) := fun picked =>
    hi.carries.pairwise_numbers.sublist ((List.filter_sublist).map Unacked.seq)
  intro x hx x' hx' hlt
  obtain ⟨r, hr, rfl⟩ := Sender.mem_scan.1 hx
  obtain ⟨r', hr', rfl⟩ := Sender.mem_scan.1 hx'
  rw [Unacked.seq_scan, Unacked.seq_scan] at hlt
  have hb := hl r hr r' hr' hlt
  have htold := ha.told r hr
  have htold' := ha.told r' hr'
  refine ⟨?_, ?_, ?_⟩
  · refine hb.precedes.scan (hi.retries_le r hr) fun hresent => htold.lastSent_le ?_
    exact le_of_steady_scan takes time h hclock hr' hresent
  · rw [Unacked.seq_scan, Unacked.seq_scan, called_scan]
    refine hb.called.append hlt (hsorted _) fun hmem => ?_
    rw [hi.carries.mem_map_filter hr', decide_eq_true_eq] at hmem
    rw [hi.carries.mem_map_filter hr, decide_eq_true_eq, Log.count_called, Log.count_called,
      htold.length_eq, htold'.length_eq]
    exact (hb.precedes.isResent hmem).imp_left Nat.succ_lt_succ
  · rw [Unacked.seq_scan, Unacked.seq_scan, warnings_scan]
    refine hb.warned.append hlt (hsorted _) fun hmem => ?_
    rw [hi.carries.mem_map_filter hr', decide_eq_true_eq] at hmem
    rw [hi.carries.mem_map_filter hr, decide_eq_true_eq, Log.count_warnings, Log.count_warnings,
      htold.warnings_eq, htold'.warnings_eq, hmem.2.2]
    refine (hb.precedes.isGivenUp (hi.retries_le r hr) hmem).imp_left fun hreported => ?_
    rw [hreported]
    exact Nat.zero_lt_one

end InLine

/-- **Packets in flight are served in the order of their numbers**, as long as the clock does not
go back and numbers last. -/
lemma Reachable.inLine (hr : Reachable settings h) (hlength : h.log.items.length < 4294967296)
    (hclock : h.log.Steady) : h.InLine := by
  induction hr with
  | start hw => exact .start hw
  | @step g g' hg hs ih =>
      have hle := Later.length_items_le (.single hs)
      have hi := hg.inWindow (by omega)
      have ha := hg.accounted (by omega)
      obtain ⟨more, hmore⟩ := Later.log_append (.single hs)
      have hl := ih (by omega) (Log.Steady.of_append (hmore ▸ hclock))
      cases hs with
      | send takes time payload flags => exact hl.send hi ha takes time payload flags hclock
      | acknowledge number => exact hl.order rfl (List.filter_subset_self _)
      | scan takes time => exact hl.scan hi ha takes time hclock
      | stop => exact hl.order rfl (List.Subset.refl _)

/-! ## The whole -/

/-- **Retries are used up in order.**  In every history with fewer than 4294967296 items in which
the clock does not go back from one call of the link to the next, of any two packets in flight the
one with the lower number was sent again at least as often, and last not later if it was sent again
just as often.  For every `i` the `i`-th call of the link for it came before the `i`-th for the
other: whenever the other was handed to the link, this one had been so once more than the other
before.  And the other was complained about only after this one was.

So whichever packet a receiver that takes them in order is waiting for, it is sent again ahead of
all packets behind it.  Scans in which nothing is sent may come at any times whatever. -/
theorem retries_in_order (hr : Reachable settings h) (hlength : h.log.items.length < 4294967296)
    (hclock : h.log.calls.Pairwise (·.1 ≤ ·.1)) (hmem : r ∈ h.sender.inFlight)
    (hmem' : r' ∈ h.sender.inFlight) (hlt : r.seq < r'.seq) :
    r'.retries ≤ r.retries ∧
    (r.retries = r'.retries → r.lastSent ≤ r'.lastSent) ∧
    (∀ before after, h.log.calls.map (·.2.seq) = before ++ r'.seq :: after →
      before.count r'.seq < before.count r.seq) ∧
    (∀ before after, h.log.warnings = before ++ r'.seq :: after → r.seq ∈ before) := by
  have hb := hr.inLine hlength hclock r hmem r' hmem' hlt
  have hne := UInt32.ne_of_lt hlt
  refine ⟨hb.precedes.retries_le, hb.precedes.lastSent_le, ?_, ?_⟩
  · exact fun before after hcut => hb.called.count_lt hne hcut
  · intro before after hcut
    have hcount := hb.warned.count_lt hne hcut
    exact List.count_pos_iff.1 (Nat.lt_of_le_of_lt (Nat.zero_le _) hcount)

/-- Three packets, the second of which the link does not take.  The first is acknowledged; the
other two become overdue at different times, and both use up the one retry they have. -/
def staggered : History :=
  ((((((((⟨{}, []⟩ : History).send (fun _ => true) 0 [1] Flags.data).send (fun _ => false) 100 [2]
    Flags.data).send (fun _ => true) 400 [] Flags.fin).acknowledge 0).scan { maxRetries := 1 }
      (fun _ => true) 601).scan { maxRetries := 1 } (fun _ => true) 901).scan { maxRetries := 1 }
        (fun _ => true) 1102).scan { maxRetries := 1 } (fun _ => true) 1402

/-- Each time one of them is sent or complained about, the second packet is the first to be. -/
theorem retries_in_order_staggered :
    Reachable { maxRetries := 1 } staggered ∧ staggered.log.items.length < 4294967296 ∧
    staggered.log.calls.Pairwise (·.1 ≤ ·.1) ∧
    staggered.sender.inFlight
      = [⟨⟨1, 0, Flags.data, [2]⟩, 601, 1, true⟩, ⟨⟨2, 0, Flags.fin, []⟩, 901, 1, true⟩] ∧
    staggered.log.calls.map (·.2.seq) = [0, 1, 2, 1, 2] ∧ staggered.log.warnings = [1, 2] ∧
    (601 : Int) ≤ 901 ∧ [0, 1].count (2 : UInt32) < [0, 1].count 1 ∧
    [0, 1, 2, 1].count (2 : UInt32) < [0, 1, 2, 1].count 1 ∧ (1 : UInt32) ∈ [1] := by
  have hr : Reachable { maxRetries := 1 } staggered :=
    ((((((((Reachable.start rfl).step (.send _ 0 _ _ rfl (by decide) rfl)).step
      (.send _ 100 _ _ rfl (by decide) rfl)).step (.send _ 400 _ _ rfl (by decide) rfl)).step
        (.acknowledge 0)).step (.scan _ 601 rfl)).step (.scan _ 901 rfl)).step
          (.scan _ 1102 rfl)).step (.scan _ 1402 rfl)
  have hlength : staggered.log.items.length < 4294967296 := by decide
  have hclock : staggered.log.calls.Pairwise (·.1 ≤ ·.1) := by decide
  have hflight : staggered.sender.inFlight
      = [⟨⟨1, 0, Flags.data, [2]⟩, 601, 1, true⟩, ⟨⟨2, 0, Flags.fin, []⟩, 901, 1, true⟩] := by
    decide
  have hcalls : staggered.log.calls.map (·.2.seq) = [0, 1, 2, 1, 2] := by decide
  have hwarnings : staggered.log.warnings = [1, 2] := by decide
  obtain ⟨_, hlast, hcalled, hwarned⟩ := retries_in_order hr hlength hclock
    (hflight ▸ List.mem_cons_self) (hflight ▸ List.mem_cons_of_mem _ (List.mem_singleton_self _))
    (by decide)
  exact ⟨hr, hlength, hclock, hflight, hcalls, hwarnings, hlast rfl, hcalled [0, 1] [1, 2] hcalls,
    hcalled [0, 1, 2, 1] [] hcalls, hwarned [1] [] hwarnings⟩

end History

end ReliableTransfer
