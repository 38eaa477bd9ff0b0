import Mathlib.Data.List.MinMax
import ReliableTransfer.Proofs.Window.Retransmission

/-!
# Acknowledgements in any order

An acknowledgement vouches for everything up to its number, so of several of them the greatest says
all that there is to say.  Those that come late, twice or out of turn make no difference.

* `Sender.acknowledgeAll` — acknowledgements one after the other;
  `Sender.exists_acknowledgeAll_eq` says what they can change at all.
* **`Sender.Carries.acknowledgeAll_congr`** — what they come to depends only on which packets some
  of them covers.
* **`History.greatest_acknowledgement`** — the whole, spelled out.
-/

namespace ReliableTransfer

namespace Sender

variable {items : List Item} {w w' : Sender}

/-- Acknowledgements one after the other. -/
def acknowledgeAll (numbers : List UInt32) (w : Sender) : Sender :=
  numbers.foldl (fun w number => w.acknowledge number) w

/-- Acknowledgements move the base and take out the packets that one of them covers; the packets
that are left stay as they are, and so does everything else. -/
lemma exists_acknowledgeAll_eq (numbers : List UInt32) (w : Sender) :
    ∃ base, w.acknowledgeAll numbers = { w with
      base, inFlight := w.inFlight.filter fun r => numbers.all (· < r.seq) } := by
  induction numbers generalizing w with
  | nil => exact ⟨w.base, by simp [acknowledgeAll]⟩
  | cons number rest ih =>
      obtain ⟨base, hrest⟩ := ih (w.acknowledge number)
      refine ⟨base, ?_⟩
      rw [acknowledgeAll, List.foldl_cons, ← acknowledgeAll, hrest, acknowledge]
      simp only [List.filter_filter, List.all_cons, Bool.and_comm]

namespace Carries

lemma acknowledgeAll (h : Carries items w) (numbers : List UInt32) :
    Carries items (w.acknowledgeAll numbers) := by
  induction numbers generalizing w with
  | nil => exact h
  | cons number rest ih => exact ih (h.acknowledge number)

/-- Where the base is can be told from what is in flight. -/
lemma base_eq (h : Carries items w) (h' : Carries items w') (hsame : w.inFlight = w'.inFlight) :
    w.base = w'.base := by
  have hbase := h.base_le
  have hbase' := h'.base_le
  have hlength := h.length_inFlight
  have hlength' := h'.length_inFlight
  rw [h.next_eq] at hlength
  rw [h'.next_eq, ← hsame] at hlength'
  exact UInt32.toNat_inj.1 (by omega)

/-- **What acknowledgements come to** depends only on which packets in flight some of them
covers. -/
lemma acknowledgeAll_congr (h : Carries items w) {numbers numbers' : List UInt32}
    (hsame : ∀ r ∈ w.inFlight,
      (∀ number ∈ numbers, number < r.seq) ↔ ∀ number ∈ numbers', number < r.seq) :
    w.acknowledgeAll numbers = w.acknowledgeAll numbers' := by
  have hcarries := h.acknowledgeAll numbers
  have hcarries' := h.acknowledgeAll numbers'
  obtain ⟨base, heq⟩ := exists_acknowledgeAll_eq numbers w
  obtain ⟨base', heq'⟩ := exists_acknowledgeAll_eq numbers' w
  have hinFlight : w.inFlight.filter (fun r => numbers.all (· < r.seq))
      = w.inFlight.filter fun r => numbers'.all (· < r.seq) :=
    List.filter_congr fun r hr => by
      rw [Bool.eq_iff_iff]
      simpa only [List.all_eq_true, decide_eq_true_eq] using hsame r hr
  have hbase : base = base' := by
    rw [heq] at hcarries
    rw [heq'] at hcarries'
    exact hcarries.base_eq hcarries' hinFlight
  rw [heq, heq', hinFlight, hbase]

/-- A number below the base covers nothing that is in flight. -/
lemma lt_seq (h : Carries items w) {number : UInt32} (hstale : number < w.base) {r : Unacked}
    (hr : r ∈ w.inFlight) : number < r.seq := by
  have hbase := (h.mem_numbers.1 (List.mem_map_of_mem hr)).1
  rw [UInt32.lt_iff_toNat_lt] at hstale ⊢
  omega

/-- One acknowledgement is as good as some that it goes beyond, stale ones apart. -/
lemma covers (h : Carries items w) {numbers numbers' : List UInt32}
    (hcover : ∀ n ∈ numbers, n < w.base ∨ ∃ m ∈ numbers', n ≤ m) {r : Unacked}
    (hr : r ∈ w.inFlight) (hleft : ∀ m ∈ numbers', m < r.seq) : ∀ n ∈ numbers, n < r.seq := by
  intro n hn
  rcases hcover n hn with hstale | ⟨m, hm, hle⟩
  · exact h.lt_seq hstale hr
  · exact UInt32.lt_of_le_of_lt hle (hleft m hm)

end Carries

end Sender

/-- Of some numbers one is the greatest. -/
lemma exists_greatest {numbers : List UInt32} (h : numbers ≠ []) :
    ∃ greatest ∈ numbers, ∀ number ∈ numbers, number ≤ greatest := by
  obtain ⟨greatest, hmax⟩ : ∃ greatest, numbers.argmax UInt32.toNat = some greatest :=
    Option.ne_none_iff_exists'.1 (mt List.argmax_eq_none.1 h)
  refine ⟨greatest, List.argmax_mem hmax, fun number hnumber => UInt32.le_iff_toNat_le.2 ?_⟩
  exact List.le_of_mem_argmax hnumber hmax

namespace History

variable {settings : Settings} {h h' : History}

/-- A packet sent after an acknowledgement is in flight until another one, handed over later,
covers it. -/
lemma mem_numbers_of_later (hr : Reachable settings h') (hlength : h'.log.items.length < 4294967296)
    {log later : Log} (hlog : h'.log = log ++ later) {seq : UInt32}
    (hafter : log.items.length ≤ seq.toNat) (hsent : seq.toNat < h'.log.items.length)
    (hopen : ∀ m, .acknowledged m ∈ later → m < seq) : seq ∈ h'.sender.numbers := by
  by_contra hnot
  rw [(hr.inWindow hlength).carries.mem_numbers] at hnot
  have hsettles : h'.log.Settles seq := (hr.settles_iff hlength).2 (by omega)
  obtain ⟨pre, number, post, hcut, hpre, hle⟩ := hsettles
  rw [hlog] at hcut
  rcases List.append_eq_append_iff.1 hcut with ⟨front, _, rfl⟩ | ⟨rest, rfl, _⟩
  · have hmem : .acknowledged number ∈ front ++ .acknowledged number :: post :=
      List.mem_append_right front List.mem_cons_self
    exact absurd (hopen number hmem) (UInt32.not_lt.2 hle)
  · -- what covers the packet cannot have been handed over before it was sent
    rw [Log.items_append, List.length_append] at hafter
    omega

/-- **Only the greatest acknowledgement counts.**  At any point of a history with fewer than
4294967296 items: acknowledgements that are handed over one after the other come to what the
greatest of them comes to, so their order makes no difference, and neither do those that are
below the base or that another one goes beyond.  One that is handed over again changes nothing, and
it makes no difference whether the sender is stopped before or after.  An acknowledgement changes
nothing but the base and what is in flight, and the packets above its number stay as they are.  One
at or beyond the next number takes out all that was sent so far; but a packet that is sent after it
is in flight until another acknowledgement, handed over later, covers it. -/
theorem greatest_acknowledgement (hr : Reachable settings h)
    (hlength : h.log.items.length < 4294967296) :
    (∀ numbers, numbers ≠ [] → ∃ greatest ∈ numbers, (∀ n ∈ numbers, n ≤ greatest) ∧
      h.sender.acknowledgeAll numbers = h.sender.acknowledge greatest) ∧
    (∀ numbers numbers',
      (∀ n ∈ numbers, n < h.sender.base ∨ ∃ m ∈ numbers', n ≤ m) →
      (∀ n ∈ numbers', n < h.sender.base ∨ ∃ m ∈ numbers, n ≤ m) →
      h.sender.acknowledgeAll numbers = h.sender.acknowledgeAll numbers') ∧
    (∀ n, (h.sender.acknowledge n).acknowledge n = h.sender.acknowledge n) ∧
    (∀ n, (h.sender.acknowledge n).stop = h.sender.stop.acknowledge n) ∧
    (∀ n, ∃ base inFlight, h.sender.acknowledge n = { h.sender with base, inFlight } ∧
      inFlight.Sublist h.sender.inFlight ∧ ∀ r ∈ h.sender.inFlight, r ∈ inFlight ↔ n < r.seq) ∧
    (∀ n, h.sender.next ≤ n →
      (h.sender.acknowledge n).inFlight = [] ∧ (h.sender.acknowledge n).base = h.sender.next) ∧
    (∀ n h' later, Later settings (h.acknowledge n) h' → h'.log.items.length < 4294967296 →
      h'.log = (h.acknowledge n).log ++ later → ∀ seq : UInt32,
      h.log.items.length ≤ seq.toNat → seq.toNat < h'.log.items.length →
      (∀ m, .acknowledged m ∈ later → m < seq) → seq ∈ h'.sender.numbers) := by
  have hc := (hr.inWindow hlength).carries
  have hcongr : ∀ numbers numbers',
      (∀ n ∈ numbers, n < h.sender.base ∨ ∃ m ∈ numbers', n ≤ m) →
      (∀ n ∈ numbers', n < h.sender.base ∨ ∃ m ∈ numbers, n ≤ m) →
      h.sender.acknowledgeAll numbers = h.sender.acknowledgeAll numbers' :=
    fun numbers numbers' hcover hcover' => hc.acknowledgeAll_congr fun r hr =>
      ⟨hc.covers hcover' hr, hc.covers hcover hr⟩
  refine ⟨fun numbers hne => ?_, hcongr, fun n => ?_, fun n => rfl, fun n => ?_,
    fun n hbeyond => ?_, fun n h' later hl hlength' hlog seq hafter hsent hopen => ?_⟩
  · obtain ⟨greatest, hmem, hgreatest⟩ := exists_greatest hne
    refine ⟨greatest, hmem, hgreatest, hcongr numbers [greatest] (fun n hn => ?_) fun n hn => ?_⟩
    · exact .inr ⟨greatest, List.mem_singleton_self _, hgreatest n hn⟩
    · exact .inr ⟨greatest, hmem, UInt32.le_of_eq (List.mem_singleton.1 hn)⟩
  · refine hcongr [n, n] [n] (fun m hm => ?_) fun m hm => ?_
    · exact .inr ⟨n, List.mem_singleton_self _, UInt32.le_of_eq (by simpa using hm)⟩
    · exact .inr ⟨n, List.mem_cons_self, UInt32.le_of_eq (List.mem_singleton.1 hm)⟩
  · refine ⟨_, _, rfl, List.filter_sublist, fun r hmem => ?_⟩
    rw [List.mem_filter, decide_eq_true_eq]
    exact and_iff_right hmem
  · have hnext := hc.next_eq
    have hmoved := hc.toNat_base_acknowledge n
    have hbase := hc.base_le
    rw [UInt32.le_iff_toNat_le] at hbeyond
    have hall : (h.sender.acknowledge n).base = h.sender.next := UInt32.toNat_inj.1 (by omega)
    exact ⟨List.isEmpty_iff.1 ((hc.acknowledge n).allAcked_iff.2 hall), hall⟩
  · have hr' := (hr.step (.acknowledge n)).later hl
    exact mem_numbers_of_later hr' hlength' hlog (items_acknowledge n h ▸ hafter) hsent hopen

/-- Three packets of which the first is acknowledged, and the second is sent again. -/
def halfway : History :=
  (((((⟨{}, []⟩ : History).send (fun _ => true) 0 [1] Flags.data).send (fun _ => false) 3 [2]
    Flags.data).send (fun _ => true) 300 [3] Flags.data).acknowledge 0).scan {} (fun _ => true) 504

/-- An acknowledgement of the second packet counts also when it is the first of three; the greatest
number there is takes out what was sent, and not the packet that is sent next. -/
theorem greatest_acknowledgement_halfway :
    Reachable {} halfway ∧ halfway.log.items.length < 4294967296 ∧
    halfway.sender.acknowledgeAll [1, 0, 1] = halfway.sender.acknowledge 1 ∧
    (halfway.sender.acknowledge 1).inFlight = [⟨⟨2, 0, Flags.data, [3]⟩, 300, 0, false⟩] ∧
    halfway.sender.acknowledgeAll [0, 1] = halfway.sender.acknowledgeAll [1] ∧
    halfway.sender.next ≤ 4294967295 ∧ (halfway.sender.acknowledge 4294967295).base = 3 ∧
    (3 : UInt32) ∈ ((halfway.acknowledge 4294967295).send (fun _ => true) 600 [4]
      Flags.data).sender.numbers := by
  have hr : Reachable {} halfway :=
    (((((Reachable.start rfl).step (.send _ 0 _ _ rfl (by decide) rfl)).step
      (.send _ 3 _ _ rfl (by decide) rfl)).step (.send _ 300 _ _ rfl (by decide) rfl)).step
        (.acknowledge 0)).step (.scan _ 504 rfl)
  have hlength : halfway.log.items.length < 4294967296 := by decide
  obtain ⟨hgreatest, hcovers, _, _, _, hbeyond, hafter⟩ := greatest_acknowledgement hr hlength
  obtain ⟨greatest, hmem, hle, heq⟩ := hgreatest [1, 0, 1] (by decide)
  have hone : greatest = 1 := by
    have hleast := hle 1 (by decide)
    rcases List.mem_cons.1 hmem with rfl | hmem
    · rfl
    · rcases List.mem_cons.1 hmem with rfl | hmem
      · exact absurd hleast (by decide)
      · exact List.mem_singleton.1 hmem
  have hbelow : ∀ n ∈ [0, 1], n ≤ (1 : UInt32) := by simp
  have hstale : halfway.sender.acknowledgeAll [0, 1] = halfway.sender.acknowledgeAll [1] :=
    hcovers [0, 1] [1] (fun n hn => .inr ⟨1, List.mem_singleton_self _, hbelow n hn⟩)
      fun n hn => .inr ⟨n, List.mem_cons_of_mem _ hn, UInt32.le_refl n⟩
  refine ⟨hr, hlength, hone ▸ heq, by decide, hstale, by decide,
    (hbeyond 4294967295 (by decide)).2, ?_⟩
  exact hafter 4294967295 _ [.given [4] Flags.data,
    .transmitted 600 ⟨3, 0, Flags.data, [4]⟩ true] (.single (.send _ 600 _ _ rfl (by decide) rfl))
    (by decide) (by decide) 3 (by decide) (by decide) (by simp)

end History

end ReliableTransfer
