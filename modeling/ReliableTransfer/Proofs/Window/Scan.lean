import Mathlib.Data.List.Nodup
import Mathlib.Tactic.Common
import ReliableTransfer.Window.Timer

/-!
# What a scan does to one packet

A scan goes over all packets in flight, but what it does to one of them depends on that one only.
This file says what that can be, and picks out of a scan's actions those about one number.

* `Action.packet?`, `Action.warning?`, `Action.seq` — what an action hands to the link or complains
  about, and the number it is about.
* **`Unacked.scan_cases`** — nothing, a complaint, or one more transmission.
* `Unacked.IsResent`, `Unacked.IsGivenUp` — which of these it is; `Sender.packets_scan` and
  `Sender.warnings_scan` pick out the packets it is done to.
* `Sender.mem_scan` — every packet after a scan is one from before it, scanned.
* `Sender.filter_scan_of_mem`, `Sender.filter_scan_of_notMem` — the actions about one number.
* `Timer.resume_cases` — a turn of the timer is a scan, or leaves the sender alone.
* `Timer.resume_starting`, `Timer.resume_sleeping` — the turns of a timer whose sender is at work.
-/

namespace ReliableTransfer

namespace Action

/-- The number an action is about. -/
def seq : Action → UInt32
  | transmit p => p.seq
  | retransmit p => p.seq
  | giveUp _ seq => seq

/-- The packet that is handed to the link. -/
def packet? : Action → Option Packet
  | transmit p => some p
  | retransmit p => some p
  | giveUp _ _ => none

/-- The number that is given up. -/
def warning? : Action → Option UInt32
  | giveUp _ seq => some seq
  | _ => none

lemma seq_of_packet? : ∀ {action : Action} {p : Packet}, action.packet? = some p →
    p.seq = action.seq
  | transmit _, _, h => by cases h; rfl
  | retransmit _, _, h => by cases h; rfl

lemma seq_of_warning? : ∀ {action : Action} {seq : UInt32}, action.warning? = some seq →
    seq = action.seq
  | giveUp _ _, _, h => by cases h; rfl

/-- What actions have of one number are the actions about it. -/
lemma filter_filterMap {β : Type} {part : Action → Option β} {key : β → UInt32}
    (h : ∀ {action x}, part action = some x → key x = action.seq) (actions : List Action)
    (seq : UInt32) :
    (actions.filterMap part).filter (key · = seq)
      = (actions.filter (·.seq = seq)).filterMap part := by
  rw [List.filter_filterMap, List.filterMap_filter]
  refine List.filterMap_congr fun action _ => ?_
  cases hx : part action with
  | none => simp
  | some x =>
      rw [Option.filter_some]
      simp [h hx]

end Action

namespace Unacked

/-- A scan sends the packet again: it is overdue and has retries left. -/
def IsResent (settings : Settings) (now : Int) (r : Unacked) : Prop :=
  settings.timeout < now - r.lastSent ∧ (r.retries : Int) < settings.maxRetries

/-- A scan complains about the packet: it is overdue, has no retries left, and was not complained
about so far. -/
def IsGivenUp (settings : Settings) (now : Int) (r : Unacked) : Prop :=
  settings.timeout < now - r.lastSent ∧ settings.maxRetries ≤ r.retries ∧ r.reported = false

section

variable (settings : Settings) (now : Int) (r : Unacked)

/-- Whether a packet is sent again can be computed. -/
instance : Decidable (r.IsResent settings now) := inferInstanceAs (Decidable (_ ∧ _))

/-- Whether a packet is given up can be computed. -/
instance : Decidable (r.IsGivenUp settings now) := inferInstanceAs (Decidable (_ ∧ _))

/-- All that a scan does with a packet is settled by the two. -/
lemma scan_eq : r.scan settings now
    = if r.IsResent settings now then
        ({ r with lastSent := now, retries := r.retries + 1 }, [.retransmit r.packet])
      else if r.IsGivenUp settings now then
        ({ r with reported := true }, [.giveUp settings.maxRetries r.seq])
      else (r, []) := by
  rw [scan]
  by_cases hdue : now - r.lastSent ≤ settings.timeout
  · have hresent : ¬ r.IsResent settings now := fun h => Int.not_le.2 h.1 hdue
    have hgivenUp : ¬ r.IsGivenUp settings now := fun h => Int.not_le.2 h.1 hdue
    rw [if_pos hdue, if_neg hresent, if_neg hgivenUp]
  · have hlate := Int.not_le.1 hdue
    rw [if_neg hdue]
    by_cases hused : (r.retries : Int) ≥ settings.maxRetries
    · have hresent : ¬ r.IsResent settings now := fun h => Int.not_le.2 h.2 hused
      rw [if_pos hused, if_neg hresent]
      by_cases hreported : r.reported = true
      · have hgivenUp : ¬ r.IsGivenUp settings now := fun h =>
          absurd (hreported.symm.trans h.2.2) nofun
        rw [if_pos hreported, if_neg hgivenUp]
      · have hgivenUp : r.IsGivenUp settings now :=
          ⟨hlate, hused, Bool.eq_false_iff.2 hreported⟩
        rw [if_neg hreported, if_pos hgivenUp]
    · have hresent : r.IsResent settings now := ⟨hlate, Int.not_le.1 hused⟩
      rw [if_neg hused, if_pos hresent]

end

/-- **One packet in a scan.**  It is left alone while its time has not passed, and for good once
it was complained about; it is complained about when its retries are used up; else it is sent
again. -/
lemma scan_cases (settings : Settings) (now : Int) (r : Unacked) :
    r.scan settings now = (r, []) ∨
    (settings.maxRetries ≤ r.retries ∧ r.reported = false ∧
      r.scan settings now
        = ({ r with reported := true }, [.giveUp settings.maxRetries r.seq])) ∨
    (settings.timeout < now - r.lastSent ∧ (r.retries : Int) < settings.maxRetries ∧
      r.scan settings now
        = ({ r with lastSent := now, retries := r.retries + 1 }, [.retransmit r.packet])) := by
  rw [scan_eq]
  split_ifs with hresent hgivenUp
  · exact .inr (.inr ⟨hresent.1, hresent.2, rfl⟩)
  · exact .inr (.inl ⟨hgivenUp.2.1, hgivenUp.2.2, rfl⟩)
  · exact .inl rfl

/-- All that a scan does with a packet is about that packet's number. -/
lemma seq_of_mem_scan {settings : Settings} {now : Int} {r : Unacked} {a : Action}
    (h : a ∈ (r.scan settings now).2) : a.seq = r.seq := by
  rcases scan_cases settings now r with hs | ⟨_, _, hs⟩ | ⟨_, _, hs⟩
  · rw [hs] at h
    exact absurd h List.not_mem_nil
  · rw [hs] at h
    rw [List.mem_singleton.1 h]
    rfl
  · rw [hs] at h
    rw [List.mem_singleton.1 h]
    rfl

/-- A scan hands a packet to the link only to send it again, as it is. -/
lemma packet_of_mem_scan {settings : Settings} {now : Int} {r : Unacked} {a : Action} {p : Packet}
    (ha : a ∈ (r.scan settings now).2) (hp : a.packet? = some p) :
    p = r.packet ∧ a.isRetransmit = true := by
  rcases scan_cases settings now r with hs | ⟨_, _, hs⟩ | ⟨_, _, hs⟩
  · rw [hs] at ha
    exact absurd ha List.not_mem_nil
  · rw [hs] at ha
    rw [List.mem_singleton.1 ha] at hp
    cases hp
  · rw [hs] at ha
    rw [List.mem_singleton.1 ha] at hp ⊢
    cases hp
    exact ⟨rfl, rfl⟩

/-- Scanning packets with other numbers does nothing about a number. -/
lemma filter_scans (settings : Settings) (now : Int) {records : List Unacked} {seq : UInt32}
    (h : ∀ r ∈ records, r.seq ≠ seq) :
    (records.flatMap fun r => (r.scan settings now).2).filter (·.seq = seq) = [] := by
  rw [List.filter_eq_nil_iff]
  intro a ha
  obtain ⟨r, hr, ha⟩ := List.mem_flatMap.1 ha
  rw [seq_of_mem_scan ha, decide_eq_true_eq]
  exact h r hr

/-! ### Which packets a scan is about -/

section

variable (settings : Settings) (now : Int) (r : Unacked)

lemma retries_scan : (r.scan settings now).1.retries
    = if r.IsResent settings now then r.retries + 1 else r.retries := by
  rw [scan_eq]
  split_ifs <;> rfl

lemma lastSent_scan : (r.scan settings now).1.lastSent
    = if r.IsResent settings now then now else r.lastSent := by
  rw [scan_eq]
  split_ifs <;> rfl

lemma reported_scan : (r.scan settings now).1.reported = true
    ↔ r.reported = true ∨ r.IsGivenUp settings now := by
  rw [scan_eq]
  split_ifs with hresent hgivenUp
  · exact ⟨.inl, fun h => h.resolve_right fun hg => Int.not_le.2 hresent.2 hg.2.1⟩
  · exact ⟨fun _ => .inr hgivenUp, fun _ => rfl⟩
  · exact ⟨.inl, fun h => h.resolve_right hgivenUp⟩

lemma packets_scan : (r.scan settings now).2.filterMap Action.packet?
    = if r.IsResent settings now then [r.packet] else [] := by
  rw [scan_eq]
  split_ifs <;> rfl

lemma warnings_scan : (r.scan settings now).2.filterMap Action.warning?
    = if r.IsGivenUp settings now then [r.seq] else [] := by
  rw [scan_eq]
  split_ifs with hresent hgivenUp hgivenUp
  · exact absurd hgivenUp.2.1 (Int.not_le.2 hresent.2)
  · rfl
  · rfl
  · rfl

end

end Unacked

namespace Sender

variable {settings : Settings} {now : Int} {w : Sender}

lemma mem_scan {x : Unacked} :
    x ∈ (w.scan settings now).1.inFlight ↔ ∃ r ∈ w.inFlight, (r.scan settings now).1 = x := by
  simp [scan]

/-- The actions of a scan, packet by packet. -/
lemma actions_scan (settings : Settings) (now : Int) (w : Sender) :
    (w.scan settings now).2 = w.inFlight.flatMap fun r => (r.scan settings now).2 := by
  simp only [scan, List.flatMap_map]

/-- What a scan hands to the link: the packets that are due, in the order of their numbers. -/
lemma packets_scan (settings : Settings) (now : Int) (w : Sender) :
    (w.scan settings now).2.filterMap Action.packet?
      = (w.inFlight.filter (·.IsResent settings now)).map Unacked.packet := by
  rw [actions_scan]
  induction w.inFlight with
  | nil => rfl
  | cons r rest ih =>
      rw [List.flatMap_cons, List.filterMap_append, ih, Unacked.packets_scan, List.filter_cons]
      by_cases h : r.IsResent settings now
      · rw [if_pos h, if_pos (decide_eq_true h)]
        rfl
      · rw [if_neg h, if_neg (by simpa using h)]
        rfl

/-- What a scan complains about, in the same order. -/
lemma warnings_scan (settings : Settings) (now : Int) (w : Sender) :
    (w.scan settings now).2.filterMap Action.warning?
      = (w.inFlight.filter (·.IsGivenUp settings now)).map Unacked.seq := by
  rw [actions_scan]
  induction w.inFlight with
  | nil => rfl
  | cons r rest ih =>
      rw [List.flatMap_cons, List.filterMap_append, ih, Unacked.warnings_scan, List.filter_cons]
      by_cases h : r.IsGivenUp settings now
      · rw [if_pos h, if_pos (decide_eq_true h)]
        rfl
      · rw [if_neg h, if_neg (by simpa using h)]
        rfl

/-- Whatever a scan hands to the link is in flight. -/
lemma packet_mem_of_mem_scan {p : Packet}
    (h : p ∈ (w.scan settings now).2.filterMap Action.packet?) :
    p ∈ w.inFlight.map Unacked.packet := by
  obtain ⟨a, ha, hp⟩ := List.mem_filterMap.1 h
  rw [actions_scan, List.mem_flatMap] at ha
  obtain ⟨r, hr, ha⟩ := ha
  rw [(Unacked.packet_of_mem_scan ha hp).1]
  exact List.mem_map_of_mem hr

/-- All packets a scan hands to the link are counted as sent again. -/
lemma length_packets_scan (settings : Settings) (now : Int) (w : Sender) :
    ((w.scan settings now).2.filterMap Action.packet?).length
      = (w.scan settings now).2.countP Action.isRetransmit := by
  rw [List.length_filterMap_eq_countP]
  refine List.countP_congr fun a ha => ?_
  rw [actions_scan, List.mem_flatMap] at ha
  obtain ⟨r, _, ha⟩ := ha
  constructor
  · intro hsome
    obtain ⟨p, hp⟩ := Option.isSome_iff_exists.1 hsome
    exact (Unacked.packet_of_mem_scan ha hp).2
  · intro hretransmit
    cases a with
    | retransmit p => rfl
    | transmit | giveUp => cases hretransmit

/-- A scan does nothing about a number that is not in flight. -/
lemma filter_scan_of_notMem (settings : Settings) (now : Int) {seq : UInt32} (h : seq ∉ w.numbers) :
    (w.scan settings now).2.filter (·.seq = seq) = [] := by
  rw [actions_scan]
  refine Unacked.filter_scans settings now fun r hr hseq => h ?_
  rw [← hseq]
  exact List.mem_map_of_mem hr

/-- About a number in flight, a scan does what it does with the packet of that number. -/
lemma filter_scan_of_mem (settings : Settings) (now : Int) {r : Unacked} (hr : r ∈ w.inFlight)
    (hnodup : w.numbers.Nodup) :
    (w.scan settings now).2.filter (·.seq = r.seq) = (r.scan settings now).2 := by
  obtain ⟨before, behind, hsplit⟩ := List.append_of_mem hr
  have hothers : ∀ x ∈ before ++ behind, x.seq ≠ r.seq := by
    rw [numbers, hsplit, List.map_append, List.map_cons, List.nodup_middle, ← List.map_append,
      List.nodup_cons] at hnodup
    intro x hx hseq
    exact hnodup.1 (hseq ▸ List.mem_map_of_mem hx)
  have hbefore := Unacked.filter_scans settings now
    fun x hx => hothers x (List.mem_append_left behind hx)
  have hbehind := Unacked.filter_scans settings now
    fun x hx => hothers x (List.mem_append_right before hx)
  have hall : (r.scan settings now).2.filter (·.seq = r.seq) = (r.scan settings now).2 := by
    rw [List.filter_eq_self]
    intro a ha
    rw [Unacked.seq_of_mem_scan ha, decide_eq_true_eq]
  rw [actions_scan, hsplit, List.flatMap_append, List.flatMap_cons, List.filter_append,
    List.filter_append, hbefore, hbehind, hall, List.nil_append, List.append_nil]

end Sender

/-- **A turn of the timer** leaves the sender alone, or it is a scan by a sender that is at work. -/
lemma Timer.resume_cases (settings : Settings) (now : Int) (w : Sender) (t : Timer) :
    (∃ t', t.resume settings now w = (t', w, []) ∧ (t = .ended → t' = .ended)) ∨
    (w.running = true ∧ t ≠ .ended ∧
      ∃ t', t.resume settings now w = (t', w.scan settings now)) := by
  cases t with
  | starting => exact .inl ⟨next settings now w, rfl, nofun⟩
  | ended => exact .inl ⟨ended, rfl, fun _ => rfl⟩
  | sleeping wake notified =>
      rw [resume]
      split_ifs with hstopped hearly
      · exact .inl ⟨ended, rfl, nofun⟩
      · exact .inl ⟨sleeping wake false, rfl, nofun⟩
      · rw [Bool.not_eq_true', Bool.not_eq_false] at hstopped
        exact .inr ⟨hstopped, nofun, _, rfl⟩

/-- The timer of a sender at work goes to sleep when it starts, and after every scan. -/
lemma Timer.resume_starting {settings : Settings} {now : Int} {w : Sender}
    (hrunning : w.running = true) :
    Timer.starting.resume settings now w = (.sleeping (now + settings.poll) false, w, []) := by
  rw [resume, next, if_pos hrunning]

lemma Timer.resume_sleeping {settings : Settings} {now wake : Int} {w : Sender}
    {notified : Bool} (hrunning : w.running = true) (hdue : wake ≤ now) :
    (Timer.sleeping wake notified).resume settings now w
      = (.sleeping (now + settings.poll) false, (w.scan settings now).1,
        (w.scan settings now).2) := by
  rw [resume, hrunning, if_neg (by decide), if_neg (Int.not_lt.2 hdue)]
  dsimp only
  rw [next, if_pos (show (w.scan settings now).1.running = true from hrunning)]

end ReliableTransfer
