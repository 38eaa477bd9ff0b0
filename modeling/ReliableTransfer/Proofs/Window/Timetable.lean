import Mathlib.Order.Bounds.Basic
import ReliableTransfer.Proofs.Window.Scan

/-!
# When a packet is sent again

Scans come at the multiples of the poll interval, and a packet is overdue when strictly more than
the timeout has passed since it was last sent.  So the times at which it is sent again follow from
the time at which it was first sent, and from nothing else.

* `Settings.dueAfter` — the first scan that finds a packet overdue.
* `Settings.resendTime`, `Settings.timetable` — all the times at which a packet is sent.
* `Unacked.Keeps` — a packet in flight that has kept its timetable.
* **`Unacked.Keeps.scan`** — a scan keeps it.
* `Unacked.Keeps.calls_eq`, `Unacked.Keeps.complaints_eq` — what has been done with such a packet.
-/

namespace ReliableTransfer

/-- Between two neighbouring multiples there is none. -/
lemma le_of_dvd_of_sub_lt {a b c : Int} (hc : 1 ≤ c) (ha : c ∣ a) (hb : c ∣ b) (h : a - c < b) :
    a ≤ b := by
  obtain ⟨m, rfl⟩ := ha
  obtain ⟨n, rfl⟩ := hb
  have hlt : c * (m - 1) < c * n := by
    rw [Int.mul_sub, Int.mul_one]
    exact h
  have hle : m - 1 < n := Int.lt_of_mul_lt_mul_left hlt (by omega)
  exact Int.mul_le_mul_of_nonneg_left (by omega) (by omega)

namespace Settings

/-- **The first scan** that finds a packet overdue which was last sent at this time. -/
def dueAfter (settings : Settings) (time : Int) : Int :=
  ((time + settings.timeout) / settings.poll + 1) * settings.poll

/-- When a packet that was first sent at `time` has been sent again so many times, or would be. -/
def resendTime (settings : Settings) (time : Int) : Nat → Int
  | 0 => time
  | i + 1 => settings.dueAfter (settings.resendTime time i)

/-- **The times** up to `now` at which a packet is sent that was first sent at `time`. -/
def timetable (settings : Settings) (time now : Int) : List Int :=
  ((List.range (settings.maxRetries.toNat + 1)).map (settings.resendTime time)).filter (· ≤ now)

/-- When a packet that was first sent at `time` is complained about. -/
def warningTime (settings : Settings) (time : Int) : Int :=
  settings.resendTime time (settings.maxRetries.toNat + 1)

variable {settings : Settings} (hpoll : 1 ≤ settings.poll)
include hpoll

/-- It is the smallest multiple of the poll interval beyond the timeout. -/
lemma isLeast_dueAfter (time : Int) :
    IsLeast {t | settings.poll ∣ t ∧ time + settings.timeout < t} (settings.dueAfter time) := by
  refine ⟨⟨Int.dvd_mul_left _ _, Int.lt_ediv_add_one_mul_self _ (by omega)⟩, ?_⟩
  rintro t ⟨⟨m, rfl⟩, hlt⟩
  rw [Int.mul_comm] at hlt ⊢
  have hdiv := Int.ediv_lt_of_lt_mul (by omega) hlt
  exact Int.mul_le_mul_of_nonneg_right (by omega) (by omega)

lemma dvd_resendTime_succ (time : Int) (i : Nat) :
    settings.poll ∣ settings.resendTime time (i + 1) :=
  (isLeast_dueAfter hpoll _).1.1

lemma lt_resendTime_succ (time : Int) (i : Nat) :
    settings.resendTime time i + settings.timeout < settings.resendTime time (i + 1) :=
  (isLeast_dueAfter hpoll _).1.2

variable (htimeout : 0 ≤ settings.timeout)
include htimeout

lemma resendTime_le_resendTime (time : Int) {i j : Nat} (h : i ≤ j) :
    settings.resendTime time i ≤ settings.resendTime time j := by
  induction j, h using Nat.le_induction with
  | base => exact Int.le_refl _
  | succ j _ ih =>
      have hlt := lt_resendTime_succ hpoll time j
      omega

/-- The timetable up to a time between two neighbouring entries. -/
lemma timetable_eq {time now : Int} {i : Nat} (hle : i ≤ settings.maxRetries.toNat)
    (hpast : settings.resendTime time i ≤ now)
    (hahead : i = settings.maxRetries.toNat ∨ now < settings.resendTime time (i + 1)) :
    settings.timetable time now = (List.range (i + 1)).map (settings.resendTime time) := by
  obtain ⟨k, hk⟩ := Nat.exists_eq_add_of_le hle
  have hsplit : settings.maxRetries.toNat + 1 = (i + 1) + k := by omega
  rw [timetable, hsplit, List.range_add, List.map_append, List.filter_append,
    List.filter_eq_self.2, List.filter_eq_nil_iff.2, List.append_nil]
  · intro t ht
    simp only [List.map_map, List.mem_map, List.mem_range, Function.comp_apply] at ht
    obtain ⟨j, hj, rfl⟩ := ht
    have hle' : settings.resendTime time (i + 1) ≤ settings.resendTime time (i + 1 + j) :=
      resendTime_le_resendTime hpoll htimeout time (by omega)
    rw [decide_eq_true_eq]
    rcases hahead with hlast | hahead
    · omega
    · omega
  · intro t ht
    obtain ⟨j, hj, rfl⟩ := List.mem_map.1 ht
    have hle' : settings.resendTime time j ≤ settings.resendTime time i :=
      resendTime_le_resendTime hpoll htimeout time (by rw [List.mem_range] at hj; omega)
    exact decide_eq_true (by omega)

end Settings

namespace Unacked

/-- **A packet in flight that has kept its timetable**: it was first sent at `time`, it was sent
again `i` times, and all that was to happen before the scan at `wake` has happened. -/
structure Keeps (settings : Settings) (time : Int) (p : Packet) (wake : Int) (i : Nat)
    (r : Unacked) : Prop where
  packet_eq : r.packet = p
  retries_eq : r.retries = i
  lastSent_eq : r.lastSent = settings.resendTime time i
  retries_le : i ≤ settings.maxRetries.toNat
  past : settings.resendTime time i < wake
  ahead : r.reported = false → wake ≤ settings.resendTime time (i + 1)
  behind : r.reported = true →
    i = settings.maxRetries.toNat ∧ settings.resendTime time (i + 1) < wake

/-- What the link was called with for a packet that was sent again `i` times. -/
def calls (settings : Settings) (time : Int) (p : Packet) (i : Nat) : List (Int × Packet) :=
  ((List.range (i + 1)).map (settings.resendTime time)).map (·, p)

/-- What was complained about such a packet. -/
def complaints (settings : Settings) (time : Int) (i : Nat) (r : Unacked) : List (Int × UInt32) :=
  if r.reported then [(settings.resendTime time (i + 1), r.seq)] else []

lemma calls_succ (settings : Settings) (time : Int) (p : Packet) (i : Nat) :
    calls settings time p (i + 1)
      = calls settings time p i ++ [(settings.resendTime time (i + 1), p)] := by
  simp [calls, List.range_succ]

namespace Keeps

variable {settings : Settings} {time : Int} {p : Packet} {wake : Int} {i : Nat} {r : Unacked}

section

variable (hpoll : 1 ≤ settings.poll) (htimeout : 0 ≤ settings.timeout)
include hpoll htimeout

/-- A packet that was just sent has kept it. -/
lemma fresh (hwake : settings.poll ∣ wake) (hlt : time < wake) (hle : wake - settings.poll ≤ time)
    (p : Packet) : Keeps settings time p wake 0 { packet := p, lastSent := time } := by
  refine ⟨rfl, rfl, rfl, Nat.zero_le _, hlt, fun _ => ?_, nofun⟩
  have hdue := Settings.lt_resendTime_succ hpoll time 0
  refine le_of_dvd_of_sub_lt hpoll hwake (Settings.dvd_resendTime_succ hpoll time 0) ?_
  rw [Settings.resendTime] at hdue
  omega

/-- **A scan** sends a packet again, and complains about it, just when its timetable says so. -/
lemma scan (hwake : settings.poll ∣ wake) (hk : r.Keeps settings time p wake i) :
    ∃ i', (r.scan settings wake).1.Keeps settings time p (wake + settings.poll) i' ∧
      calls settings time p i'
        = calls settings time p i
          ++ ((r.scan settings wake).2.filterMap Action.packet?).map (wake, ·) ∧
      complaints settings time i' (r.scan settings wake).1
        = complaints settings time i r
          ++ ((r.scan settings wake).2.filterMap Action.warning?).map (wake, ·) := by
  obtain ⟨hpacket, hretries, hlast, hle, hpast, hahead, hbehind⟩ := hk
  have hdue := Settings.isLeast_dueAfter hpoll (settings.resendTime time i)
  have hlater := Settings.lt_resendTime_succ hpoll time (i + 1)
  have hdvd := Settings.dvd_resendTime_succ hpoll time
  have hnext : settings.poll ∣ wake + settings.poll := Int.dvd_add hwake (Int.dvd_refl _)
  rw [Unacked.scan]
  split_ifs with hearly hused hreported
  · -- its time has not come, and the next scan is not beyond it
    refine ⟨i, ⟨hpacket, hretries, hlast, hle, by omega, fun hreported => ?_, fun hreported => ?_⟩,
      by simp, by simp⟩
    · refine le_of_dvd_of_sub_lt hpoll hnext (hdvd i) ?_
      have hlt := Settings.lt_resendTime_succ hpoll time i
      omega
    · obtain ⟨hall, hlt⟩ := hbehind hreported
      exact ⟨hall, by omega⟩
  · exact ⟨i, ⟨hpacket, hretries, hlast, hle, by omega, fun h => absurd h (by simp [hreported]),
      fun _ => ⟨(hbehind hreported).1, by have := (hbehind hreported).2; omega⟩⟩, by simp, by simp⟩
  · rw [Bool.not_eq_true] at hreported
    -- its time is this scan
    have hnow : settings.resendTime time (i + 1) = wake :=
      Int.le_antisymm (hdue.2 ⟨hwake, by omega⟩) (hahead hreported)
    refine ⟨i, ⟨hpacket, hretries, hlast, hle, by omega, by simp, fun _ => ⟨by omega, by omega⟩⟩,
      by simp [Action.packet?], ?_⟩
    simp [complaints, hreported, Action.warning?, hnow, Unacked.seq]
  · have hreported : r.reported = false := by
      refine Bool.eq_false_iff.2 fun hreported => hused ?_
      have hall := (hbehind hreported).1
      omega
    have hnow : settings.resendTime time (i + 1) = wake :=
      Int.le_antisymm (hdue.2 ⟨hwake, by omega⟩) (hahead hreported)
    refine ⟨i + 1, ⟨hpacket, by simp [hretries], hnow.symm, by omega, by omega, fun _ => ?_,
      fun h => absurd h (by simp [hreported])⟩, ?_, ?_⟩
    · refine le_of_dvd_of_sub_lt hpoll hnext (hdvd (i + 1)) ?_
      omega
    · simp [calls_succ, Action.packet?, hnow, hpacket]
    · simp [complaints, hreported, Action.warning?]

/-! ## What has been done -/

variable {now : Int} (hk : r.Keeps settings time p wake i) (hwake : settings.poll ∣ wake)
  (hlt : now < wake) (hle : wake - settings.poll ≤ now)
include hk hwake hlt hle

/-- **It was sent at the times of its timetable** so far. -/
lemma calls_eq (hsent : time ≤ now) :
    calls settings time p i = (settings.timetable time now).map (·, p) := by
  rw [calls, Settings.timetable_eq hpoll htimeout hk.retries_le]
  · cases i with
    | zero => exact hsent
    | succ i =>
        have hpast := hk.past
        refine Int.not_lt.1 fun hbeyond => ?_
        have hmultiple := le_of_dvd_of_sub_lt hpoll hwake
          (Settings.dvd_resendTime_succ hpoll time i) (by omega)
        omega
  · cases hreported : r.reported with
    | true => exact .inl (hk.behind hreported).1
    | false =>
        have hahead := hk.ahead hreported
        exact .inr (by omega)

/-- **It was complained about** once its time had come. -/
lemma complaints_eq : complaints settings time i r
    = if settings.warningTime time ≤ now then [(settings.warningTime time, p.seq)] else [] := by
  rw [complaints, Unacked.seq, hk.packet_eq]
  cases hreported : r.reported with
  | true =>
      obtain ⟨rfl, hbehind⟩ := hk.behind hreported
      rw [if_pos rfl, Settings.warningTime, if_pos]
      refine Int.not_lt.1 fun hbeyond => ?_
      have hmultiple := le_of_dvd_of_sub_lt hpoll hwake
        (Settings.dvd_resendTime_succ hpoll time settings.maxRetries.toNat) (by omega)
      omega
  | false =>
      have hahead := hk.ahead hreported
      have hlast : settings.resendTime time (i + 1) ≤ settings.warningTime time :=
        Settings.resendTime_le_resendTime hpoll htimeout time (by have := hk.retries_le; omega)
      rw [if_neg Bool.false_ne_true, if_neg (by omega)]

end

end Keeps

end Unacked

end ReliableTransfer
