import ReliableTransfer.Proofs.Schedule

/-!
# A clock that stops on the way

A jump of the clock goes to the next time a task waits for.  A clock that may also stop on the way
shows the same turns at the same times, so two such runs from one state that have come to rest
differ in nothing but the clock.

* `System.Clocked` — what the tasks wait for does not depend on the clock.
* `System.Drift` — a turn, or the clock moves on, but not beyond what a task waits for.
* `System.exists_passes_of_drifts` — where a run gets that way, it gets by turns and jumps, the
  clock apart.
* **`System.eq_of_drifts`** — two runs that have come to rest.
-/

namespace ReliableTransfer.System

variable {σ : Type} (sys : System σ) {limit : Int} {s s' c d : σ}

/-- **What the tasks wait for does not depend on the clock**, which can be moved on in parts. -/
structure Clocked : Prop where
  now_advanceTo : ∀ {time s}, sys.now s ≤ time → sys.now (sys.advanceTo time s) = time
  tasks_advanceTo : ∀ time s, sys.tasks (sys.advanceTo time s) = sys.tasks s
  advanceTo_advanceTo : ∀ {time time'} s, time ≤ time' →
    sys.advanceTo time' (sys.advanceTo time s) = sys.advanceTo time' s

/-- The clock of a system without a ready task may stand at this time next. -/
structure Floats (limit : Int) (s : σ) (time : Int) : Prop where
  idle : sys.Idle s
  later : sys.now s ≤ time
  within : time ≤ limit
  before : ∀ due, .dueAt due ∈ sys.tasks s → time ≤ due

/-- **A turn, or the clock moves on**, but not beyond what a task waits for. -/
inductive Drift (limit : Int) : σ → σ → Prop
  /-- The first ready task takes its turn. -/
  | turn {s i} (ready : sys.firstReady? s = some i) : Drift limit s (sys.resume i s)
  /-- The clock moves on. -/
  | float {s time} (floats : sys.Floats limit s time) : Drift limit s (sys.advanceTo time s)

/-- A run in which the clock may stop on the way. -/
abbrev Drifts (limit : Int) : σ → σ → Prop :=
  Relation.ReflTransGen (sys.Drift limit)

/-- The second state is the first, the clock apart. -/
def Trails (limit : Int) (d c : σ) : Prop :=
  c = d ∨ ∃ time, sys.Floats limit d time ∧ c = sys.advanceTo time d

variable {sys}

/-- When a task is ready, a clock that stopped on the way stands where the jump goes. -/
lemma Floats.step? (hclocked : sys.Clocked) {time : Int} (hf : sys.Floats limit d time) {i : Nat}
    (hready : sys.firstReady? (sys.advanceTo time d) = some i) :
    sys.step? (some limit) d = some (sys.advanceTo time d) := by
  obtain ⟨r, hr, hnow⟩ := sys.ready_of_firstReady? hready
  rw [hclocked.tasks_advanceTo] at hr
  rw [hclocked.now_advanceTo hf.later] at hnow
  have hmem : r ∈ sys.tasks d := List.mem_of_getElem? hr
  have hnot := hf.idle.not_ready hmem
  cases r with
  | ready => cases hnot
  | held => cases hnow
  | dueAt due =>
      obtain ⟨first, hfirst⟩ := sys.exists_nextDue? hmem
      obtain ⟨hwaits, hleast⟩ := sys.mem_of_nextDue? hfirst
      have hle := hf.before first hwaits
      have hle' := hleast due hmem
      have hcome : due ≤ time := of_decide_eq_true hnow
      obtain rfl : first = time := by omega
      rw [System.step?, hf.idle, hfirst]
      exact if_pos (decide_eq_true hf.within)

/-- Where a run gets with a clock that may stop on the way, it gets by turns and jumps, the clock
apart. -/
lemma exists_passes_of_drifts (hclocked : sys.Clocked) (hdrifts : sys.Drifts limit s c) :
    ∃ d, sys.Passes (some limit) s d ∧ sys.Trails limit d c := by
  induction hdrifts with
  | refl => exact ⟨s, .refl, .inl rfl⟩
  | tail _ hdrift ih =>
      obtain ⟨d, hpasses, htrails⟩ := ih
      cases hdrift with
      | turn ready =>
          rcases htrails with rfl | ⟨time, hf, rfl⟩
          · exact ⟨_, hpasses.trans (sys.passes_resume _ ready), .inl rfl⟩
          · have hstep := hf.step? hclocked ready
            exact ⟨_, (hpasses.tail hstep).trans (sys.passes_resume _ ready), .inl rfl⟩
      | @float time floats =>
          rcases htrails with rfl | ⟨earlier, hf, rfl⟩
          · exact ⟨_, hpasses, .inr ⟨time, floats, rfl⟩⟩
          · have hlater := floats.later
            rw [hclocked.now_advanceTo hf.later] at hlater
            have hbefore := floats.before
            rw [hclocked.tasks_advanceTo] at hbefore
            exact ⟨d, hpasses, .inr ⟨time,
              ⟨hf.idle, Int.le_trans hf.later hlater, floats.within, hbefore⟩,
              hclocked.advanceTo_advanceTo d hlater⟩⟩

/-- What has come to rest had done so before the clock was moved on. -/
lemma Trails.step?_eq_none (hclocked : sys.Clocked) (htrails : sys.Trails limit d c)
    (hlast : sys.step? (some limit) c = none) : sys.step? (some limit) d = none := by
  rcases htrails with rfl | ⟨time, hf, rfl⟩
  · exact hlast
  · have hbeyond := (sys.step?_eq_none hlast).2
    rw [nextDue?, hclocked.tasks_advanceTo, ← nextDue?] at hbeyond
    rw [step?, hf.idle]
    cases hdue : sys.nextDue? d with
    | none => rfl
    | some due =>
        dsimp only
        rw [hbeyond due hdue, if_neg Bool.false_ne_true]

/-- **Two runs from one state that have come to rest** differ in nothing but the clock. -/
lemma eq_of_drifts (hclocked : sys.Clocked) {α : Type} {f : σ → α}
    (hf : ∀ time s, f (sys.advanceTo time s) = f s) (hc : sys.Drifts limit s c)
    (hlast : sys.step? (some limit) c = none) {c' : σ} (hc' : sys.Drifts limit s c')
    (hlast' : sys.step? (some limit) c' = none) : f c = f c' := by
  have trailed : ∀ {d c}, sys.Trails limit d c → f c = f d := by
    rintro d c (rfl | ⟨time, _, rfl⟩)
    · rfl
    · exact hf time d
  obtain ⟨d, hd, htrails⟩ := exists_passes_of_drifts hclocked hc
  obtain ⟨d', hd', htrails'⟩ := exists_passes_of_drifts hclocked hc'
  have hrest := htrails.step?_eq_none hclocked hlast
  have hrest' := htrails'.step?_eq_none hclocked hlast'
  obtain rfl : d = d' := ((hd'.to_last hd hrest).eq_of_last hrest')
  rw [trailed htrails, trailed htrails']

end ReliableTransfer.System
