import Mathlib.Algebra.Ring.Int.Defs
import ReliableTransfer.Proofs.Window.Wakeups

/-!
# The course of a session

A session follows its instructions one after the other, and between two of them its tasks take turns
until all are blocked.  This file lays out the states it passes on the way, one turn or jump of the
clock apart.

* `clock` — the time after some instructions.
* `Session.Stopping` — the sender was stopped, or is about to be.
* **`Session.Point`** — the states a session passes.
* `Session.Point.awake`, `Session.Point.inOrder` — what holds at all of them.
-/

namespace ReliableTransfer.Session

/-- The time an instruction takes. -/
def Instruction.span : Instruction → Int
  | call _ => 0
  | advance time => time

/-- The time after some instructions. -/
def clock (instructions : List Instruction) : Int :=
  (instructions.map Instruction.span).sum

@[simp] lemma clock_concat (done : List Instruction) (i : Instruction) :
    clock (done ++ [i]) = clock done + i.span := by
  simp [clock]

/-! ## The stop -/

/-- A stopped sender stays so, and the stop stops it. -/
lemma Moves.running_eq {s : Session} {before state : CallState} {sender : Sender} {timer : Timer}
    {actions : List Action} (hm : Moves s before state sender timer actions)
    (h : s.sender.running = false ∨ before = .starting .stop) : sender.running = false := by
  rcases h with hstopped | rfl
  · cases hm with
    | send _ hrunning =>
        rw [hrunning] at hstopped
        cases hstopped
    | stop | stopping => rfl
    | _ => exact hstopped
  · cases hm with
    | halt hasks => cases hasks
    | send hasks => cases hasks
    | block hasks => cases hasks
    | complete hawaits => cases hawaits
    | stop | stopping => rfl

/-- **The sender was stopped**, or is about to be. -/
def Stopping (s : Session) : Prop :=
  s.sender.running = false ∨ ∃ c ∈ s.calls, c.state = .starting .stop

namespace Stopping

variable {s s' : Session} {i : Nat} {c : Call} {state : CallState} {sender : Sender}
  {timer : Timer} {actions : List Action}

/-- A sender stays stopped, and a call that is to stop it is not forgotten. -/
lemma turned (h : s.Stopping) (hc : s.calls[i]? = some c)
    (hm : Moves s c.state state sender timer actions)
    (ht : Turned s i c state sender timer actions s') : s'.Stopping := by
  rcases h with hstopped | ⟨c', hc', hstop⟩
  · left
    rw [ht.sender_eq]
    exact hm.running_eq (.inl hstopped)
  · obtain ⟨j, hj⟩ := List.mem_iff_getElem?.1 hc'
    by_cases hij : j = i
    · obtain rfl : c = c' := Option.some.inj (hc.symm.trans (hij ▸ hj))
      left
      rw [ht.sender_eq]
      exact hm.running_eq (.inr hstop)
    · -- another call is as before, also if it is woken
      obtain ⟨c'', hc'', _, ⟨heq, _⟩ | ⟨_, hstate⟩⟩ := ht.exists_getElem? hj
      · exact absurd heq hij
      · rw [hstop] at hstate
        exact .inr ⟨c'', List.mem_of_getElem? hc'', hstate.elim id id⟩

/-- A turn of any task keeps the stop in sight. -/
lemma resume (h : s.Stopping) {task : Nat} (hfirst : system.firstReady? s = some task) :
    (system.resume task s).Stopping := by
  cases task with
  | zero =>
      obtain ⟨timer, sender, actions, hresume, ht⟩ := s.resumeTimer_eq
      show s.resumeTimer.Stopping
      rw [Stopping, ht.sender_eq, ht.calls_eq, (Timer.resume_running hresume).1]
      exact h
  | succ i =>
      obtain ⟨c, hc, _, hstate, _⟩ := exists_call_of_firstReady? hfirst
      obtain ⟨state, sender, timer, actions, hm, ht⟩ := resumeCall_eq hc hstate
      exact h.turned hc hm ht

/-- Where all tasks are blocked, the stop has happened. -/
lemma of_idle (h : s.Stopping) (hidle : system.Idle s) : s.sender.running = false := by
  rcases h with h | ⟨c, hc, hstop⟩
  · exact h
  · have hready := (not_ready_of_idle hidle).2 c hc
    rw [hstop] at hready
    cases hready

end Stopping

/-! ## The states on the way -/

/-- A session at the point where it begins with an instruction. -/
def enter (s : Session) (number : Nat) : Instruction → Session
  | .call op => { s with calls := s.calls ++ [⟨number, .starting op⟩] }
  | .advance _ => s

/-- **The states a session passes**, with the instructions it has followed or is following, and the
time up to which it runs before the next.  An instruction is only begun when nothing more happens up
to the time of the clock; the stop at the end has no such limit. -/
inductive Point (settings : Settings) (failing : List Nat) :
    List Instruction → Option Int → Session → Prop
  | start : Point settings failing [] (some 0) { settings, failing }
  | step {done : List Instruction} {limit : Option Int} {s s' : Session} :
      Point settings failing done limit s → system.step? limit s = some s' →
      Point settings failing done limit s'
  | settle {done : List Instruction} {time : Int} {s : Session} :
      Point settings failing done (some time) s → system.step? (some time) s = none →
      Point settings failing done (some time) { s with now := time }
  | instruct {done : List Instruction} {s : Session} (i : Instruction) :
      Point settings failing done (some s.now) s → system.step? (some s.now) s = none →
      Point settings failing (done ++ [i]) (some (s.now + i.span)) (s.enter done.length i)
  | finish {done : List Instruction} {s : Session} :
      Point settings failing done (some s.now) s → system.step? (some s.now) s = none →
      Point settings failing (done ++ [.call .stop]) none (s.enter done.length (.call .stop))

namespace Point

variable {settings : Settings} {failing : List Nat} {done : List Instruction} {limit : Option Int}
  {s s' : Session}

/-- The limit is the time of the clock. -/
lemma limit_eq (hp : Point settings failing done limit s) (time : Int) (h : limit = some time) :
    time = clock done := by
  induction hp generalizing time with
  | start => exact (Option.some.inj h).symm
  | step _ _ ih => exact ih time h
  | settle _ _ ih => exact ih time h
  | instruct i _ _ ih =>
      rw [clock_concat, ← ih _ rfl]
      exact (Option.some.inj h).symm
  | finish => cases h

/-- What every turn that is taken keeps, every change of the clock and every new call, holds at all
points. -/
lemma invariant {P : Session → Prop} (hstart : P { settings, failing })
    (hresume : ∀ task s, system.firstReady? s = some task → P s → P (system.resume task s))
    (hnow : ∀ (time : Int) (s : Session), P s → P { s with now := time })
    (hcall : ∀ (number : Nat) (op : Operation) (s : Session), P s →
      P { s with calls := s.calls ++ [⟨number, .starting op⟩] })
    (hp : Point settings failing done limit s) : P s := by
  have henter : ∀ (number : Nat) (i : Instruction) (s : Session), P s → P (s.enter number i) := by
    intro number i s hs
    cases i with
    | call op => exact hcall number op s hs
    | advance span => exact hs
  induction hp with
  | start => exact hstart
  | step _ hstep ih =>
      rcases system.step?_eq_some hstep with ⟨task, htask, rfl⟩ | ⟨time, _, _, _, rfl⟩
      · exact hresume task _ htask ih
      · exact hnow time _ ih
  | settle _ _ ih => exact hnow _ _ ih
  | instruct i _ _ ih => exact henter _ i _ ih
  | finish _ _ ih => exact henter _ _ _ ih

/-- **Nobody waits in vain** at any point. -/
lemma awake (hp : Point settings failing done limit s) : s.Awake :=
  hp.invariant ⟨nofun, nofun, fun _ => nofun⟩ (fun _ _ hfirst ha => ha.resume hfirst)
    (fun time _ ha => ha.setNow time) (fun number op _ ha => ha.call number op)

/-- **Nobody has jumped the queue** at any point. -/
lemma inOrder (hp : Point settings failing done limit s) : s.InOrder := by
  refine (hp.invariant (P := fun s => s.Awake ∧ s.InOrder) ⟨⟨nofun, nofun, fun _ => nofun⟩, ?_⟩
    ?_ ?_ ?_).2
  · exact ⟨rfl, rfl, rfl, nofun⟩
  · exact fun _ _ hfirst h => ⟨h.1.resume hfirst, h.2.resume h.1 hfirst⟩
  · exact fun time _ h => ⟨h.1.setNow time,
      ⟨h.2.returns_eq, h.2.seqs_eq, h.2.next_eq, h.2.lt_of_sends⟩⟩
  · exact fun number op _ h => ⟨h.1.call number op, h.2.call number op⟩

/-- The settings stay. -/
lemma settings_eq (hp : Point settings failing done limit s) : s.settings = settings := by
  refine hp.invariant (P := fun s => s.settings = settings) rfl ?_ (fun _ _ h => h)
    (fun _ _ _ h => h)
  intro task s hfirst h
  cases task with
  | zero =>
      obtain ⟨_, _, _, _, ht⟩ := s.resumeTimer_eq
      exact ht.settings_eq.trans h
  | succ i =>
      obtain ⟨c, hc, _, hstate, _⟩ := exists_call_of_firstReady? hfirst
      obtain ⟨_, _, _, _, _, ht⟩ := resumeCall_eq hc hstate
      exact ht.settings_eq.trans h

/-- A run passes points only. -/
lemma passes (hp : Point settings failing done limit s) (hpasses : system.Passes limit s s') :
    Point settings failing done limit s' := by
  induction hpasses with
  | refl => exact hp
  | tail _ hstep ih => exact ih.step hstep

/-- Only the stop at the end has no limit. -/
lemma stop_mem_of_none (hp : Point settings failing done limit s) (hlimit : limit = none) :
    .call .stop ∈ done := by
  induction hp with
  | start | settle | instruct => cases hlimit
  | step _ _ ih => exact ih hlimit
  | finish => exact List.mem_append_right _ (List.mem_singleton_self _)

/-- Once the stop is among the instructions, the sender was stopped or is about to be. -/
lemma stopping (hp : Point settings failing done limit s) (hstop : .call .stop ∈ done) :
    s.Stopping := by
  have henter : ∀ {s : Session} (number : Nat) (i : Instruction), s.Stopping →
      (s.enter number i).Stopping := by
    intro s number i h
    cases i with
    | call op => exact h.imp_right fun ⟨c, hc, hstate⟩ => ⟨c, List.mem_append_left _ hc, hstate⟩
    | advance span => exact h
  have hnew : ∀ (s : Session) (number : Nat), (s.enter number (.call .stop)).Stopping :=
    fun s number => .inr ⟨_, List.mem_append_right _ (List.mem_singleton_self _), rfl⟩
  induction hp with
  | start => cases hstop
  | step _ hstep ih =>
      rcases system.step?_eq_some hstep with ⟨task, htask, rfl⟩ | ⟨time, _, _, _, rfl⟩
      · exact (ih hstop).resume htask
      · exact ih hstop
  | settle _ _ ih => exact ih hstop
  | instruct i _ _ ih =>
      rcases List.mem_append.1 hstop with hstop | hstop
      · exact henter _ i (ih hstop)
      · rw [← List.mem_singleton.1 hstop]
        exact hnew _ _
  | finish => exact hnew _ _

end Point

end ReliableTransfer.Session
