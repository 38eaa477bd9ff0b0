import Mathlib.Algebra.Order.BigOperators.Group.List
import Mathlib.Algebra.Order.Group.Nat
import Mathlib.Tactic.Ring
import ReliableTransfer.Proofs.Window.Course

/-!
# Every instruction comes to its end

A session runs between two instructions with a bound on its turns.  The bound is never what ends
such a run: work is left at any time for a few turns only, every turn leaves less of it, and so does
every jump of the clock together with the time that is left.

* `Timer.work`, `CallState.work`, `Session.work` — the turns that can still be taken.
* `Session.rest` — the same, with the time that is left.
* **`Session.rest_lt_of_step?`** — every turn and every jump leaves less.
* `Session.Point.step?_run` — nothing more can happen when a run has ended.
* `Session.AtRest` — a session that is done with its instructions so far.
* `Session.AtRest.start`, **`Session.AtRest.follow`**, `Session.AtRest.finish` — a session comes to
  rest at its start and after every instruction, and to its end after the stop.
* `Session.AtRest.of_states` — the states of a session, each from the one before.
-/

namespace ReliableTransfer

/-- The turns that the timer can take before the clock moves. -/
def Timer.work (now : Int) : Timer → Nat
  | starting => 1
  | sleeping wake notified => if notified = true ∨ wake ≤ now then 1 else 0
  | ended => 0

/-- A bound on the turns that a call can still take, among so many others.  What a turn that wakes
the others costs is paid for by the call that wakes them. -/
def CallState.work (now : Int) (calls : Nat) : CallState → Nat
  | starting _ => calls + 4
  | sending _ _ notified => notified.toNat
  | awaiting deadline notified => if deadline ≤ now then 1 else 2 + notified.toNat
  | joining => 1
  | returned _ => 0

namespace Timer

/-- Being woken makes work for one turn. -/
lemma work_notify_le (now : Int) (t : Timer) : t.notify.work now ≤ t.work now + 1 := by
  cases t with
  | sleeping wake notified =>
      simp only [notify, work]
      split_ifs <;> omega
  | starting | ended => exact Nat.le_add_right _ 1

/-- Time makes work for one turn. -/
lemma work_le_add_one (now time : Int) (t : Timer) : t.work time ≤ t.work now + 1 := by
  cases t with
  | sleeping wake notified =>
      simp only [work]
      split_ifs <;> omega
  | starting | ended => exact Nat.le_add_right _ 1

/-- **A turn of the timer** leaves no work before the clock moves. -/
lemma work_resume_lt {settings : Settings} (hpoll : 1 ≤ settings.poll) {now : Int} {t : Timer}
    (hready : t.readiness.isReadyAt now = true) (w : Sender) :
    (t.resume settings now w).1.work now < t.work now := by
  have hnext : ∀ w, (next settings now w).work now = 0 := by
    intro w
    rw [next]
    split_ifs
    · rw [work, if_neg (by simp; omega)]
    · rfl
  cases t with
  | starting =>
      rw [resume, hnext]
      exact Nat.one_pos
  | sleeping wake notified =>
      have hpos : (sleeping wake notified).work now = 1 := by
        rw [work, if_pos]
        cases notified with
        | true => exact .inl rfl
        | false => exact .inr (of_decide_eq_true hready)
      rw [hpos, resume]
      split_ifs with hstopped hearly
      · exact Nat.one_pos
      · rw [work, if_neg (by simp; omega)]
        exact Nat.one_pos
      · exact Nat.lt_of_le_of_lt (Nat.le_of_eq (hnext _)) Nat.one_pos
  | ended => cases hready

end Timer

namespace CallState

/-- Being woken makes work for one turn. -/
lemma work_notify_le (now : Int) (calls : Nat) (state : CallState) :
    state.notify.work now calls ≤ state.work now calls + 1 := by
  cases state with
  | sending payload flags notified => cases notified <;> simp [notify, work]
  | awaiting deadline notified =>
      simp only [notify, work]
      split_ifs
      · omega
      · rw [Bool.toNat_true]
        omega
  | starting | joining | returned => exact Nat.le_add_right _ 1

/-- A call that has begun has little left to do. -/
lemma work_le_three (now : Int) (calls : Nat) {state : CallState}
    (h : ∀ op, state ≠ .starting op) :
    state.work now calls ≤ 3 := by
  cases state with
  | starting op => exact absurd rfl (h op)
  | sending payload flags notified => exact Nat.le_trans notified.toNat_le (by decide)
  | awaiting deadline notified =>
      rw [work]
      have hle := notified.toNat_le
      split_ifs <;> omega
  | joining => exact Nat.le_add_left 1 2
  | returned => exact Nat.zero_le 3

/-- Time makes no work. -/
lemma work_le_of_le {now time : Int} {calls : Nat} (h : now ≤ time) (state : CallState) :
    state.work time calls ≤ state.work now calls := by
  cases state with
  | awaiting deadline notified =>
      simp only [work]
      split_ifs <;> omega
  | _ => exact Nat.le_refl _

end CallState

namespace Session

variable {s s' : Session} {i : Nat} {c : Call} {state : CallState} {sender : Sender}
  {timer : Timer} {actions : List Action} {limit : Option Int}

/-- A bound on the turns that the calls can still take. -/
def callsWork (now : Int) (calls : List Call) : Nat :=
  (calls.map fun c => c.state.work now calls.length).sum

/-- **The turns that can still be taken** before the clock moves. -/
def work (s : Session) : Nat :=
  s.timer.work s.now + callsWork s.now s.calls

/-- **The turns and jumps** that can still come within a limit. -/
def rest (limit : Option Int) (s : Session) : Nat :=
  2 * (limit.elim 0 fun time => (time - s.now).toNat) + s.work

/-! ## Turns -/

/-- **A call that goes on** leaves less work, and one that wakes the others pays for it. -/
lemma Moves.work_lt (hm : Moves s c.state state sender timer actions)
    (hready : (c.state.readiness s.timer).isReadyAt s.now = true) (calls : Nat) :
    (c.state.wakes = false ∧ timer = s.timer ∧ state.work s.now calls < c.state.work s.now calls) ∨
    (c.state.wakes = true ∧ c.state.notify = c.state ∧
      state.work s.now calls + timer.work s.now + calls
        < c.state.work s.now calls + s.timer.work s.now) := by
  generalize c.state = before at hm hready ⊢
  have hasks : ∀ {payload : Bytes} {flags : Flags}, before.Asks s.settings payload flags →
      before.wakes = false ∧ 0 < before.work s.now calls := by
    intro payload flags hasks
    refine ⟨hasks.wakes_eq, ?_⟩
    cases before with
    | starting op => exact Nat.succ_pos _
    | sending payload flags notified =>
        cases notified with
        | true => exact Nat.one_pos
        | false => cases hready
    | awaiting | joining | returned => cases hasks
  have hawaits : before.awaits = true → before.wakes = false ∧ 0 < before.work s.now calls := by
    intro hawaits
    refine ⟨CallState.wakes_of_awaits hawaits, ?_⟩
    cases before with
    | starting op => exact Nat.succ_pos _
    | awaiting deadline notified =>
        rw [CallState.work]
        split_ifs <;> omega
    | sending | joining | returned => cases hawaits
  cases hm with
  | refuse => exact .inl ⟨rfl, rfl, Nat.succ_pos _⟩
  | halt h => exact .inl ⟨(hasks h).1, rfl, (hasks h).2⟩
  | send h => exact .inl ⟨(hasks h).1, rfl, (hasks h).2⟩
  | block h => exact .inl ⟨(hasks h).1, rfl, (hasks h).2⟩
  | acknowledge number =>
      refine .inr ⟨rfl, rfl, ?_⟩
      simp only [CallState.work]
      omega
  | complete h => exact .inl ⟨(hawaits h).1, rfl, (hawaits h).2⟩
  | expire => exact .inl ⟨(hawaits rfl).1, rfl, (hawaits rfl).2⟩
  | await timeout =>
      refine .inl ⟨rfl, rfl, ?_⟩
      simp only [CallState.work, Bool.toNat_false]
      split_ifs <;> omega
  | @resume deadline notified _ hdue =>
      -- the time is not up, so the call was woken
      have hnotified : notified = true := by
        cases notified with
        | true => rfl
        | false => exact absurd (of_decide_eq_true hready) (Int.not_le.2 hdue)
      refine .inl ⟨rfl, rfl, ?_⟩
      simp only [CallState.work, if_neg (Int.not_le.2 hdue), hnotified]
      decide
  | stop htimer =>
      refine .inr ⟨rfl, rfl, ?_⟩
      simp only [CallState.work, Timer.work]
      omega
  | stopping htimer =>
      have hnotify := s.timer.work_notify_le s.now
      refine .inr ⟨rfl, rfl, ?_⟩
      simp only [CallState.work]
      omega
  | join => exact .inl ⟨rfl, rfl, Nat.one_pos⟩

/-- The work of the calls, when one of them goes on. -/
lemma callsWork_modify {calls : List Call} (hc : calls[i]? = some c) (now : Int)
    (state : CallState) :
    callsWork now (calls.modify i fun c => { c with state }) + c.state.work now calls.length
      = callsWork now calls + state.work now calls.length := by
  obtain ⟨before, behind, hsplit, _, hmodify⟩ := exists_split hc
  rw [callsWork, callsWork, List.length_modify, hmodify]
  generalize calls.length = n
  rw [hsplit]
  simp only [List.map_append, List.map_cons, List.sum_append, List.sum_cons]
  omega

/-- The work of the calls, when all of them are woken. -/
lemma callsWork_notifyProgress_le (s : Session) :
    callsWork s.now s.notifyProgress.calls ≤ callsWork s.now s.calls + s.calls.length := by
  have hle : ∀ (n : Nat) (calls : List Call),
      (calls.map fun c => c.state.notify.work s.now n).sum
        ≤ (calls.map fun c => c.state.work s.now n).sum + calls.length := by
    intro n calls
    induction calls with
    | nil => exact Nat.le_refl _
    | cons c calls ih =>
        have hc := c.state.work_notify_le s.now n
        rw [List.map_cons, List.map_cons, List.sum_cons, List.sum_cons, List.length_cons]
        omega
  rw [notifyProgress, callsWork, callsWork, List.length_map, List.map_map]
  exact hle _ s.calls

/-- **A turn of a call** leaves less work. -/
lemma work_turned (hc : s.calls[i]? = some c)
    (hready : (c.state.readiness s.timer).isReadyAt s.now = true)
    (hm : Moves s c.state state sender timer actions)
    (ht : Turned s i c state sender timer actions s') : s'.work < s.work := by
  rw [work, work, ht.now_eq, ht.timer_eq, ht.calls_eq, woken]
  rcases hm.work_lt hready s.calls.length with ⟨hwakes, rfl, hlt⟩ | ⟨hwakes, hsame, hlt⟩
  · rw [if_neg (by simp [hwakes])]
    have hmodify := callsWork_modify hc s.now state
    omega
  · rw [if_pos hwakes]
    have hc' : s.notifyProgress.calls[i]? = some c := by
      rw [notifyProgress, List.getElem?_map, hc, Option.map_some, hsame]
    have hmodify := callsWork_modify hc' s.now state
    rw [show s.notifyProgress.calls.length = s.calls.length from List.length_map _] at hmodify
    have hwoken := callsWork_notifyProgress_le s
    omega

/-- **A turn of the timer** leaves less work. -/
lemma work_ticked (hpoll : 1 ≤ s.settings.poll)
    (hready : s.timer.readiness.isReadyAt s.now = true)
    (hresume : s.timer.resume s.settings s.now s.sender = (timer, sender, actions))
    (ht : Ticked s timer sender actions s') : s'.work < s.work := by
  have hlt : timer.work s.now < s.timer.work s.now := by
    rw [show timer = _ from (congrArg Prod.fst hresume).symm]
    exact Timer.work_resume_lt hpoll hready s.sender
  rw [work, work, ht.now_eq, ht.timer_eq, ht.calls_eq]
  omega

/-! ## Jumps of the clock -/

/-- Time makes no work for the calls. -/
lemma callsWork_le {now time : Int} (h : now ≤ time) (calls : List Call) :
    callsWork time calls ≤ callsWork now calls :=
  List.sum_le_sum fun c _ => c.state.work_le_of_le h

/-- Time makes work for one turn of the timer. -/
lemma work_setNow_le {time : Int} (h : s.now ≤ time) :
    ({ s with now := time } : Session).work ≤ s.work + 1 := by
  have htimer := s.timer.work_le_add_one s.now time
  have hcalls := callsWork_le h s.calls
  simp only [work]
  omega

/-- The time to which the clock jumps is one for which the timer or a call waits. -/
lemma due_cases {time : Int} (hidle : system.Idle s) (hdue : system.nextDue? s = some time) :
    s.now < time ∧
      (s.timer = .sleeping time false ∨ ∃ c ∈ s.calls, c.state = .awaiting time false) := by
  have hmem := (system.mem_of_nextDue? hdue).1
  have hlt : s.now < time := Int.not_le.1 (of_decide_eq_false (hidle.not_ready hmem))
  refine ⟨hlt, ?_⟩
  rcases List.mem_cons.1 hmem with htimer | hcall
  · left
    cases hstate : s.timer with
    | sleeping wake notified =>
        rw [hstate] at htimer
        cases notified <;> cases htimer
        rfl
    | starting | ended =>
        rw [hstate] at htimer
        cases htimer
  · right
    obtain ⟨c, hc, hcall⟩ := List.mem_map.1 hcall
    refine ⟨c, hc, ?_⟩
    cases hstate : c.state with
    | awaiting deadline notified =>
        rw [hstate] at hcall
        cases notified <;> cases hcall
        rfl
    | sending payload flags notified =>
        rw [hstate] at hcall
        cases notified <;> cases hcall
    | joining =>
        rw [hstate, CallState.readiness] at hcall
        split_ifs at hcall
    | starting | returned =>
        rw [hstate] at hcall
        cases hcall

/-- Once the sender is stopped, the clock only jumps for calls, and each jump leaves less work. -/
lemma work_jump (ha : s.Awake) (hstopping : s.Stopping) {time : Int} (hidle : system.Idle s)
    (hdue : system.nextDue? s = some time) :
    ({ s with now := time } : Session).work < s.work := by
  obtain ⟨hlt, hwho⟩ := due_cases hidle hdue
  have htimer := ha.blocked_timer (hstopping.of_idle hidle) (not_ready_of_idle hidle).1
  rw [htimer] at hwho
  obtain h | ⟨c, hc, hstate⟩ := hwho
  · cases h
  have hcalls : callsWork time s.calls < callsWork s.now s.calls := by
    refine List.sum_lt_sum _ _ (fun c _ => c.state.work_le_of_le (Int.le_of_lt hlt)) ⟨c, hc, ?_⟩
    rw [hstate, CallState.work, CallState.work, if_pos (Int.le_refl _),
      if_neg (Int.not_le.2 hlt)]
    decide
  simp only [work, htimer, Timer.work]
  omega

/-! ## Runs -/

/-- **Every turn and every jump** leaves less to come. -/
lemma rest_lt_of_step? (ha : s.Awake) (hpoll : 1 ≤ s.settings.poll)
    (hstopping : limit = none → s.Stopping) (hstep : system.step? limit s = some s') :
    rest limit s' < rest limit s := by
  rcases system.step?_eq_some hstep with ⟨task, htask, rfl⟩ | ⟨time, hidle, hdue, hwithin, rfl⟩
  · -- a turn takes no time
    obtain ⟨hnow, hwork⟩ : (system.resume task s).now = s.now ∧
        (system.resume task s).work < s.work := by
      cases task with
      | zero =>
          obtain ⟨timer, sender, actions, hresume, ht⟩ := s.resumeTimer_eq
          obtain ⟨r, hr, hready⟩ := system.ready_of_firstReady? htask
          rw [← show s.timer.readiness = r from Option.some.inj hr] at hready
          exact ⟨ht.now_eq, work_ticked hpoll hready hresume ht⟩
      | succ i =>
          obtain ⟨c, hc, hready, hstate, _⟩ := exists_call_of_firstReady? htask
          obtain ⟨state, sender, timer, actions, hm, ht⟩ := resumeCall_eq hc hstate
          exact ⟨ht.now_eq, work_turned hc hready hm ht⟩
    rw [rest, rest, hnow]
    omega
  · have hlt := (due_cases hidle hdue).1
    show rest limit { s with now := time } < rest limit s
    cases limit with
    | none =>
        have hwork := work_jump ha (hstopping rfl) hidle hdue
        simpa [rest] using hwork
    | some last =>
        have hle : time ≤ last := of_decide_eq_true hwithin
        have hwork := work_setNow_le (Int.le_of_lt hlt)
        simp only [rest, Option.elim_some]
        omega

/-- Calls that have begun have little work left, and a new one has some for each of them. -/
lemma work_enter_le (hbegun : ∀ c ∈ s.calls, ∀ op, c.state ≠ .starting op) (number : Nat)
    (i : Instruction) : (s.enter number i).work ≤ 4 * s.calls.length + 6 := by
  have hcalls : ∀ (n : Nat) (calls : List Call), calls ⊆ s.calls →
      (calls.map fun c => c.state.work s.now n).sum ≤ 3 * calls.length := by
    intro n calls hsub
    induction calls with
    | nil => exact Nat.le_refl _
    | cons c calls ih =>
        obtain ⟨hmem, hsub⟩ := List.cons_subset.1 hsub
        have hle := CallState.work_le_three s.now n (hbegun c hmem)
        have hrest := ih hsub
        rw [List.map_cons, List.sum_cons, List.length_cons]
        omega
  have htimer : s.timer.work s.now ≤ 1 := by
    cases s.timer with
    | sleeping wake notified =>
        rw [Timer.work]
        split_ifs <;> decide
    | starting => exact Nat.le_refl 1
    | ended => exact Nat.zero_le 1
  cases i with
  | call op =>
      have hle := hcalls (s.calls.length + 1) s.calls (List.Subset.refl _)
      have hnew :
          (CallState.starting op).work s.now (s.calls.length + 1) = s.calls.length + 5 := rfl
      simp only [enter, work, callsWork, List.length_append, List.length_singleton,
        List.map_append, List.map_cons, List.map_nil, List.sum_append, List.sum_cons,
        List.sum_nil, hnew]
      omega
  | advance span =>
      have hle := hcalls s.calls.length s.calls (List.Subset.refl _)
      simp only [enter, work, callsWork]
      omega

/-- The bound on the turns of a run is enough for the work and for the time. -/
lemma le_fuel_enter (hbegun : ∀ c ∈ s.calls, ∀ op, c.state ≠ .starting op) (number : Nat)
    (i : Instruction) (span : Int) :
    2 * span.toNat + (s.enter number i).work ≤ (s.enter number i).fuel span := by
  have hwork := work_enter_le hbegun number i
  have hlength : s.calls.length ≤ (s.enter number i).calls.length := by
    cases i with
    | call op => exact List.length_append ▸ Nat.le_add_right _ _
    | advance span => exact Nat.le_refl _
  rw [fuel]
  generalize (s.enter number i).calls.length = n at hlength ⊢
  have hproduct : 4 * (span.toNat + 2) * (n + 2)
      = 4 * (span.toNat * n) + 8 * span.toNat + 8 * n + 16 := by ring
  omega

/-- A turn takes no time, and in no time the clock does not jump. -/
lemma now_eq_of_passes {time : Int} (hnow : s.now = time)
    (hpasses : system.Passes (some time) s s') : s'.now = time := by
  induction hpasses with
  | refl => exact hnow
  | @tail s s' _ hstep ih =>
      rcases system.step?_eq_some hstep with ⟨task, htask, rfl⟩ | ⟨time', hidle, hdue, hwithin, rfl⟩
      · cases task with
        | zero =>
            obtain ⟨_, _, _, _, ht⟩ := s.resumeTimer_eq
            exact ht.now_eq.trans ih
        | succ i =>
            obtain ⟨c, hc, _, hstate, _⟩ := exists_call_of_firstReady? htask
            obtain ⟨_, _, _, _, _, ht⟩ := resumeCall_eq hc hstate
            exact ht.now_eq.trans ih
      · have hlt := (due_cases hidle hdue).1
        have hle : time' ≤ time := of_decide_eq_true hwithin
        omega

/-- Where nothing more can happen up to a time, nothing can happen at that time. -/
lemma step?_setNow {time : Int} (h : system.step? (some time) s = none) :
    system.step? (some time) { s with now := time } = none := by
  obtain ⟨hidle, hbeyond⟩ := system.step?_eq_none h
  have hidle' : system.Idle { s with now := time } := by
    rw [System.Idle, System.firstReady?, List.findIdx?_eq_none_iff]
    intro r hr
    have hready := hidle.not_ready hr
    cases r with
    | ready => cases hready
    | dueAt time' => exact decide_eq_false (Int.not_le.2 (system.lt_of_step?_eq_none h hr))
    | held => rfl
  rw [System.step?, hidle']
  cases hnext : system.nextDue? { s with now := time } with
  | none => rfl
  | some first =>
      have hfirst : system.nextDue? s = some first := hnext
      dsimp only
      rw [if_neg (by rw [hbeyond first hfirst]; exact Bool.false_ne_true)]

namespace Point

variable {settings : Settings} {failing : List Nat} {done : List Instruction}

/-- **With enough fuel a run comes to its end.** -/
lemma step?_run (hpoll : 1 ≤ settings.poll) (hp : Point settings failing done limit s) {fuel : Nat}
    (hfuel : rest limit s ≤ fuel) : system.step? limit (system.run limit fuel s) = none := by
  refine system.step?_run_of_lt (P := fun s => Point settings failing done limit s) (rest limit)
    ?_ hp hfuel
  intro s s' hp hstep
  exact ⟨hp.step hstep, rest_lt_of_step? hp.awake (hp.settings_eq ▸ hpoll)
    (fun hlimit => hp.stopping (hp.stop_mem_of_none hlimit)) hstep⟩

end Point

/-! ## The states between two instructions -/

/-- **A session that is done with its instructions so far.** -/
structure AtRest (settings : Settings) (failing : List Nat) (done : List Instruction)
    (s : Session) : Prop where
  point : Point settings failing done (some s.now) s
  step?_eq : system.step? (some s.now) s = none

namespace AtRest

variable {settings : Settings} {failing : List Nat} {done : List Instruction}

/-- All calls have begun. -/
lemma begun (hr : AtRest settings failing done s) :
    ∀ c ∈ s.calls, ∀ op, c.state ≠ .starting op := by
  intro c hc op hstate
  have hready := (not_ready_of_idle (system.step?_eq_none hr.step?_eq).1).2 c hc
  rw [hstate] at hready
  cases hready

/-- At a fresh sender there is only the first turn of the timer. -/
lemma start (hpoll : 1 ≤ settings.poll) : AtRest settings failing [] (start settings failing) := by
  have hp : Point settings failing [] (some 0) { settings, failing } := .start
  have hfuel : rest (some 0) ({ settings, failing } : Session)
      ≤ ({ settings, failing } : Session).fuel (0 - 0) := by
    simp [rest, work, callsWork, Timer.work, fuel]
  have hpasses := system.passes_run (some 0)
    (({ settings, failing } : Session).fuel (0 - 0)) { settings, failing }
  have hnow : (Session.start settings failing).now = 0 := now_eq_of_passes rfl hpasses
  refine ⟨?_, ?_⟩
  · rw [hnow]
    exact hp.passes hpasses
  · rw [hnow]
    exact hp.step?_run hpoll hfuel

/-- **Following an instruction**, a session comes to rest again. -/
lemma follow (hpoll : 1 ≤ settings.poll) (hr : AtRest settings failing done s) (i : Instruction) :
    AtRest settings failing (done ++ [i]) (s.follow done.length i) := by
  have hp := Point.instruct i hr.point hr.step?_eq
  cases i with
  | call op =>
      rw [Instruction.span, Int.add_zero] at hp
      have hfuel := le_fuel_enter hr.begun done.length (.call op) (s.now - s.now)
      have hpasses := system.passes_run (some s.now)
        ((s.enter done.length (.call op)).fuel (s.now - s.now)) (s.enter done.length (.call op))
      have hnow : (s.follow done.length (.call op)).now = s.now :=
        now_eq_of_passes (s := s.enter done.length (.call op)) rfl hpasses
      refine ⟨?_, ?_⟩
      · rw [hnow]
        exact hp.passes hpasses
      · rw [hnow]
        exact hp.step?_run hpoll hfuel
  | advance span =>
      rw [Instruction.span] at hp
      have hfuel := le_fuel_enter hr.begun done.length (.advance span) (s.now + span - s.now)
      have hpasses := system.passes_run (some (s.now + span))
        (s.fuel (s.now + span - s.now)) s
      have hend := hp.step?_run hpoll hfuel
      exact ⟨(hp.passes hpasses).settle hend, step?_setNow hend⟩

/-- **The stop at the end** is followed until nothing more can happen at all. -/
lemma finish (hpoll : 1 ≤ settings.poll) (hr : AtRest settings failing done s) :
    Point settings failing (done ++ [.call .stop]) none (s.finish done.length) ∧
      system.step? none (s.finish done.length) = none := by
  have hp := Point.finish hr.point hr.step?_eq
  have hfuel := le_fuel_enter hr.begun done.length (.call .stop)
    (s.enter done.length (.call .stop)).calls.length
  exact ⟨hp.passes (system.passes_run _ _ _),
    hp.step?_run hpoll (Nat.le_trans (Nat.add_le_add_right (Nat.zero_le _) _) hfuel)⟩

/-- **The states of a session**: each comes of the one before, which is at rest. -/
lemma of_states (hpoll : 1 ≤ settings.poll) (hr : AtRest settings failing done s)
    {rest : List Instruction} {k : Nat} (hk : (s.states done.length rest)[k]? = some s') :
    ∃ s₀, (s :: s.states done.length rest)[k]? = some s₀ ∧
      AtRest settings failing (done ++ rest.take k) s₀ ∧
      ((∃ i, rest[k]? = some i ∧ s' = s₀.follow (done ++ rest.take k).length i) ∨
        (rest.length = k ∧ s' = s₀.finish (done ++ rest.take k).length)) := by
  induction rest generalizing done s k with
  | nil =>
      rw [Session.states, List.getElem?_singleton] at hk
      split_ifs at hk with hzero
      subst hzero
      refine ⟨s, rfl, ?_, .inr ⟨rfl, ?_⟩⟩
      · rwa [List.take_nil, List.append_nil]
      · rw [List.take_nil, List.append_nil, ← Option.some.inj hk]
  | cons i rest ih =>
      cases k with
      | zero =>
          refine ⟨s, rfl, ?_, .inl ⟨i, rfl, ?_⟩⟩
          · rwa [List.take_zero, List.append_nil]
          · rw [List.take_zero, List.append_nil, ← Option.some.inj hk]
      | succ k =>
          have hlength : (done ++ [i]).length = done.length + 1 := List.length_append
          rw [Session.states, List.getElem?_cons_succ, ← hlength] at hk
          obtain ⟨s₀, hs₀, hrest, hnext⟩ := ih (hr.follow hpoll i) hk
          rw [List.append_assoc, List.singleton_append] at hrest hnext
          refine ⟨s₀, ?_, hrest, ?_⟩
          · rw [hlength] at hs₀
            exact hs₀
          · rw [List.getElem?_cons_succ, List.length_cons, List.take_succ_cons]
            exact hnext.imp_right fun ⟨hlast, heq⟩ => ⟨congrArg (· + 1) hlast, heq⟩

end AtRest

end Session

end ReliableTransfer
