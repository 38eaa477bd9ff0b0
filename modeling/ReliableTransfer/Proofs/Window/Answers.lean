import ReliableTransfer.Proofs.Window.Settling

/-!
# When calls return

What the calls of a session are answered, and when.

* `Session.Dated` — every call belongs to its instruction, and waits no longer than it asked for.
* `Session.Point.dated` — this holds at all points.
* `Session.AtRest.exists_turn` — a new call takes the first turn.
* **`Session.AtRest.halts`** — whoever waits to send when the sender is stopped is refused at once.
* **`Session.AtRest.refuses`** — whoever comes later is refused as well.
-/

namespace ReliableTransfer.Session

variable {settings : Settings} {failing : List Nat} {done : List Instruction} {limit : Option Int}
  {s s' : Session} {i : Nat} {c : Call} {state : CallState} {sender : Sender} {timer : Timer}
  {actions : List Action}

/-! ## Calls and their instructions -/

/-- **A call came in vain**: with packets still in flight, it returned when its time was up, and at
once if there was no time.  The point is the one at which it takes its last turn. -/
def Expired (settings : Settings) (failing : List Nat) (done : List Instruction) (time : Int)
    (number : Nat) : Prop :=
  ∃ timeout, done[number]? = some (.call (.await timeout)) ∧
    time = clock (done.take number) + max 0 timeout ∧
    ∃ now limit s s', now <+: done ∧ Point settings failing now limit s ∧ s.now = time ∧
      s.sender.inFlight ≠ [] ∧ system.step? limit s = some s' ∧
      s'.returns = s.returns ++ [(time, number, .awaited false)]

/-- **Every call belongs to its instruction**: it begins at once, and does not wait beyond its
deadline. -/
structure Dated (done : List Instruction) (s : Session) : Prop where
  numbers : (s.calls.map Call.number).Pairwise (· < ·)
  starting : ∀ c ∈ s.calls, ∀ op, c.state = .starting op →
    done[c.number]? = some (.call op) ∧ s.now = clock (done.take c.number)
  awaiting : ∀ c ∈ s.calls, ∀ deadline notified, c.state = .awaiting deadline notified →
    ∃ timeout, done[c.number]? = some (.call (.await timeout)) ∧
      deadline = clock (done.take c.number) + timeout ∧
      ((0 ≤ timeout ∧ s.now ≤ deadline) ∨
        (timeout < 0 ∧ s.now = clock (done.take c.number)))
  number_lt : ∀ c ∈ s.calls, c.number < done.length

namespace Dated

/-- A turn of a task makes no new call. -/
lemma numbers_turned (ht : Turned s i c state sender timer actions s') :
    s'.calls.map Call.number = s.calls.map Call.number := by
  have hwoken : (s.woken c.state).map Call.number = s.calls.map Call.number := by
    rw [woken]
    split_ifs
    · rw [notifyProgress, List.map_map]
      rfl
    · rfl
  rw [ht.calls_eq, ← hwoken]
  refine List.ext_getElem? fun j => ?_
  rw [List.getElem?_map, List.getElem?_map, List.getElem?_modify]
  cases (s.woken c.state)[j]? with
  | none => rfl
  | some c₀ =>
      by_cases hj : i = j
      · simp [hj]
      · simp [hj]

/-- **A turn of a call** keeps the dates. -/
lemma turned (hd : s.Dated done) (hc : s.calls[i]? = some c)
    (hm : Moves s c.state state sender timer actions)
    (ht : Turned s i c state sender timer actions s') : s'.Dated done := by
  have hmem := List.mem_of_getElem? hc
  -- a call that has begun never begins again, and a deadline does not change
  have hbegun : ∀ op, state ≠ .starting op := by
    generalize c.state = before at hm
    cases hm <;> nofun
  have hawaiting : ∀ deadline notified, state = .awaiting deadline notified →
      ∃ timeout, done[c.number]? = some (.call (.await timeout)) ∧
        deadline = clock (done.take c.number) + timeout ∧
        ((0 ≤ timeout ∧ s.now ≤ deadline) ∨
          (timeout < 0 ∧ s.now = clock (done.take c.number))) := by
    intro deadline notified hstate
    have hstarting := hd.starting c hmem
    have hold := hd.awaiting c hmem
    generalize c.state = before at hm hstarting hold
    cases hm with
    | await timeout =>
        obtain ⟨hop, hnow⟩ := hstarting _ rfl
        cases hstate
        refine ⟨timeout, hop, by rw [hnow], ?_⟩
        rcases Int.lt_or_le timeout 0 with hneg | hpos
        · exact .inr ⟨hneg, hnow⟩
        · exact .inl ⟨hpos, by omega⟩
    | resume =>
        cases hstate
        exact hold _ _ rfl
    | _ => cases hstate
  -- every call is the one whose turn it was, or another one, which may be woken
  have hcalls : ∀ c' ∈ s'.calls, ∃ c₀ ∈ s.calls, c'.number = c₀.number ∧
      ((c₀ = c ∧ c'.state = state) ∨ c'.state = c₀.state ∨ c'.state = c₀.state.notify) := by
    intro c' hc'
    obtain ⟨j, hj⟩ := List.mem_iff_getElem?.1 hc'
    have hnumber : s.calls[j]?.map Call.number = some c'.number := by
      rw [← List.getElem?_map, ← numbers_turned ht, List.getElem?_map, hj]
      rfl
    obtain ⟨c₀, hc₀, hnumber⟩ := Option.map_eq_some_iff.1 hnumber
    refine ⟨c₀, List.mem_of_getElem? hc₀, hnumber.symm, ?_⟩
    rcases ht.getElem?_calls hj with ⟨rfl, hstate⟩ | ⟨_, hwoken⟩
    · exact .inl ⟨Option.some.inj (hc₀.symm.trans hc), hstate⟩
    · obtain ⟨c₁, hc₁, _, hstate⟩ := getElem?_woken hwoken
      rw [Option.some.inj (hc₀.symm.trans hc₁)]
      exact .inr hstate
  refine ⟨?_, ?_, ?_, ?_⟩
  · rw [numbers_turned ht]
    exact hd.numbers
  · intro c' hc' op hstate
    obtain ⟨c₀, hc₀, hnumber, ⟨rfl, hsame⟩ | hsame | hsame⟩ := hcalls c' hc'
    · exact absurd (hsame.symm.trans hstate) (hbegun op)
    · rw [hnumber, ht.now_eq]
      exact hd.starting c₀ hc₀ op (hsame.symm.trans hstate)
    · rw [hnumber, ht.now_eq]
      refine hd.starting c₀ hc₀ op ?_
      rw [hsame] at hstate
      cases hbefore : c₀.state <;> rw [hbefore] at hstate <;> cases hstate
      rfl
  · intro c' hc' deadline notified hstate
    obtain ⟨c₀, hc₀, hnumber, ⟨rfl, hsame⟩ | hsame | hsame⟩ := hcalls c' hc'
    · rw [hnumber, ht.now_eq]
      exact hawaiting deadline notified (hsame.symm.trans hstate)
    · rw [hnumber, ht.now_eq]
      exact hd.awaiting c₀ hc₀ deadline notified (hsame.symm.trans hstate)
    · rw [hnumber, ht.now_eq]
      rw [hsame] at hstate
      cases hbefore : c₀.state <;> rw [hbefore] at hstate <;> cases hstate
      exact hd.awaiting c₀ hc₀ deadline _ hbefore
  · intro c' hc'
    obtain ⟨c₀, hc₀, hnumber, _⟩ := hcalls c' hc'
    rw [hnumber]
    exact hd.number_lt c₀ hc₀

/-- **The clock** moves only when no call is about to begin, and not beyond a deadline. -/
lemma setNow (hd : s.Dated done) (hidle : system.Idle s) {time : Int}
    (hdue : ∀ deadline, .dueAt deadline ∈ system.tasks s → time ≤ deadline) :
    ({ s with now := time } : Session).Dated done := by
  have hblocked := (not_ready_of_idle hidle).2
  refine ⟨hd.numbers, ?_, ?_, hd.number_lt⟩
  · intro c hc op hstate
    have hready := hblocked c hc
    rw [hstate] at hready
    cases hready
  · intro c hc deadline notified hstate
    obtain ⟨timeout, hop, hdeadline, htime⟩ := hd.awaiting c hc deadline notified hstate
    have hready := hblocked c hc
    rw [hstate] at hready
    cases notified with
    | true => cases hready
    | false =>
        have hlt : s.now < deadline := Int.not_le.1 (of_decide_eq_false hready)
        have hmem : .dueAt deadline ∈ system.tasks s := by
          refine List.mem_cons_of_mem _ (List.mem_map.2 ⟨c, hc, ?_⟩)
          rw [hstate]
          rfl
        refine ⟨timeout, hop, hdeadline, .inl ⟨?_, hdue deadline hmem⟩⟩
        rcases htime with ⟨hpos, _⟩ | ⟨hneg, hnow⟩ <;> omega

/-- A new instruction leaves the calls as they are, and may add one. -/
lemma enter (hd : s.Dated done) (hnow : s.now = clock done) (i : Instruction) :
    (s.enter done.length i).Dated (done ++ [i]) := by
  have hkeep : ∀ c ∈ s.calls, (done ++ [i])[c.number]? = done[c.number]? ∧
      (done ++ [i]).take c.number = done.take c.number := by
    intro c hc
    have hlt := hd.number_lt c hc
    exact ⟨List.getElem?_append_left hlt, List.take_append_of_le_length (Nat.le_of_lt hlt)⟩
  have hold : s.Dated (done ++ [i]) := by
    refine ⟨hd.numbers, ?_, ?_, ?_⟩
    · intro c hc op hstate
      rw [(hkeep c hc).1, (hkeep c hc).2]
      exact hd.starting c hc op hstate
    · intro c hc deadline notified hstate
      rw [(hkeep c hc).1, (hkeep c hc).2]
      exact hd.awaiting c hc deadline notified hstate
    · intro c hc
      have hlt := hd.number_lt c hc
      rw [List.length_append]
      exact Nat.lt_add_right _ hlt
  cases i with
  | advance span => exact hold
  | call op =>
      refine ⟨?_, ?_, ?_, ?_⟩
      · show ((s.calls ++ [_]).map Call.number).Pairwise _
        rw [List.map_append, List.pairwise_append]
        refine ⟨hd.numbers, List.pairwise_singleton _ _, ?_⟩
        intro n hn m hm
        obtain ⟨c, hc, rfl⟩ := List.mem_map.1 hn
        rw [List.mem_singleton.1 hm]
        exact hd.number_lt c hc
      · intro c hc op' hstate
        rcases List.mem_append.1 hc with hc | hc
        · exact hold.starting c hc op' hstate
        · rw [List.mem_singleton.1 hc] at hstate ⊢
          cases hstate
          refine ⟨List.getElem?_concat_length, ?_⟩
          rw [List.take_left']
          · exact hnow
          · rfl
      · intro c hc deadline notified hstate
        rcases List.mem_append.1 hc with hc | hc
        · exact hold.awaiting c hc deadline notified hstate
        · rw [List.mem_singleton.1 hc] at hstate
          cases hstate
      · intro c hc
        rcases List.mem_append.1 hc with hc | hc
        · exact hold.number_lt c hc
        · rw [List.mem_singleton.1 hc, List.length_append]
          exact Nat.lt_succ_self _

end Dated

/-- **The dates are kept** at all points. -/
lemma Point.dated (hp : Point settings failing done limit s) : s.Dated done := by
  induction hp with
  | start => exact ⟨.nil, nofun, nofun, nofun⟩
  | @step done limit s s' hp hstep ih =>
      rcases system.step?_eq_some hstep with ⟨task, htask, rfl⟩ | ⟨time, hidle, hdue, _, rfl⟩
      · cases task with
        | zero =>
            obtain ⟨_, _, _, _, ht⟩ := s.resumeTimer_eq
            show s.resumeTimer.Dated done
            refine ⟨?_, ?_, ?_, ?_⟩
            · rw [ht.calls_eq]
              exact ih.numbers
            · rw [ht.calls_eq, ht.now_eq]
              exact ih.starting
            · rw [ht.calls_eq, ht.now_eq]
              exact ih.awaiting
            · rw [ht.calls_eq]
              exact ih.number_lt
        | succ i =>
            obtain ⟨c, hc, _, hstate, _⟩ := exists_call_of_firstReady? htask
            obtain ⟨_, _, _, _, hm, ht⟩ := resumeCall_eq hc hstate
            exact ih.turned hc hm ht
      · exact ih.setNow hidle (system.mem_of_nextDue? hdue).2
  | settle hp hend ih =>
      exact ih.setNow (system.step?_eq_none hend).1
        fun deadline hmem => Int.le_of_lt (system.lt_of_step?_eq_none hend hmem)
  | instruct i hp _ ih => exact ih.enter (hp.limit_eq _ rfl) i
  | finish hp _ ih => exact ih.enter (hp.limit_eq _ rfl) _

/-- More instructions change nothing about a call that came in vain. -/
lemma Expired.of_front {time : Int} {number : Nat} (h : Expired settings failing done time number)
    {all : List Instruction} (hall : done <+: all) : Expired settings failing all time number := by
  obtain ⟨timeout, hop, htime, now, limit, s, s', hprefix, hpoint⟩ := h
  obtain ⟨more, rfl⟩ := hall
  have hlt := (List.getElem?_eq_some_iff.1 hop).1
  refine ⟨timeout, ?_, ?_, now, limit, s, s', hprefix.trans (List.prefix_append _ _), hpoint⟩
  · rw [List.getElem?_append_left hlt, hop]
  · rw [List.take_append_of_le_length (Nat.le_of_lt hlt)]
    exact htime

/-- **A call that waits for the last acknowledgement** returns without it only when its time is
up. -/
lemma Point.expired (hp : Point settings failing done limit s) {time : Int} {number : Nat}
    (hreturn : (time, number, .awaited false) ∈ s.returns) :
    Expired settings failing done time number := by
  induction hp with
  | start => cases hreturn
  | @step done limit s s' hp hstep ih =>
      rcases system.step?_eq_some hstep with ⟨task, htask, rfl⟩ | ⟨_, _, _, _, rfl⟩
      · cases task with
        | zero =>
            obtain ⟨_, _, _, _, ht⟩ := s.resumeTimer_eq
            exact ih (ht.returns_eq ▸ hreturn)
        | succ i =>
            obtain ⟨c, hc, _, hstate, _⟩ := exists_call_of_firstReady? htask
            obtain ⟨state, _, _, _, hm, ht⟩ := resumeCall_eq hc hstate
            have hreturns := ht.returns_eq
            change (time, number, _) ∈ (s.resumeCall i).returns at hreturn
            rw [hreturns] at hreturn
            rcases List.mem_append.1 hreturn with hreturn | hreturn
            · exact ih hreturn
            · -- the call returns in this turn
              obtain ⟨a, ha, heq⟩ := Option.map_eq_some_iff.1 (Option.mem_toList.1 hreturn)
              cases heq
              rw [ha] at hreturns
              have hawaiting := hp.dated.awaiting c (List.mem_of_getElem? hc)
              generalize c.state = before at hm hawaiting
              cases hm with
              | expire hacked hdue =>
                  obtain ⟨timeout, hop, hdeadline, htime⟩ := hawaiting _ _ rfl
                  refine ⟨timeout, hop, ?_, done, limit, s, _, List.prefix_rfl, hp, rfl, ?_, hstep,
                    hreturns⟩
                  · rcases htime with ⟨hpos, hle⟩ | ⟨hneg, hnow⟩
                    · rw [Int.max_eq_right hpos]
                      omega
                    · rw [Int.max_eq_left (Int.le_of_lt hneg), hnow, Int.add_zero]
                  · rw [Sender.allAcked] at hacked
                    exact List.isEmpty_eq_false_iff.1 hacked
              | _ => cases ha
      · exact ih hreturn
  | settle _ _ ih => exact ih hreturn
  | @instruct done s i _ _ ih =>
      have hreturns : (s.enter done.length i).returns = s.returns := by
        cases i <;> rfl
      exact (ih (hreturns ▸ hreturn)).of_front (List.prefix_append _ _)
  | finish _ _ ih => exact (ih hreturn).of_front (List.prefix_append _ _)

/-! ## The first turn of a call -/

namespace AtRest

variable {op : Operation}

/-- **A new call takes the first turn**, and everything else comes after it. -/
lemma exists_turn (hr : AtRest settings failing done s)
    (hpasses : system.Passes limit (s.enter done.length (.call op)) s') (hidle : system.Idle s') :
    ∃ state sender timer actions s₁,
      Moves (s.enter done.length (.call op)) (.starting op) state sender timer actions ∧
      Turned (s.enter done.length (.call op)) s.calls.length ⟨done.length, .starting op⟩ state
        sender timer actions s₁ ∧
      system.step? limit (s.enter done.length (.call op)) = some s₁ ∧
      system.Passes limit s₁ s' := by
  have hfirst :
      system.firstReady? (s.enter done.length (.call op)) = some (s.calls.length + 1) := by
    have htasks : system.tasks (s.enter done.length (.call op)) = system.tasks s ++ [.ready] := by
      show _ :: (s.calls ++ [_]).map _ = (_ :: s.calls.map _) ++ _
      rw [List.map_append]
      rfl
    have hnone := (system.step?_eq_none hr.step?_eq).1
    rw [System.Idle, System.firstReady?] at hnone
    have hnow : system.now (s.enter done.length (.call op)) = system.now s := rfl
    rw [System.firstReady?, hnow, htasks, List.findIdx?_append, hnone]
    show some (0 + (s.timer.readiness :: s.calls.map _).length) = _
    rw [List.length_cons, List.length_map, Nat.zero_add]
  have hc : (s.enter done.length (.call op)).calls[s.calls.length]?
      = some ⟨done.length, .starting op⟩ := List.getElem?_concat_length
  obtain ⟨state, sender, timer, actions, hm, ht⟩ := resumeCall_eq hc rfl
  rcases hpasses.cases_head with rfl | ⟨s₁, hstep, hrest⟩
  · rw [System.Idle, hfirst] at hidle
    cases hidle
  · refine ⟨state, sender, timer, actions, s₁, hm, ?_, hstep, hrest⟩
    rw [System.step?, hfirst] at hstep
    exact Option.some.inj hstep ▸ ht

end AtRest

/-- What was returned stays so. -/
lemma returns_subset_of_passes (hpasses : system.Passes limit s s') : s.returns ⊆ s'.returns := by
  induction hpasses with
  | refl => exact List.Subset.refl _
  | @tail s s' _ hstep ih =>
      refine List.Subset.trans ih ?_
      rcases system.step?_eq_some hstep with ⟨task, htask, rfl⟩ | ⟨_, _, _, _, rfl⟩
      · cases task with
        | zero =>
            obtain ⟨_, _, _, _, ht⟩ := s.resumeTimer_eq
            exact fun x hx => ht.returns_eq.symm ▸ hx
        | succ i =>
            obtain ⟨c, hc, _, hstate, _⟩ := exists_call_of_firstReady? htask
            obtain ⟨_, _, _, _, _, ht⟩ := resumeCall_eq hc hstate
            show s.returns ⊆ (s.resumeCall i).returns
            rw [ht.returns_eq]
            exact List.subset_append_left _ _
      · exact List.Subset.refl _

/-! ## The stop -/

/-- A call that waits for room is refused at this time, or about to be. -/
def Halting (time : Int) (number : Nat) (s : Session) : Prop :=
  (time, number, .refused .stopped) ∈ s.returns ∨
    s.now = time ∧ ∃ c ∈ s.calls, c.number = number ∧
      ∃ payload flags notified, c.state = .sending payload flags notified

/-- A turn, or a jump of the clock, after the stop. -/
lemma Halting.step (ha : s.Awake) (hstopped : s.sender.running = false) {time : Int} {number : Nat}
    (h : s.Halting time number) (hstep : system.step? limit s = some s') :
    s'.sender.running = false ∧ s'.Halting time number := by
  rcases system.step?_eq_some hstep with ⟨task, htask, rfl⟩ | ⟨_, hidle, _, _, rfl⟩
  · cases task with
    | zero =>
        obtain ⟨_, _, _, hresume, ht⟩ := s.resumeTimer_eq
        refine ⟨?_, ?_⟩
        · rw [show (system.resume 0 s).sender = _ from ht.sender_eq,
            (Timer.resume_running hresume).1, hstopped]
        · show s.resumeTimer.Halting time number
          rw [Halting, ht.returns_eq, ht.now_eq, ht.calls_eq]
          exact h
    | succ i =>
        obtain ⟨c, hc, _, hstate, _⟩ := exists_call_of_firstReady? htask
        obtain ⟨state, _, _, _, hm, ht⟩ := resumeCall_eq hc hstate
        show (s.resumeCall i).sender.running = false ∧ (s.resumeCall i).Halting time number
        refine ⟨?_, ?_⟩
        · rw [ht.sender_eq]
          exact hm.running_eq (.inl hstopped)
        · rw [Halting, ht.returns_eq, ht.now_eq]
          rcases h with h | ⟨hnow, c', hc', hnumber, payload, flags, notified, hsending⟩
          · exact .inl (List.mem_append_left _ h)
          · obtain ⟨j, hj⟩ := List.mem_iff_getElem?.1 hc'
            obtain ⟨c'', hc'', hsame, hwhose⟩ := ht.exists_getElem? hj
            rcases hwhose with ⟨rfl, _⟩ | ⟨_, hstate | hstate⟩
            · -- it is its own turn: there is nothing but the refusal
              obtain rfl : c = c' := Option.some.inj (hc.symm.trans hj)
              rw [hsending] at hm
              cases hm with
              | halt =>
                  left
                  rw [hnow, hnumber]
                  exact List.mem_append_right _ (List.mem_singleton_self _)
              | send _ hrunning =>
                  rw [hrunning] at hstopped
                  cases hstopped
              | block _ hrunning =>
                  rw [hrunning] at hstopped
                  cases hstopped
              | complete hawaits => cases hawaits
            · exact .inr ⟨hnow, c'', List.mem_of_getElem? hc'', hsame.trans hnumber, payload, flags,
                notified, hstate.trans hsending⟩
            · exact .inr ⟨hnow, c'', List.mem_of_getElem? hc'', hsame.trans hnumber, payload, flags,
                true, by rw [hstate, hsending]; rfl⟩
  · -- the clock does not move before all of them are refused
    refine ⟨hstopped, ?_⟩
    rcases h with h | ⟨_, c, hc, _, payload, flags, notified, hsending⟩
    · exact .inl h
    · have hrunning := (ha.blocked_send hc (by rw [hsending]; rfl)
        ((not_ready_of_idle hidle).2 c hc)).1
      rw [hrunning] at hstopped
      cases hstopped

namespace AtRest

/-- **Whoever waits to send when the sender is stopped** is refused at once. -/
lemma halts (hr : AtRest settings failing done s)
    (hp : Point settings failing (done ++ [.call .stop]) limit (s.enter done.length (.call .stop)))
    (hpasses : system.Passes limit (s.enter done.length (.call .stop)) s') (hidle : system.Idle s')
    (hc : c ∈ s.calls) (hsends : c.state.sends = true) :
    (s.now, c.number, .refused .stopped) ∈ s'.returns := by
  obtain ⟨payload, flags, notified, hsending⟩ :
      ∃ payload flags notified, c.state = .sending payload flags notified := by
    cases hstate : c.state with
    | starting op => exact absurd hstate (hr.begun c hc op)
    | sending payload flags notified => exact ⟨payload, flags, notified, rfl⟩
    | awaiting | joining | returned =>
        rw [hstate] at hsends
        cases hsends
  obtain ⟨state, sender, timer, actions, s₁, hm, ht, hstep, hrest⟩ := hr.exists_turn hpasses hidle
  have hhalting : s₁.sender.running = false ∧ s₁.Halting s.now c.number := by
    refine ⟨by rw [ht.sender_eq]; exact hm.running_eq (.inr rfl), .inr ⟨ht.now_eq, ?_⟩⟩
    obtain ⟨j, hj⟩ := List.mem_iff_getElem?.1 hc
    have hlt := (List.getElem?_eq_some_iff.1 hj).1
    obtain ⟨c', hc', hnumber, ⟨heq, _⟩ | ⟨_, hstate | hstate⟩⟩ :=
      ht.exists_getElem? ((List.getElem?_append_left hlt).trans hj)
    · omega
    · exact ⟨c', List.mem_of_getElem? hc', hnumber, payload, flags, notified,
        hstate.trans hsending⟩
    · exact ⟨c', List.mem_of_getElem? hc', hnumber, payload, flags, true,
        by rw [hstate, hsending]; rfl⟩
  have hp₁ := hp.step hstep
  have hend : s'.sender.running = false ∧ s'.Halting s.now c.number := by
    clear hpasses hidle hm ht hstep
    induction hrest with
    | refl => exact hhalting
    | tail hbefore hstep ih => exact ih.2.step (hp₁.passes hbefore).awake ih.1 hstep
  rcases hend.2 with h | ⟨_, c', hc', _, payload', flags', notified', hsending'⟩
  · exact h
  · have hrunning := ((hp₁.passes hrest).awake.blocked_send hc' (by rw [hsending']; rfl)
      ((not_ready_of_idle hidle).2 c' hc')).1
    exact Bool.noConfusion (hrunning.symm.trans hend.1)

/-- **Whoever comes to send after the stop** is refused at once: for its payload if that is too
long, and for the stop if not. -/
lemma refuses (hr : AtRest settings failing done s) (hstop : .call .stop ∈ done) {payload : Bytes}
    {flags : Flags}
    (hpasses : system.Passes limit (s.enter done.length (.call (.send payload flags))) s')
    (hidle : system.Idle s') :
    (s.now, done.length, .refused ((Sender.refusal? settings payload).getD .stopped))
      ∈ s'.returns := by
  obtain ⟨state, sender, timer, actions, s₁, hm, ht, _, hrest⟩ := hr.exists_turn hpasses hidle
  have hstopped : s.sender.running = false :=
    (hr.point.stopping hstop).of_idle (system.step?_eq_none hr.step?_eq).1
  have hsettings : (s.enter done.length (.call (.send payload flags))).settings = settings :=
    hr.point.settings_eq
  have hstate :
      state = .returned (.refused ((Sender.refusal? settings payload).getD .stopped)) := by
    cases hm with
    | refuse hcause =>
        rw [hsettings] at hcause
        rw [hcause]
        rfl
    | halt hasks =>
        obtain ⟨rfl, rfl, hfits⟩ := hasks
        rw [hsettings] at hfits
        rw [hfits]
        rfl
    | send _ hrunning => exact Bool.noConfusion (hrunning.symm.trans hstopped)
    | block _ hrunning => exact Bool.noConfusion (hrunning.symm.trans hstopped)
    | complete hawaits => cases hawaits
  refine returns_subset_of_passes hrest ?_
  rw [ht.returns_eq, hstate]
  exact List.mem_append_right _ (List.mem_singleton_self _)

end AtRest

end ReliableTransfer.Session
