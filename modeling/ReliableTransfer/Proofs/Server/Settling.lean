import ReliableTransfer.Proofs.Server.Service
import ReliableTransfer.Proofs.Server.Turns

/-!
# A run of the server comes to rest

The bound on the turns of a run is never what ends it: when it has ended, all tasks wait for times
beyond the limit, or for good.

* `Server.standing_of_start?` — where a server stands that has opened its endpoint.
* `Server.rest` — the turns and jumps that can still come within a limit.
* **`Server.Standing.step`** — every step leaves less of them.
* **`Server.step?_run`** — nothing more can happen when a run has ended.
-/

namespace ReliableTransfer.Server

variable {o : ServerOptions} {host : Host} {s s' : Server} {limit : Int}

/-- A server that has opened its endpoint waits for a request. -/
lemma standing_of_start? (hstart : start? o host = some s) :
    Standing o host s ∧ s.host.now = host.now ∧ s.host.arrivals = host.arrivals ∧
      s.stage = .starting := by
  obtain ⟨ok, descriptor, h', hattach, hrewired, _⟩ :=
    ({ address := o.address, port := o.settings.serverPort } : Endpoint).attach_eq
      o.settings.receiveTimeout host
  rw [start?, hattach] at hstart
  cases ok with
  | false => cases hstart
  | true =>
      have hpatient := Endpoint.receiveTimeout_attach hattach
      obtain rfl := Option.some.inj hstart
      refine ⟨.asking ⟨rfl, hpatient, hrewired.printed_eq,
        hrewired.files_eq, by simp⟩ rfl rfl (.inl rfl), hrewired.now_eq, hrewired.arrivals_eq, rfl⟩

/-- **The turns and jumps** that can still come within a limit. -/
def rest (limit : Int) (s : Server) : Nat :=
  4 * (limit - s.host.now).toNat + (2 * s.host.arrivals.length + s.work)

/-- The clock does not go back, and every step leaves less to come. -/
lemma Standing.step (hs : Standing o host s) (hpoll : 1 ≤ o.settings.poll)
    (htimeout : 0 ≤ o.settings.receiveTimeout) (hstep : system.step? (some limit) s = some s') :
    Standing o host s' ∧ rest limit s' < rest limit s := by
  rcases system.step?_eq_some hstep with ⟨i, hi, rfl⟩ | ⟨time, hidle, hdue, hwithin, rfl⟩
  · have ht := hs.resume hpoll htimeout hi
    have hlt := ht.lt
    refine ⟨ht.standing, ?_⟩
    rw [rest, rest, ht.now_eq]
    omega
  · obtain ⟨hstanding, hwork⟩ := hs.advanceTo time
    have hlater : s.host.now < time := Int.not_le.1 (of_decide_eq_false
      (System.Idle.not_ready hidle (system.mem_of_nextDue? hdue).1))
    have hle : time ≤ limit := of_decide_eq_true hwithin
    refine ⟨hstanding, ?_⟩
    show 4 * (limit - max s.host.now time).toNat + (2 * s.host.arrivals.length + _) < rest limit s
    rw [rest]
    omega

lemma Standing.passes (hs : Standing o host s) (hpoll : 1 ≤ o.settings.poll)
    (htimeout : 0 ≤ o.settings.receiveTimeout) (hpasses : system.Passes (some limit) s s') :
    Standing o host s' := by
  induction hpasses with
  | refl => exact hs
  | tail _ hstep ih => exact (ih.step hpoll htimeout hstep).1

/-- **Nothing more can happen** within the limit when a run has ended. -/
lemma step?_run (hpoll : 1 ≤ o.settings.poll) (htimeout : 0 ≤ o.settings.receiveTimeout)
    (hnow : 0 ≤ host.now) (hstart : start? o host = some s) (limit : Int) :
    system.step? (some limit) (system.run (some limit) (fuel limit s.host) s) = none := by
  obtain ⟨hstanding, hsame, _, hstage⟩ := standing_of_start? hstart
  refine system.step?_run_of_lt (P := Standing o host) (rest limit)
    (fun s s' hs hstep => hs.step hpoll htimeout hstep) hstanding ?_
  have hothers : s.others = 0 := by
    cases hstanding with
    | asking _ htimer hlistener =>
        rw [others, htimer, hlistener]
        rfl
    | serving _ _ _ hwaits =>
        rw [Waits, hstage] at hwaits
        exact hwaits.elim
    | leaving _ _ _ hother | finished _ _ _ hother | broken _ _ _ hother =>
        rw [hstage] at hother
        cases hother
  rw [rest, work, hothers, hstage, fuel, hsame, Stage.work]
  omega

end ReliableTransfer.Server
