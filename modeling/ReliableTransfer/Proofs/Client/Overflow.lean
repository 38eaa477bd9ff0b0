import ReliableTransfer.Proofs.Client.Dialogue

/-!
# A client that cannot count its requests

A client counts its requests in thirty-two bits.  If it may repeat them as often as such a count can
say at all, it never has repeated them too often, and only the silence of the server ends its run.

* `Client.loop_of_rounds` — what follows some rounds of the loop.
* `Client.Unheard` — a client that has asked some times and has heard nothing.
* **`Client.Unheard.round`**, **`Client.Unheard.rounds`** — one round of its loop, and some of them:
  it asks once in each.
* **`Client.requests_uncounted`** — so it may ask more often than it was told.
-/

namespace ReliableTransfer.Client

variable {o : ClientOptions} {c : Client} {limit : Int} {count : Nat}

/-- What follows some rounds of the loop is work of its own. -/
lemma loop_of_rounds {m : Nat} {head : Client} (h : c.rounds limit m = some head) (n : Nat) :
    c.loop limit (m + n) = head.loop limit n := by
  induction m generalizing c with
  | zero => rw [← Option.some.inj h, Nat.zero_add]
  | succ m ih =>
      rw [Client.rounds] at h
      rw [Nat.add_right_comm, loop]
      cases hdecision : c.decide with
      | leave c' | breakOff c' =>
          rw [hdecision] at h
          cases h
      | read c' =>
          rw [hdecision] at h
          obtain ⟨host, hawait, hrest⟩ := Option.bind_eq_some_iff.1 h
          dsimp only
          rw [hawait]
          exact ih hrest

/-- **A client that has asked so many times and has heard nothing**, on a machine where nothing
arrives and nothing befalls what is sent. -/
structure Unheard (o : ClientOptions) (count : Nat) (c : Client) : Prop extends c.Located o where
  socket : ∃ socket, c.endpoint.descriptor.bind c.host.socket? = some socket ∧
    socket.receiveTimeout = some o.settings.receiveTimeout
  arrivals_eq : c.host.arrivals = []
  faults_eq : c.host.sendFaults = []
  unanswered : c.answered = false
  endedAt_eq : c.endedAt = none
  last_le : c.lastRequest ≤ c.host.now
  length_sent : c.host.sent.length = count

namespace Unheard

lemma opened (hu : c.Unheard o count) : c.endpoint.Open c.host := by
  obtain ⟨socket, hsocket, _⟩ := hu.socket
  exact Option.isSome_iff_exists.2 ⟨socket, hsocket⟩

lemma not_lingered (hu : c.Unheard o count) : c.lingered = false := by
  rw [lingered, hu.endedAt_eq]
  rfl

/-- A read brings nothing. -/
lemma readNext (hu : c.Unheard o count) : c.read.Unheard o count ∧
    c.read.host.now = c.host.now ∧ c.read.lastHeard = c.lastHeard := by
  obtain ⟨corrupted, arrivals, notices, ⟨hread, hrest⟩ | ⟨a, p, ha, _⟩⟩ := read_cases hu.toLocated
  · have hnothing : arrivals = [] := by
      rcases hrest with rfl | ⟨a, ha, _⟩
      · exact hu.arrivals_eq
      · rw [hu.arrivals_eq] at ha
        cases ha
    rw [hread]
    exact ⟨⟨⟨hu.options_eq, hu.address_eq, hu.port_eq⟩, hu.socket, hnothing, hu.faults_eq,
      hu.unanswered, hu.endedAt_eq, hu.last_le, hu.length_sent⟩, rfl, rfl⟩
  · rw [hu.arrivals_eq] at ha
    cases ha

/-- Time makes no difference. -/
lemma advanceTo (hu : c.Unheard o count) (time : Int) :
    ({ c with host := c.host.advanceTo time } : Client).Unheard o count :=
  ⟨⟨hu.options_eq, hu.address_eq, hu.port_eq⟩, hu.socket, hu.arrivals_eq, hu.faults_eq,
    hu.unanswered, hu.endedAt_eq, Int.le_trans hu.last_le (Int.le_max_left _ _), hu.length_sent⟩

/-- It waits as long as its socket does. -/
lemma awaitRead_eq (hu : c.Unheard o count)
    (hlimit : c.host.now + o.settings.receiveTimeout ≤ limit) :
    c.host.awaitRead limit c.endpoint.descriptor
      = some (c.host.advanceTo (c.host.now + o.settings.receiveTimeout)) := by
  obtain ⟨socket, hsocket, htimeout⟩ := hu.socket
  have hdeadline : c.host.readDeadline c.endpoint.descriptor
      = some (c.host.now + o.settings.receiveTimeout) := by
    rw [Host.readDeadline, hsocket]
    dsimp only
    rw [htimeout]
    rfl
  have hdue : c.host.readDue? (some (c.host.now + o.settings.receiveTimeout))
      = some (c.host.now + o.settings.receiveTimeout) := by
    simp only [Host.readDue?, hu.arrivals_eq, List.head?_nil]
  rw [Host.awaitRead, hdeadline, hdue]
  exact if_pos hlimit

/-- When the server has been silent for too long, the client leaves, and sends nothing any more. -/
lemma loop_of_silent (hu : c.Unheard o count) (limit : Int)
    (hsilent : c.lastHeard + o.idleTimeout ≤ c.host.now) (n : Nat) :
    (c.loop limit (n + 1)).2.host.sent = c.host.sent ∧
      (c.loop limit (n + 1)).2.host.arrivals = [] := by
  have hleaves : c.silent = true := by
    rw [silent, hu.options_eq]
    exact decide_eq_true (by omega)
  rw [loop, Client.decide, hu.not_lingered, hleaves, if_neg Bool.false_ne_true, if_pos rfl]
  exact ⟨rfl, hu.arrivals_eq⟩

section Insistent

variable (hf : Askable o) (htimeout : o.settings.timeout ≤ 0)
  (hretries : 2147483647 ≤ o.settings.maxRetries)
include hf htimeout hretries

/-- **Asking once more**: the count never says that it was too often. -/
lemma decide_eq (hu : c.Unheard o count)
    (hpatient : c.host.now < c.lastHeard + o.idleTimeout) :
    ∃ c' : Client, c.decide = .read c' ∧ c'.Unheard o (count + 1) ∧ c'.host.now = c.host.now ∧
      c'.lastHeard = c.lastHeard := by
  have hnoisy : c.silent = false := by
    rw [silent, hu.options_eq]
    exact decide_eq_false (by omega)
  have hoverdue : c.requestOverdue = true := by
    rw [requestOverdue, hu.unanswered, hu.options_eq]
    have hlast := hu.last_le
    exact decide_eq_true (by omega)
  have hfew : ¬ c.tries.toInt > c.options.settings.maxRetries := by
    have hbound := Int32.toInt_lt c.tries
    rw [hu.options_eq]
    omega
  obtain ⟨ok, x, notices, _, _, hok, hask⟩ := ask_eq (c := c.note .requestRepeated)
    ⟨hu.options_eq, hu.address_eq, hu.port_eq⟩ hu.opened hf
  obtain rfl := hok hu.faults_eq
  rw [Client.decide, hu.not_lingered, hnoisy, hoverdue, if_neg Bool.false_ne_true,
    if_neg Bool.false_ne_true, if_pos rfl, if_neg hfew, hask]
  refine ⟨_, rfl, ⟨⟨hu.options_eq, hu.address_eq, hu.port_eq⟩, hu.socket, hu.arrivals_eq,
    hu.faults_eq, hu.unanswered, hu.endedAt_eq, Int.le_refl _, ?_⟩, rfl, rfl⟩
  show (c.host.sent ++ [x]).length = count + 1
  rw [List.length_append, hu.length_sent]
  rfl

variable (hwait : 0 < o.settings.receiveTimeout)
include hwait

/-- **A round of the loop**: one request, and then a read that brings nothing. -/
lemma round (hu : c.Unheard o count) (hpatient : c.host.now < c.lastHeard + o.idleTimeout)
    (hlimit : c.host.now + o.settings.receiveTimeout ≤ limit) :
    ∃ c' : Client, (∀ n, c.rounds limit (n + 1) = c'.rounds limit n) ∧ c'.Unheard o (count + 1) ∧
      c'.host.now = c.host.now + o.settings.receiveTimeout ∧ c'.lastHeard = c.lastHeard := by
  obtain ⟨c', hdecide, hu', hnow, hlast⟩ := hu.decide_eq hf htimeout hretries hpatient
  have hawait := hu'.awaitRead_eq (hnow.symm ▸ hlimit)
  obtain ⟨hread, hnow', hlast'⟩ :=
    (hu'.advanceTo (c'.host.now + o.settings.receiveTimeout)).readNext
  refine ⟨_, fun n => ?_, hread, hnow'.trans ?_, hlast'.trans hlast⟩
  · rw [Client.rounds, hdecide]
    dsimp only
    rw [hawait, Option.bind_some]
  · show max c'.host.now (c'.host.now + o.settings.receiveTimeout) = _
    rw [hnow]
    omega

/-- **Some rounds of the loop**, as long as the client has patience: one request in each. -/
lemma rounds (hu : c.Unheard o count) (limit : Int) (k : Nat)
    (hpatient : c.host.now + k * o.settings.receiveTimeout ≤ c.lastHeard + o.idleTimeout)
    (hlimit : c.host.now + k * o.settings.receiveTimeout ≤ limit) :
    ∃ head : Client, c.rounds limit k = some head ∧ head.Unheard o (count + k) ∧
      head.host.now = c.host.now + k * o.settings.receiveTimeout ∧
      head.lastHeard = c.lastHeard := by
  induction k generalizing c count with
  | zero => exact ⟨c, rfl, hu, by simp, rfl⟩
  | succ k ih =>
      have hsplit : ((k + 1 : Nat) : Int) * o.settings.receiveTimeout
          = o.settings.receiveTimeout + k * o.settings.receiveTimeout := by
        rw [Int.natCast_succ, Int.add_mul, Int.one_mul, Int.add_comm]
      have hrest : 0 ≤ (k : Int) * o.settings.receiveTimeout :=
        Int.mul_nonneg (Int.natCast_nonneg k) (Int.le_of_lt hwait)
      rw [hsplit] at hpatient hlimit ⊢
      obtain ⟨c', hround, hu', hnow, hlast⟩ :=
        hu.round hf htimeout hretries hwait (by omega) (show _ ≤ limit by omega)
      obtain ⟨head, hhead, hu'', hnow', hlast'⟩ := ih hu' (by omega) (by omega)
      refine ⟨head, (hround k).trans hhead, ?_, by omega, hlast'.trans hlast⟩
      rwa [Nat.add_right_comm] at hu''

end Insistent

end Unheard

/-- A client that may repeat its request as often as it can count, and that does so at once whenever
a read comes back. -/
def restlessClient : ClientOptions :=
  { hastyClient with
    idleTimeout := 2147483647
    settings := { timeout := 0, receiveTimeout := 1, maxRetries := 2147483647 } }

/-- One thing without a meaning arrives. -/
def restlessHost : Host where
  arrivals := [⟨0, .datagram [0]⟩]

/-- The client on that machine after its first request. -/
def restlessStart : Bool × Client :=
  (begun? restlessClient restlessHost).get (by decide +kernel)

/-- The client after the first round of its loop, which reads what arrives. -/
def restlessHead : Client :=
  (restlessStart.2.rounds 2147483647 1).get (by decide +kernel)

lemma askable_restlessClient : Askable restlessClient :=
  ⟨by decide, by decide, ⟨⟨10, 0, 0, 2⟩, by decide +kernel⟩, ⟨⟨10, 0, 0, 1⟩, by decide +kernel⟩⟩

lemma unheard_restlessHead : restlessHead.Unheard restlessClient 2 :=
  ⟨⟨by decide +kernel, by decide +kernel, by decide +kernel⟩,
    ⟨⟨3, some 1⟩, by decide +kernel, by decide +kernel⟩, by decide +kernel, by decide +kernel,
    by decide +kernel, by decide +kernel, by decide +kernel, by decide +kernel⟩

lemma begun_restlessClient : begun? restlessClient restlessHost = some (true, restlessStart.2) :=
  (Option.some_get _).symm.trans
    (congrArg some (Prod.ext (show restlessStart.1 = true by decide +kernel) rfl))

/-- It asks once in each of the rounds that follow, until it has been without an answer for as long
as it may. -/
lemma exists_restless_rounds : ∃ n,
    run restlessClient 2147483647 restlessHost
      = outcome (watch 2147483647 n (true, restlessStart.2)) ∧
    (restlessStart.2.loop 2147483647 n).2.host.arrivals = [] ∧
    (restlessStart.2.loop 2147483647 n).2.host.sent.length = 2147483649 := by
  have hnow : restlessHead.host.now = 0 := by decide +kernel
  have hheard : restlessHead.lastHeard = 0 := by decide +kernel
  have hfuel : fuel 2147483647 restlessHost = 1 + (2147483647 + (1 + 1)) := by decide +kernel
  have hfirst : restlessStart.2.rounds 2147483647 1 = some restlessHead := (Option.some_get _).symm
  obtain ⟨last, hrounds, hu, hlater, hlast⟩ := unheard_restlessHead.rounds askable_restlessClient
    (by decide) (by decide) (by decide) 2147483647 2147483647
    (by rw [hnow, hheard]; decide) (by rw [hnow]; decide)
  have hsilent : last.lastHeard + restlessClient.idleTimeout ≤ last.host.now := by
    rw [hlater, hlast, hnow, hheard]
    decide
  obtain ⟨hsent, harrivals⟩ := hu.loop_of_silent 2147483647 hsilent 1
  refine ⟨_, run_of_begun? begun_restlessClient 2147483647, ?_⟩
  rw [hfuel, loop_of_rounds hfirst, loop_of_rounds hrounds]
  exact ⟨harrivals, by rw [hsent, hu.length_sent]⟩

/-- **More requests than were allowed**: told to repeat its request 2147483647 times at most, this
client repeats it 2147483648 times. -/
theorem requests_uncounted :
    restlessClient.settings.maxRetries = 2147483647 ∧
    (opened? restlessClient restlessHost).isSome = true ∧
    (∀ x ∈ (run restlessClient 2147483647 restlessHost).host.sent,
      Carries restlessClient (requestPacket restlessClient.fileName) x) ∧
    (run restlessClient 2147483647 restlessHost).host.sent.length = 2147483649 ∧
    ¬ ((run restlessClient 2147483647 restlessHost).host.sent.length : Int)
      ≤ 1 + max 0 restlessClient.settings.maxRetries := by
  obtain ⟨n, hrun, harrivals, hlength⟩ := exists_restless_rounds
  have hsent : (run restlessClient 2147483647 restlessHost).host.sent
      = (restlessStart.2.loop 2147483647 n).2.host.sent := by
    rw [hrun]
    exact sent_outcome _ _
  -- nothing of what was read is a packet of the server, so all that was sent are requests
  obtain ⟨_, _, d₀, _, hasking⟩ := asks_of_begun? begun_restlessClient
  obtain ⟨d, _, hconversed, _⟩ := (hasking rfl).loop askable_restlessClient 2147483647 n
  have hread := hconversed.arrivals_eq
  rw [harrivals, List.append_nil] at hread
  have hanswers := hconversed.answers_eq_nil (by rw [← hread]; decide +kernel)
  have hrequests := hconversed.sent_eq
  rw [hanswers, List.append_nil] at hrequests
  rw [hsent, hlength]
  refine ⟨rfl, by decide +kernel, fun x hx => ?_, rfl, by decide⟩
  rw [hrequests] at hx
  exact hconversed.asked x hx

end ReliableTransfer.Client
