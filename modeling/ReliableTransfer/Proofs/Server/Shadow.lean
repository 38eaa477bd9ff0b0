import ReliableTransfer.Proofs.Drift
import ReliableTransfer.Proofs.Server.Gist

/-!
# A run seen through its gist

Of a run of the server, keep the gist of every state.  What nobody but a bystander has a part in
disappears from that, turns and jumps included: the gist of a run is a run of the gist.

* `Server.hushed` — the server of which only the gist is kept.
* `Readiness.Quiet` — a task that waits; `Server.quiet_gist` says that what waits in a server waits
  in its gist.
* `Server.drifts_of_asks`, `Server.drifts_resumeTransfer`, `Server.drifts_resumeTimer`,
  `Server.drifts_resumeListener` — a turn before the request, and of each task while the file is
  sent: it does not show, or the gist takes the same.
* **`Server.drifts_of_passes`** — the gist of a run.
-/

namespace ReliableTransfer

/-- The task waits, and for no time before the given one. -/
structure Readiness.Quiet (now time : Int) (r : Readiness) : Prop where
  waits : r.isReadyAt now = false
  le : ∀ due, r = .dueAt due → time ≤ due

/-- A task that waits for good. -/
lemma Readiness.Quiet.held (now time : Int) : Readiness.held.Quiet now time :=
  ⟨rfl, nofun⟩

/-- What matters of the arrivals is among them. -/
lemma Arrival.asks_subset (port : UInt16) (arrivals : List Arrival) :
    asks port arrivals ⊆ arrivals := by
  induction arrivals with
  | nil => exact List.Subset.refl []
  | cons a rest ih =>
      rw [asks]
      split
      · exact List.cons_subset_cons a (List.filter_subset_self rest)
      · exact List.subset_cons_of_subset a ih

namespace Server

variable {o : ServerOptions} {host : Host} {s s' : Server} {limit time : Int}

/-- **The server of which only the gist is kept** after each turn. -/
def hushed : System Server :=
  { system with resume := fun i s => (system.resume i s).gist }

lemma clocked_hushed : hushed.Clocked where
  now_advanceTo h := Int.max_eq_right h
  tasks_advanceTo _ _ := rfl
  advanceTo_advanceTo := by
    intro time time' s h
    show ({ s with host := (s.host.advanceTo time).advanceTo time' } : Server) = _
    have hmax : max (max s.host.now time) time' = max s.host.now time' := by omega
    simp only [Host.advanceTo, hmax]
    rfl

lemma gist_advanceTo (time : Int) (s : Server) :
    (system.advanceTo time s).gist = hushed.advanceTo time s.gist := by
  obtain ⟨_, _, _, stage, _, _, _, _, _, _, _⟩ := s
  cases stage <;> rfl

/-! ## What waits -/

lemma readReadiness_nil {h : Host} (harrivals : h.arrivals = []) :
    readReadiness h none = .held := by
  simp only [readReadiness, Host.readDue?, harrivals, List.head?_nil]

lemma readReadiness_cons {h : Host} {a : Arrival} {rest : List Arrival}
    (harrivals : h.arrivals = a :: rest) : readReadiness h none = .dueAt a.time := by
  simp only [readReadiness, Host.readDue?, harrivals, List.head?_cons]

/-- **A read that waits** waits in the gist, and for no earlier time. -/
lemma quiet_readReadiness {h h' : Host} {deadline : Option Int}
    (hsorted : h.arrivals.Pairwise (·.time ≤ ·.time)) (hsubset : h'.arrivals ⊆ h.arrivals)
    (hq : (readReadiness h deadline).Quiet h.now time) :
    (readReadiness h' none).Quiet h.now time := by
  cases harrivals : h'.arrivals with
  | nil =>
      rw [readReadiness_nil harrivals]
      exact .held _ _
  | cons a rest =>
      rw [readReadiness_cons harrivals]
      -- the first arrival does not come after any that matters
      obtain ⟨first, rest', hcons, hle⟩ :
          ∃ first rest', h.arrivals = first :: rest' ∧ first.time ≤ a.time := by
        have hmem : a ∈ h.arrivals := hsubset (harrivals ▸ List.mem_cons_self ..)
        cases hall : h.arrivals with
        | nil =>
            rw [hall] at hmem
            cases hmem
        | cons first rest' =>
            rw [hall] at hmem hsorted
            refine ⟨first, rest', rfl, ?_⟩
            rcases List.mem_cons.1 hmem with rfl | hlater
            · exact Int.le_refl _
            · exact List.rel_of_pairwise_cons hsorted hlater
      obtain ⟨due, hdue, hreadiness⟩ := due_of_arrival h deadline hcons
      have hlt : h.now < due := by
        have hwaits := hq.waits
        rw [hreadiness] at hwaits
        exact Int.not_le.1 (of_decide_eq_false hwaits)
      have htime := hq.le due hreadiness
      refine ⟨decide_eq_false (Int.not_le.2 (by omega)), fun due' hdue' => ?_⟩
      obtain rfl : a.time = due' := Readiness.dueAt.inj hdue'
      omega

lemma forall_mem_tasks {P : Readiness → Prop} :
    (∀ r ∈ system.tasks s, P r) ↔
      P s.transferReadiness ∧ P s.timer.readiness ∧ P s.listenerReadiness := by
  show (∀ r ∈ [_, _, _], P r) ↔ _
  simp only [List.forall_mem_cons, List.not_mem_nil, false_implies, implies_true, and_true]

/-- The server has not read a request yet. -/
def Asks (s : Server) : Prop :=
  s.stage = .starting ∨ ∃ deadline, s.stage = .awaitingRequest deadline

/-- The gist of a server that waits for a request. -/
lemma Asks.gist_eq (hasks : s.Asks) : s.gist = { s.hush with
    host := { s.hush.host with arrivals := Arrival.asks s.endpoint.port s.host.arrivals }
    stage := .awaitingRequest none } := by
  rw [gist]
  rcases hasks with hstage | ⟨deadline, hstage⟩ <;> rw [hstage] <;> dsimp only <;>
    rw [hush, hstage] <;> rfl

lemma isServing_of_waits (hw : s.Waits) : s.stage.isServing = true := by
  rw [Waits] at hw
  cases hstage : s.stage with
  | sendingData | sendingEnd | awaitingAcks | joiningTimer => rfl
  | starting | awaitingRequest | joiningListener | «over» =>
      rw [hstage] at hw
      exact hw.elim

lemma transferReadiness_hush (hserving : s.stage.isServing = true) :
    s.hush.transferReadiness = s.transferReadiness := by
  obtain ⟨_, _, _, stage, _, _, _, _, _, _, _⟩ := s
  cases stage with
  | sendingData | sendingEnd | awaitingAcks | joiningTimer => rfl
  | starting | awaitingRequest | joiningListener | «over» => cases hserving

/-- **What waits in a server waits in its gist**, and for no earlier time. -/
lemma quiet_gist (hs : Standing o host s) (hsorted : s.host.arrivals.Pairwise (·.time ≤ ·.time))
    (hq : ∀ r ∈ system.tasks s, r.Quiet s.host.now time) :
    ∀ r ∈ hushed.tasks s.gist, r.Quiet s.host.now time := by
  obtain ⟨htransfer, htimer, hlistener⟩ := forall_mem_tasks.1 hq
  have ended : ∀ conclusion report, ∀ r ∈ system.tasks (s.remains conclusion report),
      r.Quiet s.host.now time := fun _ _ =>
    forall_mem_tasks.2 ⟨.held _ _, .held _ _, .held _ _⟩
  have listens : ∀ arrivals ⊆ s.host.arrivals, Readiness.Quiet s.host.now time ({ s.hush with
      host := { s.hush.host with arrivals } } : Server).listenerReadiness := by
    intro arrivals hsubset
    rw [listenerReadiness] at hlistener ⊢
    rw [show ({ s.hush with
      host := { s.hush.host with arrivals } } : Server).listener = s.listener.hush from rfl]
    cases hl : s.listener with
    | starting => rw [hl] at hlistener; exact hlistener
    | ended => exact .held _ _
    | reading deadline =>
        rw [hl] at hlistener
        exact quiet_readReadiness hsorted hsubset hlistener
  cases hs with
  | asking _ _ hended hstage =>
      rw [Asks.gist_eq hstage]
      -- only a server that has begun to read has to wait
      refine forall_mem_tasks.2 ⟨?_, htimer, listens _ (Arrival.asks_subset _ _)⟩
      rw [transferReadiness] at htransfer
      rcases hstage with hstage | ⟨deadline, hstage⟩ <;> rw [hstage] at htransfer
      · exact absurd htransfer.waits Bool.noConfusion
      · exact quiet_readReadiness hsorted (Arrival.asks_subset _ _) htransfer
  | serving _ _ hears hwaits =>
      have hserving := isServing_of_waits hwaits
      rw [gist_of_isServing hserving]
      refine forall_mem_tasks.2 ⟨?_, htimer, listens _ (List.filter_subset_self _)⟩
      rwa [transferReadiness_hush hserving]
  | leaving _ _ _ hstage | finished _ _ _ hstage | broken _ _ _ hstage =>
      rw [gist, hstage]
      exact ended _ _

/-! ## Reading -/

/-- The server when a read is over. -/
def heard (corrupted : Nat) (arrivals : List Arrival) (notices : List Notice) (s : Server) :
    Server :=
  { s with
    endpoint := { s.endpoint with corrupted }
    host := { s.host with arrivals, notices } }

/-- A read takes an arrival that is due. -/
lemma receive_of_due {a : Arrival} {rest : List Arrival} (hopen : s.endpoint.Open s.host)
    (harrivals : s.host.arrivals = a :: rest) (hdue : a.time ≤ s.host.now) :
    ∃ corrupted notices,
      s.receive = (a.reading s.endpoint.port, s.heard corrupted rest notices) := by
  rcases Endpoint.receive_cases hopen with
    ⟨a', rest', corrupted, notices, hcons, _, hreceive⟩ | ⟨hlater, _⟩
  · obtain ⟨rfl, rfl⟩ := List.cons.inj (harrivals.symm.trans hcons)
    refine ⟨corrupted, notices, ?_⟩
    rw [receive, hreceive]
    rfl
  · have hlt := hlater a (by rw [harrivals]; rfl)
    omega

/-- A read that ends before anything is due brings nothing. -/
lemma receive_of_early (hopen : s.endpoint.Open s.host)
    (hearly : ∀ a ∈ s.host.arrivals.head?, s.host.now < a.time) : s.receive = (none, s) := by
  rcases Endpoint.receive_cases hopen with ⟨a, rest, _, _, hcons, hdue, _⟩ | ⟨_, hreceive⟩
  · have hlt := hearly a (by rw [hcons]; rfl)
    omega
  · rw [receive, hreceive]

/-- Whatever is read is due, or nothing is. -/
lemma due_or_early (s : Server) :
    (∃ a rest, s.host.arrivals = a :: rest ∧ a.time ≤ s.host.now) ∨
      ∀ a ∈ s.host.arrivals.head?, s.host.now < a.time := by
  cases s.host.arrivals with
  | nil => exact .inr nofun
  | cons a rest =>
      by_cases hdue : a.time ≤ s.host.now
      · exact .inl ⟨a, rest, rfl, hdue⟩
      · refine .inr fun a' ha' => ?_
        obtain rfl := Option.some.inj ha'
        omega

/-! ## Turns -/

lemma firstReady?_eq (s : Server) : system.firstReady? s =
    if s.transferReadiness.isReadyAt s.host.now = true then some 0
    else if s.timer.readiness.isReadyAt s.host.now = true then some 1
    else if s.listenerReadiness.isReadyAt s.host.now = true then some 2 else none := by
  show List.findIdx? (Readiness.isReadyAt s.host.now) [_, _, _] = _
  simp only [List.findIdx?_cons, List.findIdx?_nil]
  split_ifs <;> rfl

/-- A turn that does not show. -/
lemma drifts_of_eq (heq : s'.gist = s.gist) : hushed.Drifts limit s.gist s'.gist :=
  heq ▸ .refl

/-- A turn that does nothing. -/
lemma drifts_of_same (hsame : s' = s) : hushed.Drifts limit s.gist s'.gist :=
  drifts_of_eq (congrArg gist hsame)

/-- A turn that the gist takes as well. -/
lemma drifts_of_turn {i : Nat} (hready : system.firstReady? s.gist = some i)
    (heq : (system.resume i s.gist).gist = (system.resume i s).gist) :
    hushed.Drifts limit s.gist (system.resume i s).gist :=
  heq ▸ .single (.turn hready)

/-! ### Before the request -/

/-- What does not matter of the arrivals does not show while the server waits for a request. -/
lemma Asks.gist_awaitRequest (hasks : s.Asks) {arrivals : List Arrival}
    (harrivals : Arrival.asks s.endpoint.port arrivals
      = Arrival.asks s.endpoint.port s.host.arrivals) (corrupted : Nat) (notices : List Notice) :
    (s.heard corrupted arrivals notices).awaitRequest.gist = s.gist := by
  have hasks' : (s.heard corrupted arrivals notices).awaitRequest.Asks := .inr ⟨_, rfl⟩
  rw [hasks.gist_eq, hasks'.gist_eq]
  simp only [awaitRequest, heard, hush, harrivals]

/-- A server that reads a request accepts it. -/
lemma resumeTransfer_of_request {deadline : Option Int}
    (hstage : s.stage = .awaitingRequest deadline) (hopen : s.endpoint.Open s.host)
    {a : Arrival} {rest : List Arrival}
    (harrivals : s.host.arrivals = a :: rest) (hdue : a.time ≤ s.host.now) {r : Received}
    (hreading : a.reading s.endpoint.port = some r) (hrequest : r.packet.isRequest = true) :
    ∃ corrupted notices,
      s.resumeTransfer = (s.heard corrupted rest notices).acceptRequest r := by
  obtain ⟨corrupted, notices, hreceive⟩ := receive_of_due hopen harrivals hdue
  refine ⟨corrupted, notices, ?_⟩
  rw [resumeTransfer, hstage]
  dsimp only
  rw [hreceive, hreading]
  exact if_pos hrequest

/-- **The request** is read in the gist as well. -/
lemma drifts_acceptRequest {deadline : Option Int} (hstage : s.stage = .awaitingRequest deadline)
    (hopen : s.endpoint.Open s.host) {a : Arrival} {rest : List Arrival}
    (harrivals : s.host.arrivals = a :: rest) (hdue : a.time ≤ s.host.now) {r : Received}
    (hreading : a.reading s.endpoint.port = some r) (hrequest : r.packet.isRequest = true) :
    hushed.Drifts limit s.gist s.resumeTransfer.gist := by
  let g : Server := { s.hush with
    host := { s.hush.host with
      arrivals := a :: rest.filter (Arrival.speaks s.endpoint.port r.source) }
    stage := .awaitingRequest none }
  have hgist : s.gist = g := by
    rw [Asks.gist_eq (.inr ⟨deadline, hstage⟩), harrivals, Arrival.asks, hreading,
      Option.filter_some, if_pos hrequest]
  have hready : system.firstReady? g = some 0 := by
    rw [firstReady?_eq, if_pos]
    show (readReadiness g.host none).isReadyAt s.host.now = true
    rw [readReadiness_cons (h := g.host) rfl]
    exact decide_eq_true hdue
  obtain ⟨corrupted, notices, hresume⟩ :=
    resumeTransfer_of_request hstage hopen harrivals hdue hreading hrequest
  obtain ⟨corrupted', notices', hresume'⟩ :=
    resumeTransfer_of_request (s := g) rfl hopen rfl hdue hreading hrequest
  refine drifts_of_turn (i := 0) (hgist ▸ hready) ?_
  rw [hgist]
  show g.resumeTransfer.gist = s.resumeTransfer.gist
  rw [hresume, hresume']
  refine gist_acceptRequest ?_
  simp only [asked, heard, note, Host.note, hush, g, List.filter_filter, Bool.and_self,
    Listener.hush_hush, hstage, Stage.hush]

/-- What comes before the request does not show. -/
lemma drifts_considerRequest {deadline : Option Int} (hstage : s.stage = .awaitingRequest deadline)
    (hopen : s.endpoint.Open s.host) : hushed.Drifts limit s.gist s.resumeTransfer.gist := by
  have hasks : s.Asks := .inr ⟨deadline, hstage⟩
  have hresume : s.resumeTransfer = s.receive.2.considerRequest s.receive.1 := by
    rw [resumeTransfer, hstage]
  rcases s.due_or_early with ⟨a, rest, harrivals, hdue⟩ | hearly
  · obtain ⟨corrupted, notices, hreceive⟩ := receive_of_due hopen harrivals hdue
    rw [hreceive] at hresume
    dsimp only at hresume
    cases hreading : a.reading s.endpoint.port with
    | none =>
        rw [hresume, hreading]
        refine drifts_of_eq (hasks.gist_awaitRequest ?_ corrupted notices)
        rw [harrivals, Arrival.asks, hreading]
        rfl
    | some r =>
        by_cases hrequest : r.packet.isRequest = true
        · exact drifts_acceptRequest hstage hopen harrivals hdue hreading hrequest
        · obtain ⟨notices', hnotices⟩ := (s.heard corrupted rest notices).host.noteIf_eq
            (s.heard corrupted rest notices).options.verbose (.ignoredBeforeRequest r.packet)
          rw [hresume, hreading, considerRequest, if_neg hrequest, noteVerbose, hnotices]
          refine drifts_of_eq (hasks.gist_awaitRequest ?_ corrupted notices')
          rw [harrivals, Arrival.asks, hreading, Option.filter_some, if_neg hrequest]
          rfl
  · rw [hresume, receive_of_early hopen hearly]
    exact drifts_of_eq (hasks.gist_awaitRequest rfl s.endpoint.corrupted s.host.notices)

lemma drifts_of_asks (hasks : s.Asks) (hopen : s.endpoint.Open s.host) :
    hushed.Drifts limit s.gist s.resumeTransfer.gist := by
  rcases hasks with hstage | ⟨deadline, hstage⟩
  · rw [resumeTransfer, hstage]
    exact drifts_of_eq (Asks.gist_awaitRequest (.inl hstage) rfl s.endpoint.corrupted _)
  · exact drifts_considerRequest hstage hopen

/-! ### While the file is sent -/

/-- Turns of the transfer and the timer are taken in the gist as well. -/
lemma firstReady?_hush (hserving : s.stage.isServing = true) {i : Nat}
    (hready : system.firstReady? s = some i)
    (hlistener : i = 2 → s.hush.listenerReadiness.isReadyAt s.host.now = true) :
    system.firstReady? s.hush = some i := by
  rw [firstReady?_eq] at hready ⊢
  rw [transferReadiness_hush hserving]
  change (if s.transferReadiness.isReadyAt s.host.now = true then some 0
    else if s.timer.readiness.isReadyAt s.host.now = true then some 1
    else if s.hush.listenerReadiness.isReadyAt s.host.now = true then some 2 else none) = some i
  split_ifs at hready with htransfer htimer hlistens
  · rw [if_pos htransfer]
    exact hready
  · rw [if_neg htransfer, if_pos htimer]
    exact hready
  · rw [if_neg htransfer, if_neg htimer, if_pos (hlistener (Option.some.inj hready).symm)]
    exact hready

lemma drifts_resumeTransfer (hserving : s.stage.isServing = true)
    (hready : system.firstReady? s = some 0) :
    hushed.Drifts limit s.gist s.resumeTransfer.gist := by
  have hgist := gist_of_isServing hserving
  refine drifts_of_turn (i := 0) ?_ ?_ <;> rw [hgist]
  · exact firstReady?_hush hserving hready nofun
  · exact deaf_resumeTransfer hserving

lemma gist_resumeTimer (hserving : s.stage.isServing = true) :
    s.resumeTimer.gist = s.resumeTimer.hush := by
  obtain ⟨_, _, _, hresume, _⟩ := resumeTimer_frame s
  rw [hresume]
  exact gist_of_isServing hserving

lemma drifts_resumeTimer (hserving : s.stage.isServing = true)
    (hready : system.firstReady? s = some 1) :
    hushed.Drifts limit s.gist s.resumeTimer.gist := by
  have hgist := gist_of_isServing hserving
  have hserving' : s.hush.stage.isServing = true := s.stage.isServing_hush.trans hserving
  refine drifts_of_turn (i := 1) ?_ ?_ <;> rw [hgist]
  · exact firstReady?_hush hserving hready nofun
  · show s.hush.resumeTimer.gist = s.resumeTimer.gist
    rw [gist_resumeTimer hserving, gist_resumeTimer hserving']
    exact deaf_resumeTimer s

/-! ### While the listener reads -/

/-- What its client does not say is not heeded. -/
lemma heed_of_not_speaks {port : UInt16} {a : Arrival} (hsilent : ¬ a.speaks port s.client = true) :
    s.heed (a.reading port) = s := by
  rw [Arrival.speaks] at hsilent
  cases hreading : a.reading port with
  | none => rfl
  | some r =>
      rw [hreading, Option.any_some] at hsilent
      exact if_neg fun h => hsilent (decide_eq_true h)

lemma gist_heed_listen (received : Option Received) (hserving : s.stage.isServing = true) :
    (s.heed received).listen.gist = (s.heed received).listen.hush := by
  refine gist_of_isServing ?_
  show (s.heed received).stage.isServing = true
  rcases heed_cases received s with hsame | ⟨_, _, _, hheed⟩
  · rw [hsame]
    exact hserving
  · rw [hheed]
    exact s.stage.isServing_notify.trans hserving

/-- What its client does not say does not show. -/
lemma gist_listen_heard {deadline : Option Int} (hserving : s.stage.isServing = true)
    (hlistening : s.listening = true) (hlistener : s.listener = .reading deadline)
    {arrivals : List Arrival} (harrivals : arrivals.filter (Arrival.speaks s.endpoint.port s.client)
      = s.host.arrivals.filter (Arrival.speaks s.endpoint.port s.client)) (corrupted : Nat)
    (notices : List Notice) : (s.heard corrupted arrivals notices).listen.gist = s.gist := by
  have hserving' : (s.heard corrupted arrivals notices).listen.stage.isServing = true := hserving
  rw [gist_of_isServing hserving, gist_of_isServing hserving']
  simp only [listen, heard, hush, harrivals, hlistening, hlistener, if_true, Listener.hush]

/-- An acknowledgement of the client is read in the gist as well. -/
lemma drifts_resumeListener_of_speaks {deadline : Option Int} (hserving : s.stage.isServing = true)
    (hlistener : s.listener = .reading deadline) (hopen : s.endpoint.Open s.host)
    (hready : system.firstReady? s = some 2) {a : Arrival} {rest : List Arrival}
    (harrivals : s.host.arrivals = a :: rest) (hdue : a.time ≤ s.host.now)
    (hspeaks : a.speaks s.endpoint.port s.client = true) :
    hushed.Drifts limit s.gist s.resumeListener.gist := by
  have hgist := gist_of_isServing hserving
  have harrivals' : s.hush.host.arrivals
      = a :: rest.filter (Arrival.speaks s.endpoint.port s.client) := by
    show s.host.arrivals.filter _ = _
    rw [harrivals, List.filter_cons_of_pos hspeaks]
  have hlistener' : s.hush.listener = .reading none := by
    show s.listener.hush = _
    rw [hlistener]
    rfl
  have resumes : ∀ (t : Server) deadline received u, t.listener = .reading deadline →
      t.receive = (received, u) → t.resumeListener = (u.heed received).listen := by
    intro t deadline received u hlistener hreceive
    rw [resumeListener, hlistener]
    dsimp only
    rw [hreceive]
  obtain ⟨corrupted, notices, hreceive⟩ := receive_of_due hopen harrivals hdue
  obtain ⟨corrupted', notices', hreceive'⟩ := receive_of_due (s := s.hush) hopen harrivals' hdue
  refine drifts_of_turn (i := 2) ?_ ?_ <;> rw [hgist]
  · refine firstReady?_hush hserving hready fun _ => ?_
    rw [listenerReadiness, hlistener']
    dsimp only
    rw [readReadiness_cons harrivals']
    exact decide_eq_true hdue
  · show s.hush.resumeListener.gist = s.resumeListener.gist
    rw [resumes s.hush _ _ _ hlistener' hreceive', resumes s _ _ _ hlistener hreceive]
    rw [gist_heed_listen (s := s.hush.heard _ _ _) _ (s.stage.isServing_hush.trans hserving),
      gist_heed_listen (s := s.heard corrupted rest notices) _ hserving]
    refine (deaf_listen.comp (deaf_heed (a.reading s.endpoint.port))).eq ?_
    simp only [heard, hush, List.filter_filter, Bool.and_self, Stage.hush_hush, Listener.hush_hush]

/-- **The listener** reads acknowledgements of the client in the gist as well, and what else it
reads does not show. -/
lemma drifts_resumeListener (hserving : s.stage.isServing = true) (hlistening : s.listening = true)
    (hopen : s.endpoint.Open s.host) (hready : system.firstReady? s = some 2) :
    hushed.Drifts limit s.gist s.resumeListener.gist := by
  have hgist := gist_of_isServing hserving
  cases hlistener : s.listener with
  | ended =>
      rw [resumeListener, hlistener]
  | starting =>
      have hlistener' : s.hush.listener = .starting := by
        show s.listener.hush = _
        rw [hlistener]
        rfl
      refine drifts_of_turn (i := 2) ?_ ?_ <;> rw [hgist]
      · refine firstReady?_hush hserving hready fun _ => ?_
        rw [listenerReadiness, hlistener']
        rfl
      · show s.hush.resumeListener.gist = s.resumeListener.gist
        rw [resumeListener, resumeListener, hlistener', hlistener]
        exact (gist_heed_listen none (s.stage.isServing_hush.trans hserving)).trans
          ((deaf_listen s).trans (gist_heed_listen none hserving).symm)
  | reading deadline =>
      rcases s.due_or_early with ⟨a, rest, harrivals, hdue⟩ | hearly
      · by_cases hspeaks : a.speaks s.endpoint.port s.client = true
        · exact drifts_resumeListener_of_speaks hserving hlistener hopen hready harrivals hdue
            hspeaks
        · obtain ⟨corrupted, notices, hreceive⟩ := receive_of_due hopen harrivals hdue
          rw [resumeListener, hlistener]
          dsimp only
          rw [hreceive]
          dsimp only
          rw [heed_of_not_speaks (s := s.heard corrupted rest notices) hspeaks]
          refine drifts_of_eq (gist_listen_heard hserving hlistening hlistener ?_ corrupted notices)
          rw [harrivals, List.filter_cons_of_neg hspeaks]
      · rw [resumeListener, hlistener]
        dsimp only
        rw [receive_of_early hopen hearly]
        exact drifts_of_eq (gist_listen_heard hserving hlistening hlistener rfl
          s.endpoint.corrupted s.host.notices)

/-! ### After the file was sent -/

lemma leave_heed (s : Server) (received : Option Received) : (s.heed received).leave = s.leave := by
  cases received with
  | none => rfl
  | some r =>
      rw [heed]
      split_ifs
      · obtain ⟨notices, hnotices⟩ :=
          s.host.noteIf_eq s.options.verbose (.acknowledged r.packet.ack)
        rw [heedAck, noteVerbose, hnotices]
        rfl
      · rfl

/-- What the listener reads at the end does not show. -/
lemma gist_resumeListener_of_leaving (hstage : s.stage = .joiningListener) :
    s.resumeListener.gist = s.gist := by
  have leaves : ∀ {t : Server}, t.stage = .joiningListener → t.gist = t.leave := by
    intro t ht
    rw [gist, ht]
  have listens : ∀ {t : Server}, t.stage = .joiningListener → t.leave = s.leave →
      t.listen.gist = s.gist := by
    intro t ht hleave
    rw [leaves hstage, leaves (t := t.listen) ht]
    exact hleave
  rw [resumeListener]
  cases s.listener with
  | starting => exact listens hstage rfl
  | ended => rfl
  | reading deadline =>
      obtain ⟨received, corrupted, arrivals, notices, hreceive, _⟩ := s.endpoint.receive_eq s.host
      simp only [receive, hreceive]
      refine listens ?_ (leave_heed _ received)
      rcases heed_cases received (s.heard corrupted arrivals notices) with
        hsame | ⟨_, _, _, hheed⟩
      · exact (congrArg Server.stage hsame).trans hstage
      · refine (congrArg Server.stage hheed).trans ?_
        show s.stage.notify = _
        rw [hstage]
        rfl

/-! ## The run -/

/-- **Every turn**, seen through the gist. -/
lemma drifts_of_ready (hs : Standing o host s) {i : Nat} (hready : system.firstReady? s = some i) :
    hushed.Drifts limit s.gist (system.resume i s).gist := by
  obtain ⟨r, hr, _⟩ := system.ready_of_firstReady? hready
  cases hs with
  | asking hb htimer hlistener hstage =>
      match i with
      | 0 => exact drifts_of_asks hstage hb.opened
      | 1 => exact drifts_of_same (resumeTimer_of_ended htimer)
      | 2 => exact drifts_of_same (resumeListener_of_ended hlistener)
      | _ + 3 => cases hr
  | serving hb hlistening hears hwaits =>
      have hserving := isServing_of_waits hwaits
      match i with
      | 0 => exact drifts_resumeTransfer hserving hready
      | 1 => exact drifts_resumeTimer hserving hready
      | 2 => exact drifts_resumeListener hserving hlistening hb.opened hready
      | _ + 3 => cases hr
  | leaving hb htimer hlistening hstage =>
      have hconclude : s.resumeTransfer.gist = s.gist := by
        rw [resumeTransfer, hstage, gist_conclude, gist, hstage]
      match i with
      | 0 => exact drifts_of_eq hconclude
      | 1 => exact drifts_of_same (resumeTimer_of_ended htimer)
      | 2 => exact drifts_of_eq (gist_resumeListener_of_leaving hstage)
      | _ + 3 => cases hr
  | finished _ htimer hlistener hstage | broken _ htimer hlistener hstage =>
      have hstays : s.resumeTransfer = s := by rw [resumeTransfer, hstage]
      match i with
      | 0 => exact drifts_of_same hstays
      | 1 => exact drifts_of_same (resumeTimer_of_ended htimer)
      | 2 => exact drifts_of_same (resumeListener_of_ended hlistener)
      | _ + 3 => cases hr

lemma now_gist (s : Server) : s.gist.host.now = s.host.now := by
  obtain ⟨_, _, _, stage, _, _, _, _, _, _, _⟩ := s
  cases stage <;> rfl

lemma idle_gist (hs : Standing o host s) (hsorted : s.host.arrivals.Pairwise (·.time ≤ ·.time))
    (hidle : system.Idle s) (hdue : ∀ due, .dueAt due ∈ system.tasks s → time ≤ due) :
    hushed.Idle s.gist ∧ ∀ due, .dueAt due ∈ hushed.tasks s.gist → time ≤ due := by
  have hquiet : ∀ r ∈ hushed.tasks s.gist, r.Quiet s.host.now time :=
    quiet_gist hs hsorted fun r hr =>
      ⟨System.Idle.not_ready hidle hr, fun due hr' => hdue due (hr' ▸ hr)⟩
  refine ⟨List.findIdx?_eq_none_iff.2 fun r hr => ?_, fun due hr => (hquiet _ hr).le due rfl⟩
  show r.isReadyAt s.gist.host.now = false
  rw [now_gist]
  exact (hquiet r hr).waits

/-- **A turn or a jump**, seen through the gist. -/
lemma drifts_of_step (hs : Standing o host s)
    (hsorted : s.host.arrivals.Pairwise (·.time ≤ ·.time))
    (hstep : system.step? (some limit) s = some s') : hushed.Drifts limit s.gist s'.gist := by
  rcases system.step?_eq_some hstep with ⟨i, hi, rfl⟩ | ⟨time, hidle, hdue, hwithin, rfl⟩
  · exact drifts_of_ready hs hi
  · obtain ⟨hwaits, hleast⟩ := system.mem_of_nextDue? hdue
    obtain ⟨hidle', hdue'⟩ := idle_gist hs hsorted hidle hleast
    have hlater : s.host.now < time :=
      Int.not_le.1 (of_decide_eq_false (System.Idle.not_ready hidle hwaits))
    rw [gist_advanceTo]
    -- the jump may go to what a bystander sent; the gist waits for nothing before that
    refine .single (.float ⟨hidle', ?_, of_decide_eq_true hwithin, hdue'⟩)
    show s.gist.host.now ≤ time
    rw [now_gist]
    omega

/-- **What has come to rest** has done so in the gist. -/
lemma step?_gist_eq_none (hs : Standing o host s)
    (hsorted : s.host.arrivals.Pairwise (·.time ≤ ·.time))
    (hlast : system.step? (some limit) s = none) : hushed.step? (some limit) s.gist = none := by
  have hbeyond : ∀ due, .dueAt due ∈ system.tasks s → limit + 1 ≤ due := fun due hmem =>
    system.lt_of_step?_eq_none hlast hmem
  obtain ⟨hidle, hdue⟩ := idle_gist hs hsorted (system.step?_eq_none hlast).1 hbeyond
  rw [System.step?, hidle]
  cases hnext : hushed.nextDue? s.gist with
  | none => rfl
  | some due =>
      have hlt := hdue due (hushed.mem_of_nextDue? hnext).1
      exact if_neg fun hle => absurd (of_decide_eq_true hle) (by omega)

/-- What has arrived is read in order. -/
lemma Standing.suffix_of_step (hs : Standing o host s) (hpoll : 1 ≤ o.settings.poll)
    (htimeout : 0 ≤ o.settings.receiveTimeout) (hstep : system.step? (some limit) s = some s') :
    s'.host.arrivals <:+ s.host.arrivals := by
  rcases system.step?_eq_some hstep with ⟨i, hi, rfl⟩ | ⟨time, _, _, _, rfl⟩
  · exact (hs.resume hpoll htimeout hi).suffix
  · exact List.suffix_rfl

/-- **The gist of a run** is a run of the gist. -/
lemma drifts_of_passes (hs : Standing o host s) (hpoll : 1 ≤ o.settings.poll)
    (htimeout : 0 ≤ o.settings.receiveTimeout)
    (hsorted : s.host.arrivals.Pairwise (·.time ≤ ·.time))
    (hpasses : system.Passes (some limit) s s') :
    hushed.Drifts limit s.gist s'.gist ∧ Standing o host s' ∧
      s'.host.arrivals.Pairwise (·.time ≤ ·.time) := by
  induction hpasses with
  | refl => exact ⟨.refl, hs, hsorted⟩
  | tail _ hstep ih =>
      obtain ⟨hdrifts, hs', hsorted'⟩ := ih
      exact ⟨hdrifts.trans (drifts_of_step hs' hsorted' hstep), (hs'.step hpoll htimeout hstep).1,
        hsorted'.sublist (hs'.suffix_of_step hpoll htimeout hstep).sublist⟩

end Server

end ReliableTransfer
