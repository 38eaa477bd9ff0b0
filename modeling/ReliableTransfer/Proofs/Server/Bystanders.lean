import ReliableTransfer.Proofs.Server.Ending
import ReliableTransfer.Proofs.Server.Shadow

/-!
# Bystanders have no influence on a transfer

Once a request was accepted, what does not come from the address of the one who made it changes
neither what the server sends nor how its run comes out, only when it comes back from its last read.

* `Arrival.isForeign` — a datagram that comes from somewhere else.
* `Server.SameButForeign` — two networks that differ in such datagrams only.
* `Server.Alike` — two machines that a server cannot tell apart; `Server.Alike.shown`,
  `Server.Alike.ended` and `Server.Alike.returns` say how little its runs on them differ.
* **`Server.bystanders_without_influence`** — two runs in networks that differ in bystanders only.
-/

namespace ReliableTransfer

/-- **A datagram that does not come from an address.** -/
def Arrival.isForeign (client : Ipv4.Address) (a : Arrival) : Bool :=
  match a.incoming with
  | .datagram bytes => (Ipv4.Header.parse? bytes).all (·.src ≠ client)
  | .fault _ => false

/-- What is received comes from where its header says. -/
lemma Endpoint.exists_header_of_reading {port : UInt16} {bytes : Bytes} {r : Received}
    (h : Endpoint.reading port bytes = some r) :
    ∃ ip, Ipv4.Header.parse? bytes = some ip ∧ ip.src = r.source := by
  rw [Endpoint.reading] at h
  cases hunframe : unframe? bytes with
  | none =>
      rw [hunframe] at h
      cases h
  | some d =>
      rw [hunframe] at h
      dsimp only at h
      split_ifs at h
      split at h
      · obtain rfl := Option.some.inj h
        obtain ⟨ip, _, hip, _, _, _, rfl⟩ := unframe?_eq_some_iff.1 hunframe
        exact ⟨ip, hip, rfl⟩
      · cases h

/-- A report without its counters of packets. -/
def Report.uncounted (r : Report) : Report :=
  { r.unheard with packetsSent := 0, retransmissions := 0 }

namespace Arrival

variable {port : UInt16} {client : Ipv4.Address} {a : Arrival}

/-- A client does not speak from somewhere else. -/
lemma isForeign_of_speaks (h : a.speaks port client = true) : a.isForeign client = false := by
  obtain ⟨r, hreading, hr⟩ := (Option.any_eq_true _ _).1 h
  obtain ⟨time, bytes | cause⟩ := a
  · obtain ⟨ip, hip, hsource⟩ := Endpoint.exists_header_of_reading hreading
    have hwhole := Ipv4.parse?_append hip (bytes.drop Host.readSize)
    rw [List.take_append_drop] at hwhole
    rw [isForeign]
    dsimp only
    rw [hwhole, Option.all_some, hsource, (of_decide_eq_true hr).1]
    exact decide_eq_false (not_not_intro rfl)
  · rfl

/-- What a client says does not change when foreign datagrams are left out. -/
lemma filter_speaks (arrivals : List Arrival) :
    (arrivals.filter (!·.isForeign client)).filter (speaks port client)
      = arrivals.filter (speaks port client) := by
  rw [List.filter_filter]
  refine List.filter_congr fun a _ => ?_
  cases h : a.speaks port client with
  | false => rfl
  | true => rw [isForeign_of_speaks h]; rfl

/-- What comes before the first request does not matter. -/
lemma asks_append {pre : List Arrival} (hpre : Server.firstRequest? port pre = none)
    (rest : List Arrival) : asks port (pre ++ rest) = asks port rest := by
  induction pre with
  | nil => rfl
  | cons a pre ih =>
      rw [← List.singleton_append, Server.firstRequest?_append, Option.or_eq_none_iff,
        Server.firstRequest?_singleton] at hpre
      rw [List.cons_append, asks, hpre.1]
      exact ih hpre.2

end Arrival

namespace Server

variable {o : ServerOptions} {host : Host} {s s' t t' : Server} {limit : Int}

/-! ## Where two runs begin -/

/-- What is still to arrive makes no difference to a start. -/
lemma start?_of_arrivals (o : ServerOptions) (host : Host) (arrivals : List Arrival) :
    start? o { host with arrivals } = (start? o host).map fun s =>
      { s with host := { s.host with arrivals } } := by
  obtain ⟨ok, e, h, hattach, hattach'⟩ := Endpoint.attach_of_arrivals arrivals host
    { address := o.address, port := o.settings.serverPort } o.settings.receiveTimeout
  rw [start?, start?, hattach, hattach']
  cases ok <;> rfl

/-- A run that cannot start ends at once. -/
lemma run_of_start?_eq_none (hstart : start? o host = none) :
    ∃ h', host.Rewired h' ∧ ∀ limit, run o limit host = ⟨.notStarted, {}, h'⟩ := by
  obtain ⟨ok, descriptor, h', hattach, hrewired, _⟩ :=
    ({ address := o.address, port := o.settings.serverPort } : Endpoint).attach_eq
      o.settings.receiveTimeout host
  rw [start?, hattach] at hstart
  cases ok with
  | true => cases hstart
  | false =>
      obtain ⟨h'', hdetach, hrewired'⟩ := ({
        address := o.address, port := o.settings.serverPort, descriptor } : Endpoint).detach_eq h'
      refine ⟨h'', hrewired.trans hrewired', fun limit => ?_⟩
      rw [run]
      dsimp only at hattach ⊢
      rw [hattach]
      dsimp only
      rw [hdetach]

/-- **The same but for bystanders**: two networks bring the same up to the first request, and after
it they differ in nothing but datagrams that do not come from the address of the one who made it. -/
inductive SameButForeign (port : UInt16) : List Arrival → List Arrival → Prop
  | intro {pre rest rest' : List Arrival} {req : Arrival} {r : Received}
      (none_before : firstRequest? port pre = none) (reading_eq : req.reading port = some r)
      (isRequest : r.packet.isRequest = true)
      (rest_eq : rest.filter (!·.isForeign r.source) = rest'.filter (!·.isForeign r.source)) :
      SameButForeign port (pre ++ req :: rest) (pre ++ req :: rest')

/-- The same matters of both. -/
lemma SameButForeign.asks_eq {port : UInt16} {arrivals arrivals' : List Arrival}
    (h : SameButForeign port arrivals arrivals') :
    Arrival.asks port arrivals = Arrival.asks port arrivals' := by
  obtain ⟨hpre, hreading, hrequest, hsame⟩ := h
  rw [Arrival.asks_append hpre, Arrival.asks_append hpre, Arrival.asks, Arrival.asks, hreading,
    Option.filter_some, if_pos hrequest]
  dsimp only
  rw [← Arrival.filter_speaks, hsame, Arrival.filter_speaks]

/-- A server that has just started shows nothing but what matters of what will arrive. -/
lemma gist_of_arrivals (hstart : start? o host = some s) {arrivals : List Arrival}
    (hsame : Arrival.asks o.settings.serverPort arrivals
      = Arrival.asks o.settings.serverPort host.arrivals) :
    ({ s with host := { s.host with arrivals } } : Server).gist = s.gist := by
  have hasks : s.Asks := .inl (standing_of_start? hstart).2.2.2
  obtain ⟨hidle, harrivals, _⟩ := idle_of_start? hstart
  rw [hasks.gist_eq, Asks.gist_eq (s := { s with host := { s.host with arrivals } }) hasks]
  simp only [hush, hidle.port_eq, harrivals, hsame]

/-! ## What a run shows -/

/-- A server with its clock put back. -/
def timeless (s : Server) : Server :=
  { s with host := { s.host with now := 0 } }

/-- Servers that show the same have sent the same and filed the same. -/
lemma shown_of_timeless_gist (h : s.gist.timeless = t.gist.timeless) :
    s.host.sent = t.host.sent ∧ s.report.uncounted = t.report.uncounted := by
  have shown : ∀ s : Server, s.gist.timeless.host.sent = s.host.sent ∧
      s.gist.timeless.report.uncounted = s.report.uncounted := by
    rintro ⟨_, _, _, stage, _, _, _, _, _, _, _⟩
    cases stage <;> exact ⟨rfl, rfl⟩
  rw [← (shown s).1, ← (shown s).2, h]
  exact shown t

/-- A run that is over, or has only its listener to wait for, shows how it comes out. -/
lemma isOver_gist (s : Server) : s.gist.timeless.stage.isOver = s.stage.isPastTimer := by
  obtain ⟨_, _, _, stage, _, _, _, _, _, _, _⟩ := s
  cases stage <;> rfl

lemma ended_of_timeless_gist {conclusion conclusion' : Conclusion}
    (hs : s.stage = .over conclusion) (ht : t.stage = .over conclusion')
    (h : s.gist.timeless = t.gist.timeless) :
    conclusion = conclusion' ∧ s.report.unheard = t.report.unheard := by
  have shown : ∀ {s : Server} {conclusion}, s.stage = .over conclusion →
      s.gist.timeless.stage = .over conclusion ∧ s.gist.timeless.report = s.report.unheard := by
    intro s conclusion hstage
    rw [gist, hstage]
    exact ⟨rfl, rfl⟩
  obtain ⟨hstage, hreport⟩ := shown hs
  rw [h, (shown ht).1] at hstage
  rw [← hreport, h]
  exact ⟨(Stage.over.inj hstage).symm, (shown ht).2⟩

/-- Where a server stands whose run is over. -/
lemma Standing.of_isOver (hs : Standing o host s) (hover : s.stage.isOver = true) :
    s.timer = .ended ∧ s.listener = .ended ∧
      ∃ conclusion, s.stage = .over conclusion ∧ conclusion ≠ .unfinished := by
  cases hs with
  | finished _ htimer hlistener hstage | broken _ htimer hlistener hstage =>
      exact ⟨htimer, hlistener, _, hstage, nofun⟩
  | asking _ _ _ hstage =>
      rcases hstage with h | ⟨deadline, h⟩ <;> rw [h] at hover <;> cases hover
  | serving _ _ _ hwaits =>
      have hserving := isServing_of_waits hwaits
      obtain ⟨conclusion, hstage⟩ := Stage.exists_conclusion hover
      rw [hstage] at hserving
      cases hserving
  | leaving _ _ _ hstage =>
      rw [hstage] at hover
      cases hover

/-- Nothing happens after the end of a run. -/
lemma Standing.step?_of_isOver (hs : Standing o host s) (hover : s.stage.isOver = true) :
    system.step? (some limit) s = none := by
  obtain ⟨htimer, hlistener, conclusion, hstage, _⟩ := hs.of_isOver hover
  have htasks : system.tasks s = [.held, .held, .held] := by
    show [s.transferReadiness, s.timer.readiness, s.listenerReadiness] = _
    rw [transferReadiness, hstage, htimer, listenerReadiness, hlistener]
    rfl
  rw [System.step?, System.firstReady?, System.nextDue?, htasks]
  rfl

lemma conclusion_of_over {conclusion : Conclusion} (hstage : s.stage = .over conclusion) :
    s.outcome.conclusion = conclusion := by
  rw [outcome, hstage]

/-- A run that is over has come to a conclusion, and no other has. -/
lemma Standing.conclusion_ne (hs : Standing o host s) (hover : s.stage.isOver = true) :
    s.outcome.conclusion ≠ .unfinished := by
  obtain ⟨_, _, conclusion, hstage, hne⟩ := hs.of_isOver hover
  rwa [conclusion_of_over hstage]

lemma isOver_of_conclusion_ne (h : s.outcome.conclusion ≠ .unfinished) :
    s.stage.isOver = true := by
  rw [outcome] at h
  cases hstage : s.stage with
  | «over» conclusion => rfl
  | _ =>
      rw [hstage] at h
      exact absurd rfl h

/-! ## Two runs -/

/-- **Two machines that a server cannot tell apart** by what matters to it. -/
inductive Alike (o : ServerOptions) (host host' : Host) : Prop
  /-- It cannot start on either. -/
  | shut (start_eq : start? o host = none) (start_eq' : start? o host' = none)
      (sent_eq : host.sent = host'.sent)
  /-- It starts the same on both. -/
  | opened {s t : Server} (start_eq : start? o host = some s) (start_eq' : start? o host' = some t)
      (gist_eq : s.gist = t.gist)

/-- A run that has come to rest within a limit. -/
structure Rests (o : ServerOptions) (host : Host) (limit : Int) (s s' : Server) : Prop where
  run_eq : run o limit host = s'.outcome
  passes : system.Passes (some limit) s s'
  last : system.step? (some limit) s' = none
  standing : Standing o host s'
  drifts : hushed.Drifts limit s.gist s'.gist
  last_gist : hushed.step? (some limit) s'.gist = none

lemma exists_rest (hpoll : 1 ≤ o.settings.poll) (htimeout : 0 ≤ o.settings.receiveTimeout)
    (hnow : 0 ≤ host.now) (hsorted : host.arrivals.Pairwise (·.time ≤ ·.time))
    (hstart : start? o host = some s) (limit : Int) : ∃ s', Rests o host limit s s' := by
  obtain ⟨hstanding, _, harrivals, _⟩ := standing_of_start? hstart
  have hpasses := system.passes_run (some limit) (fuel limit s.host) s
  have hlast := step?_run hpoll htimeout hnow hstart limit
  obtain ⟨hdrifts, hs', hsorted'⟩ :=
    drifts_of_passes hstanding hpoll htimeout (harrivals ▸ hsorted) hpasses
  exact ⟨_, run_of_start? hstart limit, hpasses, hlast, hs', hdrifts,
    step?_gist_eq_none hs' hsorted' hlast⟩

/-- Two runs that begin the same show the same within any limit. -/
lemma Rests.timeless_gist_eq {host' : Host} (hs : Rests o host limit s s')
    (ht : Rests o host' limit t t') (hgist : s.gist = t.gist) :
    s'.gist.timeless = t'.gist.timeless :=
  System.eq_of_drifts clocked_hushed (f := timeless) (fun _ _ => rfl) hs.drifts hs.last_gist
    (hgist ▸ ht.drifts) ht.last_gist

/-- A run that is over does not change any more. -/
lemma Rests.eq_of_isOver {limit' : Int} {s'' : Server} (hs : Rests o host limit s s')
    (hs' : Rests o host limit' s s'') (hle : limit ≤ limit') (hover : s'.stage.isOver = true) :
    s'' = s' :=
  ((hs.passes.mono system hle).to_last hs'.passes hs'.last).eq_of_last
    (hs.standing.step?_of_isOver hover)

/-- The clock does not go beyond a limit. -/
lemma Standing.now_le (hs : Standing o host s) (hpoll : 1 ≤ o.settings.poll)
    (htimeout : 0 ≤ o.settings.receiveTimeout) (hnow : s.host.now ≤ limit)
    (hpasses : system.Passes (some limit) s s') : s'.host.now ≤ limit := by
  induction hpasses with
  | refl => exact hnow
  | @tail t t' hpasses hstep ih =>
      rcases system.step?_eq_some hstep with ⟨i, hi, rfl⟩ | ⟨time, _, _, hwithin, rfl⟩
      · rw [((hs.passes hpoll htimeout hpasses).resume hpoll htimeout hi).now_eq]
        exact ih
      · have hle : time ≤ limit := of_decide_eq_true hwithin
        show max t.host.now time ≤ limit
        omega

/-- **A run that has only its listener to wait for** is over when that has come back from its
read. -/
lemma Rests.isOver_later {s'' : Server} (hs : Rests o host limit s s')
    (hs' : Rests o host (limit + o.settings.receiveTimeout) s s'') (hpoll : 1 ≤ o.settings.poll)
    (htimeout : 1 ≤ o.settings.receiveTimeout) (hnow : s'.host.now ≤ limit)
    (hpast : s'.stage.isPastTimer = true) : s''.stage.isOver = true := by
  have hending : Ending s'.host.now s' := by
    rw [Ending]
    cases hs.standing with
    | leaving hb _ _ hstage =>
        rw [hstage, hb.options_eq]
        exact fun t ht => hb.le_of_reading ht
    | finished _ _ _ hstage | broken _ _ _ hstage =>
        rw [hstage]
        trivial
    | asking _ _ _ hstage =>
        rcases hstage with h | ⟨deadline, h⟩ <;> rw [h] at hpast <;> cases hpast
    | serving _ _ _ hwaits =>
        have hserving := isServing_of_waits hwaits
        exfalso
        cases hstage : s'.stage with
        | sendingData | sendingEnd | awaitingAcks | joiningTimer =>
            rw [hstage] at hpast
            cases hpast
        | starting | awaitingRequest | joiningListener | «over» =>
            rw [hstage] at hserving
            cases hserving
  have hon := (hs.passes.mono system (by omega)).to_last hs'.passes hs'.last
  obtain ⟨hstanding, hending'⟩ := hending.passes hs.standing hpoll (by omega) hon
  exact hending'.isOver hstanding htimeout (by omega) hs'.last

namespace Alike

variable {host' : Host}

lemma symm (ha : Alike o host host') : Alike o host' host := by
  cases ha with
  | shut hstart hstart' hsent => exact .shut hstart' hstart hsent.symm
  | opened hstart hstart' hgist => exact .opened hstart' hstart hgist.symm

variable (ha : Alike o host host') (hpoll : 1 ≤ o.settings.poll)
  (hnow : 0 ≤ host.now) (hsorted : host.arrivals.Pairwise (·.time ≤ ·.time))
  (hnow' : 0 ≤ host'.now) (hsorted' : host'.arrivals.Pairwise (·.time ≤ ·.time))
include ha hpoll hnow hsorted hnow' hsorted'

/-- Within any limit they have sent the same and filed the same. -/
lemma shown (htimeout : 0 ≤ o.settings.receiveTimeout) (limit : Int) :
    (run o limit host).host.sent = (run o limit host').host.sent ∧
      (run o limit host).report.uncounted = (run o limit host').report.uncounted := by
  cases ha with
  | shut hstart hstart' hsent =>
      obtain ⟨h, hrewired, hrun⟩ := run_of_start?_eq_none hstart
      obtain ⟨h', hrewired', hrun'⟩ := run_of_start?_eq_none hstart'
      rw [hrun, hrun']
      exact ⟨hrewired.sent_eq.trans (hsent.trans hrewired'.sent_eq.symm), rfl⟩
  | opened hstart hstart' hgist =>
      obtain ⟨s, hs⟩ := exists_rest hpoll htimeout hnow hsorted hstart limit
      obtain ⟨t, ht⟩ := exists_rest hpoll htimeout hnow' hsorted' hstart' limit
      obtain ⟨hsent, hreport⟩ := shown_of_timeless_gist (hs.timeless_gist_eq ht hgist)
      rw [hs.run_eq, ht.run_eq, (outcome_eq s).1, (outcome_eq s).2, (outcome_eq t).1,
        (outcome_eq t).2]
      exact ⟨hsent, hreport⟩

/-- When both have come to their ends, they have come out the same, whenever that was. -/
lemma ended (htimeout : 0 ≤ o.settings.receiveTimeout) {limit limit' : Int}
    (hended : (run o limit host).conclusion ≠ .unfinished)
    (hended' : (run o limit' host').conclusion ≠ .unfinished) :
    (run o limit host).conclusion = (run o limit' host').conclusion ∧
      (run o limit host).host.sent = (run o limit' host').host.sent ∧
      (run o limit host).report.unheard = (run o limit' host').report.unheard := by
  cases ha with
  | shut hstart hstart' hsent =>
      obtain ⟨h, hrewired, hrun⟩ := run_of_start?_eq_none hstart
      obtain ⟨h', hrewired', hrun'⟩ := run_of_start?_eq_none hstart'
      rw [hrun, hrun']
      exact ⟨rfl, hrewired.sent_eq.trans (hsent.trans hrewired'.sent_eq.symm), rfl⟩
  | opened hstart hstart' hgist =>
      obtain ⟨s, hs⟩ := exists_rest hpoll htimeout hnow hsorted hstart limit
      obtain ⟨t, ht⟩ := exists_rest hpoll htimeout hnow' hsorted' hstart' limit'
      rw [hs.run_eq] at hended
      rw [ht.run_eq] at hended'
      have hover := isOver_of_conclusion_ne hended
      have hover' := isOver_of_conclusion_ne hended'
      -- both are as they are within the later of the two limits
      obtain ⟨s', hs'⟩ := exists_rest hpoll htimeout hnow hsorted hstart (max limit limit')
      obtain ⟨t', ht'⟩ := exists_rest hpoll htimeout hnow' hsorted' hstart' (max limit limit')
      obtain rfl := hs.eq_of_isOver hs' (Int.le_max_left ..) hover
      obtain rfl := ht.eq_of_isOver ht' (Int.le_max_right ..) hover'
      have hsame := hs'.timeless_gist_eq ht' hgist
      obtain ⟨conclusion, hstage⟩ := Stage.exists_conclusion hover
      obtain ⟨conclusion', hstage'⟩ := Stage.exists_conclusion hover'
      obtain ⟨hconclusion, hreport⟩ := ended_of_timeless_gist hstage hstage' hsame
      rw [hs.run_eq, ht.run_eq, conclusion_of_over hstage, conclusion_of_over hstage',
        (outcome_eq s').1, (outcome_eq s').2, (outcome_eq t').1, (outcome_eq t').2]
      exact ⟨hconclusion, (shown_of_timeless_gist hsame).1, hreport⟩

/-- When one has come to its end, the other has done so one read later. -/
lemma returns (htimeout : 1 ≤ o.settings.receiveTimeout) {limit : Int} (hlimit : host'.now ≤ limit)
    (hended : (run o limit host).conclusion ≠ .unfinished) :
    (run o (limit + o.settings.receiveTimeout) host').conclusion ≠ .unfinished := by
  have hwait : 0 ≤ o.settings.receiveTimeout := by omega
  cases ha with
  | shut _ hstart' =>
      obtain ⟨h', _, hrun'⟩ := run_of_start?_eq_none hstart'
      rw [hrun']
      nofun
  | opened hstart hstart' hgist =>
      obtain ⟨s, hs⟩ := exists_rest hpoll hwait hnow hsorted hstart limit
      obtain ⟨t, ht⟩ := exists_rest hpoll hwait hnow' hsorted' hstart' limit
      obtain ⟨t', ht'⟩ := exists_rest hpoll hwait hnow' hsorted' hstart'
        (limit + o.settings.receiveTimeout)
      rw [hs.run_eq] at hended
      rw [ht'.run_eq]
      obtain ⟨hstanding, hsame, _, _⟩ := standing_of_start? hstart'
      have hle := hstanding.now_le hpoll hwait (hsame ▸ hlimit) ht.passes
      have hpast : t.stage.isPastTimer = true := by
        rw [← isOver_gist, ← hs.timeless_gist_eq ht hgist, isOver_gist]
        exact Stage.isPastTimer_of_isOver (isOver_of_conclusion_ne hended)
      exact ht'.standing.conclusion_ne (ht.isOver_later ht' hpoll htimeout hle hpast)

end Alike

/-- Two networks that are the same but for bystanders cannot be told apart. -/
lemma alike_of_sameButForeign {arrivals : List Arrival}
    (h : SameButForeign o.settings.serverPort host.arrivals arrivals) :
    Alike o host { host with arrivals } := by
  have hstart' := start?_of_arrivals o host arrivals
  cases hstart : start? o host with
  | none =>
      rw [hstart] at hstart'
      exact .shut hstart hstart' rfl
  | some s =>
      rw [hstart] at hstart'
      exact .opened hstart hstart' (gist_of_arrivals hstart h.asks_eq.symm).symm

/-- **Bystanders have no influence on a transfer.**  Take the same machine in two networks that are
the same but for bystanders.  Within any limit of time the server sends the same datagrams at the
same times, with the same results, and has filed the same about the file.  When both runs have come
to their ends, they have come to the same conclusion, and all they report is the same, apart from
what they counted as received or damaged.  As long as reads come back, neither comes to its end
later than a read after the other. -/
theorem bystanders_without_influence (hpoll : 1 ≤ o.settings.poll)
    (htimeout : 0 ≤ o.settings.receiveTimeout) (hnow : 0 ≤ host.now) {arrivals : List Arrival}
    (hsorted : host.arrivals.Pairwise (·.time ≤ ·.time))
    (hsorted' : arrivals.Pairwise (·.time ≤ ·.time))
    (hsame : SameButForeign o.settings.serverPort host.arrivals arrivals) :
    let first := fun limit => run o limit host
    let second := fun limit => run o limit { host with arrivals }
    (∀ limit, (first limit).host.sent = (second limit).host.sent ∧
      (first limit).report.uncounted = (second limit).report.uncounted) ∧
    (∀ limit limit', (first limit).conclusion ≠ .unfinished →
      (second limit').conclusion ≠ .unfinished →
      (first limit).conclusion = (second limit').conclusion ∧
      (first limit).host.sent = (second limit').host.sent ∧
      (first limit).report.unheard = (second limit').report.unheard) ∧
    (1 ≤ o.settings.receiveTimeout → ∀ limit ≥ host.now,
      ((first limit).conclusion ≠ .unfinished →
        (second (limit + o.settings.receiveTimeout)).conclusion ≠ .unfinished) ∧
      ((second limit).conclusion ≠ .unfinished →
        (first (limit + o.settings.receiveTimeout)).conclusion ≠ .unfinished)) := by
  have ha : Alike o host { host with arrivals } := alike_of_sameButForeign hsame
  have hnow' : 0 ≤ ({ host with arrivals } : Host).now := hnow
  refine ⟨fun limit => ha.shown hpoll hnow hsorted hnow' hsorted' htimeout limit,
    fun limit limit' hended hended' =>
      ha.ended hpoll hnow hsorted hnow' hsorted' htimeout hended hended',
    fun htimeout limit hlimit => ⟨fun hended => ?_, fun hended => ?_⟩⟩
  · exact ha.returns hpoll hnow hsorted hnow' hsorted' htimeout hlimit hended
  · exact ha.symm.returns hpoll hnow' hsorted' hnow hsorted htimeout hlimit hended

/-- What arrives at the small server when a packet was sent to it. -/
def arriving (time : Int) (source : Bytes) (p : Packet) : Arrival :=
  ⟨time, .datagram (((posting? source 12346 smallServer.address 12345 (time, p)).map
    (·.2.2.2)).getD [])⟩

/-- A machine with a file, and a client that asks for it and acknowledges it late. -/
def quietHost : Host where
  files := Files.empty.addFile (text "f") [1, 2, 3]
  arrivals := [arriving 0 (text "10.0.0.2") ⟨0, 0, Flags.request, text "f"⟩,
    arriving 700 (text "10.0.0.2") ⟨0, 2, Flags.ack, []⟩]

/-- The same with a bystander that acknowledges the file early, sends something damaged, and asks
for the file at the last moment. -/
def noisyArrivals : List Arrival :=
  [arriving 0 (text "10.0.0.2") ⟨0, 0, Flags.request, text "f"⟩,
    arriving 100 (text "10.0.0.9") ⟨0, 2, Flags.ack, []⟩,
    ⟨100, .datagram [69, 0, 0, 31, 0, 0, 0, 0, 64, 17, 0, 0, 10, 0, 0, 9, 10, 0, 0, 1,
      48, 58, 48, 57, 0, 11, 0, 0, 1, 2, 3]⟩,
    arriving 700 (text "10.0.0.9") ⟨0, 0, Flags.request, text "f"⟩,
    arriving 700 (text "10.0.0.2") ⟨0, 2, Flags.ack, []⟩]

/-- The file is sent twice although the bystander acknowledges it in between. -/
theorem bystanders_without_influence_forged :
    (∀ limit, (run smallServer limit quietHost).host.sent
      = (run smallServer limit { quietHost with arrivals := noisyArrivals }).host.sent) ∧
    (run smallServer 1000 quietHost).report.unheard
      = (run smallServer 1000 { quietHost with arrivals := noisyArrivals }).report.unheard ∧
    (run smallServer 1000 { quietHost with arrivals := noisyArrivals }).conclusion
      = .finished true ∧
    (run smallServer 1000 { quietHost with arrivals := noisyArrivals }).host.sent.length = 6 ∧
    (run smallServer 1000 { quietHost with arrivals := noisyArrivals }).report.corrupted = 1 := by
  have hsame : SameButForeign 12345 quietHost.arrivals noisyArrivals :=
    @SameButForeign.intro 12345 [] _ _ _ ⟨⟨0, 0, Flags.request, text "f"⟩, ⟨10, 0, 0, 2⟩, 12346⟩ rfl
      (by decide +kernel) (by decide) (by decide +kernel)
  obtain ⟨hshown, hended, _⟩ := bystanders_without_influence (o := smallServer) (by decide)
    (by decide) (by decide) (by decide) (by decide) hsame
  exact ⟨fun limit => (hshown limit).1,
    (hended 1000 1000 (by decide +kernel) (by decide +kernel)).2.2, by decide +kernel,
    by decide +kernel, by decide +kernel⟩

end Server

end ReliableTransfer
