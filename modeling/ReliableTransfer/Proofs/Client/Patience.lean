import ReliableTransfer.Proofs.Client.Refinement

/-!
# How long a client stays

A client looks at its deadlines only between two reads, and a read takes as long as the timeout of
its socket at most.  What the server sends puts off one of the deadlines; what anybody else sends
puts off none.

* `Client.heard`, `Client.chronicle` — the packets of the server that a client hears, and when.
* `Receiver.finishedAt?`, `Client.lastTime` — when the file came to its end, and when the last
  packet came.
* `Client.latest` — by when a client that has heard these packets has left.
* `Client.Patient` — a client that knows what it has heard, and has not overstayed.
* `Client.Within` — a bound on when something can still be heard.
* `Client.horizon`, **`Client.run_leaves`** — every run comes to its end, and by then.

A packet that is heard at a time that has come already takes no time, so neither the time nor the
number of packets that are still to come bounds the work alone; their sum does.
-/

namespace ReliableTransfer

/-- When the file came to its end for a receiver that is given these packets at these times. -/
def Receiver.finishedAt? (r : Receiver) : List (Int × Packet) → Option Int
  | [] => none
  | (time, p) :: rest =>
    if (r.accept p).1.finished then some time else (r.accept p).1.finishedAt? rest

lemma Receiver.finishedAt?_concat (r : Receiver) (heard : List (Int × Packet)) (time : Int)
    (p : Packet) : r.finishedAt? (heard ++ [(time, p)]) = (r.finishedAt? heard).or
      (if ((r.acceptAll (heard.map Prod.snd)).1.accept p).1.finished then some time else none) := by
  induction heard generalizing r with
  | nil => rfl
  | cons first rest ih =>
      rw [List.cons_append, finishedAt?, finishedAt?]
      by_cases hfinished : (r.accept first.2).1.finished = true
      · rw [if_pos hfinished, if_pos hfinished, Option.some_or]
      · rw [if_neg hfinished, if_neg hfinished]
        exact ih (r.accept first.2).1

/-- When a read that begins now will be over, and it is not put off. -/
lemma Host.exists_awaitRead {h : Host} {descriptor : Option Nat} {timeout : Int}
    (hpatience : (descriptor.bind h.socket?).map Socket.receiveTimeout = some (some timeout)) :
    ∃ time, (∀ limit, h.awaitRead limit descriptor
        = if time ≤ limit then some (h.advanceTo time) else none) ∧
      time ≤ h.now + timeout ∧ (∀ a ∈ h.arrivals.head?, time ≤ a.time) ∧
      (time = h.now + timeout ∨ ∃ a ∈ h.arrivals.head?, time = a.time) := by
  obtain ⟨socket, hsocket, htimeout⟩ := Option.map_eq_some_iff.1 hpatience
  have hdeadline : h.readDeadline descriptor = some (h.now + timeout) := by
    rw [readDeadline, hsocket]
    dsimp only
    rw [htimeout, Option.map_some]
  have hdue : ∀ time, h.readDue? (some (h.now + timeout)) = some time → ∀ limit,
      h.awaitRead limit descriptor = if time ≤ limit then some (h.advanceTo time) else none := by
    intro time htime limit
    rw [awaitRead, hdeadline, htime]
  cases harrivals : h.arrivals with
  | nil =>
      refine ⟨h.now + timeout, hdue _ ?_, Int.le_refl _, by simp, .inl rfl⟩
      simp only [readDue?, harrivals, List.head?_nil]
  | cons a rest =>
      refine ⟨min a.time (h.now + timeout), hdue _ ?_, Int.min_le_right _ _, ?_, ?_⟩
      · simp only [readDue?, harrivals, List.head?_cons]
      · intro a' ha'
        obtain rfl := Option.some.inj ha'
        exact Int.min_le_left _ _
      · rcases Int.le_total a.time (h.now + timeout) with hle | hle
        · exact .inr ⟨a, rfl, Int.min_eq_left hle⟩
        · exact .inl (Int.min_eq_right hle)

/-- When the last of what the network still brings has come. -/
def Host.lastArrival (h : Host) : Int :=
  h.arrivals.foldr (fun a time => max a.time time) h.now

lemma Host.le_lastArrival (h : Host) :
    h.now ≤ h.lastArrival ∧ ∀ a ∈ h.arrivals, a.time ≤ h.lastArrival := by
  rw [lastArrival]
  induction h.arrivals with
  | nil => exact ⟨Int.le_refl _, nofun⟩
  | cons a rest ih =>
      rw [List.foldr_cons]
      refine ⟨Int.le_trans ih.1 (Int.le_max_right _ _), fun a' ha' => ?_⟩
      rcases List.mem_cons.1 ha' with rfl | ha'
      · exact Int.le_max_left _ _
      · exact Int.le_trans (ih.2 a' ha') (Int.le_max_right _ _)

namespace Client

/-! ## What is heard -/

/-- The packet of the server that a read which is over brings, and the time. -/
def next? (c : Client) : Option (Int × Packet) :=
  ((c.endpoint.receive c.host).1.filter (fromServer c.options)).map fun r => (c.host.now, r.packet)

/-- The packets of the server that a client hears in its loop, and when. -/
def heard (limit : Int) : Nat → Client → List (Int × Packet)
  | 0, _ => []
  | n + 1, c =>
    match c.decide with
    | .read c =>
      match c.host.awaitRead limit c.endpoint.descriptor with
      | none => []
      | some host =>
        ({ c with host } : Client).next?.toList ++ heard limit n ({ c with host } : Client).read
    | _ => []

/-- The packets of the server that a client hears in a run, and when. -/
def chronicle (o : ClientOptions) (limit : Int) (host : Host) : List (Int × Packet) :=
  match begun? o host with
  | some (true, c) => c.heard limit (fuel limit host)
  | _ => []

/-- When the last of these packets came, or else `start`. -/
def lastTime (start : Int) (heard : List (Int × Packet)) : Int :=
  (heard.getLast?.map Prod.fst).getD start

/-- **By when a client has left** that began at `start` and has heard these packets: some time after
the file came to its end, or else some time after the last packet. -/
def latest (o : ClientOptions) (start : Int) (heard : List (Int × Packet)) : Int :=
  match ({} : Receiver).finishedAt? heard with
  | some time => time + max 0 o.linger + o.settings.receiveTimeout
  | none => lastTime start heard + max 0 o.idleTimeout + o.settings.receiveTimeout

lemma lastTime_concat (start : Int) (heard : List (Int × Packet)) (x : Int × Packet) :
    lastTime start (heard ++ [x]) = x.1 := by
  rw [lastTime, List.getLast?_concat]
  rfl

variable {o : ClientOptions} {c c' : Client} {host : Host} {arrivals : List Arrival}
  {before : List (Int × Packet)} {start bound : Int}

/-- What was heard at some time before the client would have to leave puts that off. -/
lemma le_latest_concat {now : Int} (hnow : now ≤ latest o start before)
    (htimeout : 1 ≤ o.settings.receiveTimeout) (p : Packet) :
    now ≤ latest o start (before ++ [(now, p)]) := by
  rw [latest, Receiver.finishedAt?_concat]
  rw [latest] at hnow
  cases hfinished : ({} : Receiver).finishedAt? before with
  | some time =>
      rw [hfinished] at hnow
      exact hnow
  | none =>
      rw [Option.none_or]
      split_ifs
      · dsimp only
        omega
      · dsimp only
        rw [lastTime_concat]
        dsimp only
        omega

/-! ## Deciding and reading -/

/-- All of a client that bears on when it leaves. -/
def pacing (c : Client) :=
  (c.options, (c.endpoint.address, c.endpoint.port, c.endpoint.descriptor), c.receiver,
    (c.lastHeard, c.endedAt), c.host.sockets, c.host.now, c.host.arrivals)

lemma pacing_ask (hl : c.Located o) (hopen : c.endpoint.Open c.host) :
    c.ask.2.pacing = c.pacing := by
  rw [Client.ask]
  split_ifs
  · rfl
  · obtain ⟨ok, host, htransmit, hposted⟩ :=
      transmit_eq hl hopen (requestPacket c.options.fileName)
    have hsent : ({ c with host } : Client).pacing = c.pacing := by
      simp only [pacing, hposted.sockets_eq, hposted.now_eq, hposted.arrivals_eq]
    rw [htransmit]
    cases ok with
    | true => exact hsent
    | false => exact hsent

/-- A decision takes no time and reads nothing. -/
lemma pacing_decide (hl : c.Located o) (hopen : c.endpoint.Open c.host) :
    c.decide.client.pacing = c.pacing := by
  rw [Client.decide]
  split_ifs
  · rfl
  · rfl
  · rfl
  · have hask := pacing_ask (c := c.note .requestRepeated)
      ⟨hl.options_eq, hl.address_eq, hl.port_eq⟩ (hopen.of_eq rfl rfl)
    split
    · rename_i c' hc'
      rw [hc'] at hask
      exact hask
    · rename_i c' hc'
      rw [hc'] at hask
      exact hask
  · rfl

/-- A client that goes on to read has passed neither of its deadlines. -/
lemma not_over_of_decide (h : c.decide = .read c') :
    (∀ time ∈ c.endedAt, c.host.now < time + c.options.linger) ∧
      c.host.now < c.lastHeard + c.options.idleTimeout := by
  rw [Client.decide] at h
  split_ifs at h with hlingered hsilent
  all_goals
    refine ⟨fun time htime => ?_, ?_⟩
    · rw [lingered, Option.mem_def.1 htime, Option.any_some, decide_eq_true_iff] at hlingered
      omega
    · rw [silent, decide_eq_true_iff] at hsilent
      omega

/-- **A read that is over** takes an arrival off the network and hears the packet in it, if that is
one of the server; or nothing has come yet. -/
lemma read_next (hl : c.Located o) (hopen : c.endpoint.Open c.host) :
    (∃ a rest corrupted notices, c.host.arrivals = a :: rest ∧ a.time ≤ c.host.now ∧
      c.next? = (packet? o a).map (c.host.now, ·) ∧
      c.read = (packet? o a).elim
        { c with
          endpoint := { c.endpoint with corrupted }
          host := { c.host with arrivals := rest, notices } }
        { c with
          endpoint := { c.endpoint with corrupted }
          host := { c.host with arrivals := rest, notices } }.hear) ∨
    ((∀ a ∈ c.host.arrivals.head?, c.host.now < a.time) ∧ c.next? = none ∧ c.read = c) := by
  rcases Endpoint.receive_cases hopen with
    ⟨a, rest, corrupted, notices, harrivals, htime, hreceive⟩ | ⟨htime, hreceive⟩
  · refine .inl ⟨a, rest, corrupted, notices, harrivals, htime, ?_, ?_⟩
    · rw [next?, hreceive, packet?, ← hl.port_eq, ← hl.options_eq, Option.map_map]
      rfl
    · rw [Client.read, hreceive, packet?, ← hl.port_eq, ← hl.options_eq]
      cases a.reading c.endpoint.port with
      | none => rfl
      | some r =>
          rw [Option.filter_some]
          dsimp only
          split_ifs <;> rfl
  · refine .inr ⟨htime, ?_, ?_⟩
    · rw [next?, hreceive]
      rfl
    · rw [Client.read, hreceive]

/-! ## A client that does not overstay -/

/-- **A client that knows what it has heard and has not overstayed.**  It has read some of what
there was to come since it began at `start`, and these are the packets of the server in that. -/
structure Patient (o : ClientOptions) (arrivals : List Arrival) (start : Int)
    (heard : List (Int × Packet)) (c : Client) : Prop extends c.Located o where
  patience_eq : (c.endpoint.descriptor.bind c.host.socket?).map Socket.receiveTimeout
    = some (some o.settings.receiveTimeout)
  kept : ∃ read, arrivals = read ++ c.host.arrivals ∧ heard.map Prod.snd = packets o read
  receiver_eq : c.receiver = (({} : Receiver).acceptAll (heard.map Prod.snd)).1
  lastHeard_eq : c.lastHeard = lastTime start heard
  endedAt_eq : c.endedAt = ({} : Receiver).finishedAt? heard
  now_le : c.host.now ≤ latest o start heard

namespace Patient

lemma opened (hp : c.Patient o arrivals start before) : c.endpoint.Open c.host := by
  obtain ⟨socket, hsocket, _⟩ := Option.map_eq_some_iff.1 hp.patience_eq
  rw [Endpoint.Open, hsocket]
  rfl

lemma of_eq (hp : c.Patient o arrivals start before) (heq : c'.pacing = c.pacing) :
    c'.Patient o arrivals start before := by
  simp only [pacing, Prod.mk.injEq] at heq
  obtain ⟨hoptions, ⟨haddress, hport, hdescriptor⟩, hreceiver, ⟨hlastHeard, hendedAt⟩, hsockets,
    hnow, harrivals⟩ := heq
  have hsocket : c'.host.socket? = c.host.socket? := by
    funext descriptor
    rw [Host.socket?, hsockets, Host.socket?]
  refine ⟨⟨?_, ?_, ?_⟩, ?_, ?_, ?_, ?_, ?_, ?_⟩
  · rw [hoptions, hp.options_eq]
  · rw [haddress, hp.address_eq]
  · rw [hport, hp.port_eq]
  · rw [hdescriptor, hsocket, hp.patience_eq]
  · rw [harrivals]
    exact hp.kept
  · rw [hreceiver, hp.receiver_eq]
  · rw [hlastHeard, hp.lastHeard_eq]
  · rw [hendedAt, hp.endedAt_eq]
  · rw [hnow]
    exact hp.now_le

/-- Waiting for a read that is over in time does not make a client overstay that has passed neither
of its deadlines. -/
lemma await (hp : c.Patient o arrivals start before) (htimeout : 1 ≤ o.settings.receiveTimeout)
    (hlinger : ∀ time ∈ c.endedAt, c.host.now < time + c.options.linger)
    (hidle : c.host.now < c.lastHeard + c.options.idleTimeout) {time : Int}
    (htime : time ≤ c.host.now + o.settings.receiveTimeout) :
    ({ c with host := c.host.advanceTo time } : Client).Patient o arrivals start before := by
  refine ⟨⟨hp.options_eq, hp.address_eq, hp.port_eq⟩, hp.patience_eq, hp.kept, hp.receiver_eq,
    hp.lastHeard_eq, hp.endedAt_eq, ?_⟩
  rw [hp.options_eq] at hlinger hidle
  rw [hp.endedAt_eq] at hlinger
  rw [hp.lastHeard_eq] at hidle
  show max c.host.now time ≤ _
  rw [latest]
  cases hfinished : ({} : Receiver).finishedAt? before with
  | some ended =>
      have hended := hlinger ended hfinished
      dsimp only
      omega
  | none =>
      dsimp only
      omega

/-- **A read**: what is heard is known, and the client still has not overstayed. -/
lemma readNext (hp : c.Patient o arrivals start before)
    (htimeout : 1 ≤ o.settings.receiveTimeout) :
    c.read.Patient o arrivals start (before ++ c.next?.toList) := by
  obtain ⟨read, harrivals, hheard⟩ := hp.kept
  rcases read_next hp.toLocated hp.opened with
    ⟨a, rest, corrupted, notices, ha, _, hnext, hread⟩ | ⟨_, hnext, hread⟩
  · have hread' : arrivals = (read ++ [a]) ++ rest := by
      rw [harrivals, ha, List.append_assoc, List.singleton_append]
    rw [hread, hnext]
    cases hpacket : packet? o a with
    | none =>
        rw [Option.map_none, Option.toList_none, List.append_nil]
        refine ⟨⟨hp.options_eq, hp.address_eq, hp.port_eq⟩, hp.patience_eq,
          ⟨read ++ [a], hread', ?_⟩, hp.receiver_eq, hp.lastHeard_eq, hp.endedAt_eq, hp.now_le⟩
        rw [hheard, packets_concat, hpacket, Option.toList_none, List.append_nil]
    | some p =>
        obtain ⟨host, report, hhear, hposted⟩ := hear_eq (c := { c with
            endpoint := { c.endpoint with corrupted }
            host := { c.host with arrivals := rest, notices } })
          ⟨hp.options_eq, hp.address_eq, hp.port_eq⟩ hp.opened p
        have hsocket : host.socket? = c.host.socket? := by
          funext descriptor
          rw [Host.socket?, hposted.sockets_eq, Host.socket?]
        rw [Option.elim_some, hhear, Option.map_some, Option.toList_some]
        refine ⟨⟨hp.options_eq, hp.address_eq, hp.port_eq⟩, ?_, ⟨read ++ [a], ?_, ?_⟩, ?_, ?_, ?_,
          ?_⟩
        · dsimp only
          rw [hsocket, hp.patience_eq]
        · dsimp only
          rw [hposted.arrivals_eq, hread']
        · rw [List.map_append, hheard, packets_concat, hpacket]
          rfl
        · rw [List.map_append, Receiver.acceptAll_append, ← hp.receiver_eq]
          rfl
        · rw [lastTime_concat]
        · rw [Receiver.finishedAt?_concat, ← hp.receiver_eq, ← hp.endedAt_eq]
        · dsimp only
          rw [hposted.now_eq]
          exact le_latest_concat hp.now_le htimeout p
  · rw [hread, hnext, Option.toList_none, List.append_nil]
    exact hp

end Patient

/-! ## Leaving -/

/-- **Nothing can be heard any more after `bound`**, and nothing was. -/
structure Within (bound : Int) (c : Client) : Prop where
  arrivals_le : ∀ a ∈ c.host.arrivals, a.time ≤ bound
  lastHeard_le : c.lastHeard ≤ bound
  now_le : c.host.arrivals = [] ∨ c.host.now ≤ bound

/-- What is still to come, and the time that is left. -/
def remaining (deadline : Int) (c : Client) : Nat :=
  c.host.arrivals.length + (deadline - c.host.now).toNat

lemma Within.of_eq (hw : c.Within bound) (heq : c'.pacing = c.pacing) : c'.Within bound := by
  simp only [pacing, Prod.mk.injEq] at heq
  obtain ⟨_, _, _, ⟨hlastHeard, _⟩, _, hnow, harrivals⟩ := heq
  refine ⟨?_, ?_, ?_⟩
  · rw [harrivals]
    exact hw.arrivals_le
  · rw [hlastHeard]
    exact hw.lastHeard_le
  · rw [harrivals, hnow]
    exact hw.now_le

/-- **A round of reading** leaves less to do: something has come, or time has passed. -/
lemma Within.round {timeout time : Int} (deadline : Int) (hw : c.Within bound) (hl : c.Located o)
    (hopen : c.endpoint.Open c.host) (htimeout : 1 ≤ timeout) (hnow : c.host.now < deadline)
    (hbefore : ∀ a ∈ c.host.arrivals.head?, time ≤ a.time)
    (htime : time = c.host.now + timeout ∨ ∃ a ∈ c.host.arrivals.head?, time = a.time) :
    ({ c with host := c.host.advanceTo time } : Client).read.Within bound ∧
      ({ c with host := c.host.advanceTo time } : Client).read.remaining deadline
        < c.remaining deadline := by
  rcases read_next (c := { c with host := c.host.advanceTo time })
    ⟨hl.options_eq, hl.address_eq, hl.port_eq⟩ hopen with
    ⟨a, rest, corrupted, notices, ha, hread, _, heq⟩ | ⟨hlate, _, heq⟩
  · have harrivals : c.host.arrivals = a :: rest := ha
    have hbound : a.time ≤ bound :=
      hw.arrivals_le a (by rw [harrivals]; exact List.mem_cons_self)
    have hle : time ≤ a.time := hbefore a (by rw [harrivals]; rfl)
    have hnow' : max c.host.now time ≤ bound := by
      rcases hw.now_le with hnil | hle'
      · rw [harrivals] at hnil
        cases hnil
      · omega
    have hrest : ∀ a ∈ rest, a.time ≤ bound := fun a' ha' =>
      hw.arrivals_le a' (by rw [harrivals]; exact List.mem_cons_of_mem a ha')
    have hless : rest.length + (deadline - max c.host.now time).toNat < c.remaining deadline := by
      rw [remaining, harrivals, List.length_cons]
      omega
    rw [heq]
    cases packet? o a with
    | none => exact ⟨⟨hrest, hw.lastHeard_le, .inr hnow'⟩, hless⟩
    | some p =>
        obtain ⟨host, report, hhear, hposted⟩ := hear_eq (c := { c with
            endpoint := { c.endpoint with corrupted }
            host := { c.host.advanceTo time with arrivals := rest, notices } })
          ⟨hl.options_eq, hl.address_eq, hl.port_eq⟩ hopen p
        rw [Option.elim_some, hhear]
        refine ⟨⟨?_, hnow', .inr ?_⟩, ?_⟩
        · dsimp only
          rw [hposted.arrivals_eq]
          exact hrest
        · dsimp only
          rw [hposted.now_eq]
          exact hnow'
        · rw [remaining]
          dsimp only
          rw [hposted.now_eq, hposted.arrivals_eq]
          exact hless
  · -- nothing has come, so the whole timeout has passed
    have htime' : time = c.host.now + timeout := by
      rcases htime with htime | ⟨a, ha, htime⟩
      · exact htime
      · have hlate' : max c.host.now time < a.time := hlate a ha
        omega
    rw [heq]
    refine ⟨⟨hw.arrivals_le, hw.lastHeard_le, ?_⟩, ?_⟩
    · cases harrivals : c.host.arrivals with
      | nil => exact .inl harrivals
      | cons a rest =>
          have hlate' : max c.host.now time < a.time := hlate a (by
            dsimp only [Host.advanceTo]
            rw [harrivals]
            rfl)
          have hbound := hw.arrivals_le a (by rw [harrivals]; exact List.mem_cons_self)
          refine .inr ?_
          show max c.host.now time ≤ bound
          omega
    · show c.host.arrivals.length + (deadline - max c.host.now time).toNat < c.remaining deadline
      rw [remaining]
      omega

/-- **One round of the loop**, if it goes on: a read is over within the patience of the socket, what
it brings is heard, and there is less to do. -/
lemma Patient.round (hp : c.Patient o arrivals start before) (hw : c.Within bound)
    {deadline : Int}
    (hdeadline : deadline = bound + max 0 o.idleTimeout + o.settings.receiveTimeout)
    (htimeout : 1 ≤ o.settings.receiveTimeout) (hdecision : c.decide = .read c') :
    ∃ time next, next = ({ c' with host := c'.host.advanceTo time } : Client) ∧
      (∀ limit, c'.host.awaitRead limit c'.endpoint.descriptor
        = if time ≤ limit then some next.host else none) ∧
      time ≤ deadline ∧ next.read.Patient o arrivals start (before ++ next.next?.toList) ∧
      next.read.Within bound ∧ next.read.remaining deadline < c.remaining deadline := by
  have hpacing := pacing_decide hp.toLocated hp.opened
  have hp' := hp.of_eq hpacing
  have hw' := hw.of_eq hpacing
  rw [hdecision] at hpacing hp' hw'
  obtain ⟨hlinger, hidle⟩ := not_over_of_decide hdecision
  simp only [Decision.client, pacing, Prod.mk.injEq] at hpacing
  obtain ⟨hoptions, _, _, ⟨hlastHeard, hendedAt⟩, _, hnow, harrivals⟩ := hpacing
  rw [← hendedAt, ← hnow, ← hoptions] at hlinger
  rw [← hnow, ← hlastHeard, ← hoptions] at hidle
  obtain ⟨time, hawait, hle, hbefore, htime⟩ := Host.exists_awaitRead hp'.patience_eq
  have hoptions' := hp'.options_eq
  dsimp only [Decision.client] at hp' hw' hlinger hidle hoptions' hawait hle hbefore htime
  have hidle' : c'.host.now < bound + max 0 o.idleTimeout := by
    have hbound := hw'.lastHeard_le
    rw [hoptions'] at hidle
    omega
  obtain ⟨hwnext, hless⟩ :=
    hw'.round deadline hp'.toLocated hp'.opened htimeout (by omega) hbefore htime
  have hpnext := (hp'.await htimeout hlinger hidle hle).readNext htimeout
  have hsame : c'.remaining deadline = c.remaining deadline := by
    rw [remaining, hnow, harrivals, remaining]
  exact ⟨time, _, rfl, hawait, by omega, hpnext, hwnext, hsame ▸ hless⟩

/-- **The client's work comes to its end**, the same however far it is watched beyond that, and the
client has not overstayed. -/
lemma Patient.leaves (hp : c.Patient o arrivals start before) (hw : c.Within bound)
    (htimeout : 1 ≤ o.settings.receiveTimeout) :
    ∃ ok final more, final.Patient o arrivals start (before ++ more) ∧
      ∀ limit n, bound + max 0 o.idleTimeout + o.settings.receiveTimeout ≤ limit →
        c.remaining (bound + max 0 o.idleTimeout + o.settings.receiveTimeout) < n →
        c.loop limit n = (.finished ok, final) ∧ c.heard limit n = more := by
  set deadline := bound + max 0 o.idleTimeout + o.settings.receiveTimeout with hdeadline
  induction hwork : c.remaining deadline using Nat.strongRecOn generalizing c before with
  | _ work ih =>
      have hpacing := pacing_decide hp.toLocated hp.opened
      have hp' := hp.of_eq hpacing
      cases hdecision : c.decide with
      | leave c' =>
          rw [hdecision] at hp'
          refine ⟨c'.conclude.report.completed, c'.conclude, [], ?_, fun limit n _ hn => ?_⟩
          · rw [List.append_nil]
            exact hp'.of_eq rfl
          · obtain ⟨n, rfl⟩ := Nat.exists_eq_succ_of_ne_zero (Nat.ne_of_gt (Nat.zero_lt_of_lt hn))
            rw [Client.loop, heard, hdecision]
            exact ⟨rfl, rfl⟩
      | breakOff c' =>
          rw [hdecision] at hp'
          refine ⟨false, c', [], ?_, fun limit n _ hn => ?_⟩
          · rw [List.append_nil]
            exact hp'
          · obtain ⟨n, rfl⟩ := Nat.exists_eq_succ_of_ne_zero (Nat.ne_of_gt (Nat.zero_lt_of_lt hn))
            rw [Client.loop, heard, hdecision]
            exact ⟨rfl, rfl⟩
      | read c' =>
          obtain ⟨time, next, rfl, hawait, hle, hpnext, hwnext, hless⟩ :=
            hp.round hw hdeadline htimeout hdecision
          obtain ⟨ok, final, more, hfinal, hloop⟩ := ih _ (hwork ▸ hless) hpnext hwnext rfl
          refine ⟨ok, final, _ ++ more, by rwa [← List.append_assoc], fun limit n hlimit hn => ?_⟩
          obtain ⟨n, rfl⟩ := Nat.exists_eq_succ_of_ne_zero (Nat.ne_of_gt (Nat.zero_lt_of_lt hn))
          rw [Client.loop, heard, hdecision]
          dsimp only
          rw [hawait limit, if_pos (Int.le_trans hle hlimit)]
          obtain ⟨hend, hmore⟩ := hloop limit n hlimit (by omega)
          exact ⟨hend, congrArg _ hmore⟩

/-! ## A run -/

/-- The clock and the patience of the socket at the start. -/
lemma patience_of_opened? {e : Endpoint} {h : Host} (hopened : opened? o host = some (e, h))
    (htimeout : 1 ≤ o.settings.receiveTimeout) : h.now = host.now ∧
      (e.descriptor.bind h.socket?).map Socket.receiveTimeout
        = some (some o.settings.receiveTimeout) := by
  obtain ⟨ok, descriptor, h', hattach, hrewired, _⟩ :=
    ({ address := o.clientAddress, port := o.settings.clientPort } : Endpoint).attach_eq
      o.settings.receiveTimeout host
  rw [opened?, hattach] at hopened
  cases ok with
  | false => cases hopened
  | true =>
      obtain ⟨rfl, rfl⟩ := Prod.mk.inj (Option.some.inj hopened)
      have hpatience := Endpoint.receiveTimeout_attach hattach
      rw [if_neg (by omega)] at hpatience
      exact ⟨hrewired.now_eq, hpatience⟩

/-- A client that has just begun has heard nothing yet, and all that is to come comes by `bound`. -/
lemma patient_of_begun? {asked : Bool} (hbegun : begun? o host = some (asked, c))
    (htimeout : 1 ≤ o.settings.receiveTimeout) (hbound : ∀ a ∈ host.arrivals, a.time ≤ bound)
    (hnow : host.now ≤ bound) : c.Patient o host.arrivals host.now [] ∧ c.Within bound ∧
      c.host.now = host.now ∧ c.host.arrivals = host.arrivals := by
  obtain ⟨⟨e, h⟩, hopened, hcreate⟩ := Option.bind_eq_some_iff.1 hbegun
  obtain ⟨⟨place, files⟩, _, hask⟩ := Option.map_eq_some_iff.1 hcreate
  obtain ⟨haddress, hport, hopen, _, harrivals, _⟩ := opened?_eq hopened
  obtain ⟨hstart, hpatience⟩ := patience_of_opened? hopened htimeout
  have hl : (create o e place { h with files }).Located o := ⟨rfl, haddress, hport⟩
  have hpacing := pacing_ask hl hopen
  rw [show (create o e place { h with files }).ask = (asked, c) from hask] at hpacing
  have hle : h.now ≤ latest o host.now [] := by
    show h.now ≤ host.now + max 0 o.idleTimeout + o.settings.receiveTimeout
    omega
  have hp : (create o e place { h with files }).Patient o host.arrivals host.now [] :=
    ⟨hl, hpatience, ⟨[], harrivals.symm, rfl⟩, rfl, hstart, rfl, hle⟩
  have hw : (create o e place { h with files }).Within bound :=
    ⟨fun a ha => hbound a (harrivals ▸ ha), Int.le_trans (Int.le_of_eq hstart) hnow,
      .inr (Int.le_trans (Int.le_of_eq hstart) hnow)⟩
  have hsame := hpacing
  simp only [pacing, Prod.mk.injEq] at hsame
  exact ⟨hp.of_eq hpacing, hw.of_eq hpacing, hsame.2.2.2.2.2.1.trans hstart,
    hsame.2.2.2.2.2.2.trans harrivals⟩

/-- A client whose output cannot be opened is through at once. -/
lemma exists_run_of_begun?_eq_none (hopened : (opened? o host).isSome = true)
    (htimeout : 1 ≤ o.settings.receiveTimeout) (hbegun : begun? o host = none) :
    ∃ ended, (∀ limit, run o limit host = ended) ∧ ended.conclusion = .finished false ∧
      ended.host.now = host.now ∧ ended.host.arrivals = host.arrivals := by
  obtain ⟨⟨e, h⟩, hopened⟩ := Option.isSome_iff_exists.1 hopened
  obtain ⟨hstart, _⟩ := patience_of_opened? hopened htimeout
  obtain ⟨_, _, _, _, harrivals, _⟩ := opened?_eq hopened
  have hcreate : h.files.create? o.output = none := by
    rw [begun?, hopened] at hbegun
    exact Option.map_eq_none_iff.1 hbegun
  obtain ⟨h', hdetach, hrewired⟩ := e.detach_eq (h.note (.outputNotOpened o.output))
  refine ⟨⟨.finished false, {}, h'⟩, fun limit => ?_, rfl, hrewired.now_eq.trans hstart,
    hrewired.arrivals_eq.trans harrivals⟩
  rw [run_of_opened? hopened, work, hcreate]
  dsimp only
  rw [hdetach]

/-- Coming out takes no time and reads nothing. -/
lemma outcome_finished (ok : Bool) (c : Client) :
    (outcome (.finished ok, c)).conclusion = .finished ok ∧
      (outcome (.finished ok, c)).host.now = c.host.now ∧
      (outcome (.finished ok, c)).host.arrivals = c.host.arrivals := by
  obtain ⟨host, hdetach, hrewired⟩ := c.endpoint.detach_eq
    { c.host with files := c.host.files.put c.place c.output }
  have hhost : (outcome (.finished ok, c)).host = host := by
    show c.close.host = host
    rw [close]
    dsimp only
    rw [hdetach]
  exact ⟨rfl, hhost ▸ hrewired.now_eq, hhost ▸ hrewired.arrivals_eq⟩

/-- How far a client has to be watched: the last of what is to come may be heard, and after that it
has only to wait. -/
def horizon (o : ClientOptions) (host : Host) : Int :=
  let deadline := host.lastArrival + max 0 o.idleTimeout + o.settings.receiveTimeout
  max deadline (deadline - host.now)

/-- **Every run of a client comes to its end.**  A client with an open endpoint whose reads do not
wait for ever is through at some time, whatever the network brings and whatever becomes of what it
sends.  If the file came to its end, it is through within the time it stays after that and one read,
however much more is heard; otherwise within the time the server may be silent and one read, counted
from the last packet of the server, or from the start if there was none. -/
theorem run_leaves (hopened : (opened? o host).isSome = true)
    (htimeout : 1 ≤ o.settings.receiveTimeout) :
    ∃ ended ok heard read,
      (∀ limit, horizon o host ≤ limit →
        run o limit host = ended ∧ chronicle o limit host = heard) ∧
      ended.conclusion = .finished ok ∧ host.arrivals = read ++ ended.host.arrivals ∧
      heard.map Prod.snd = packets o read ∧
      (∀ time, ({} : Receiver).finishedAt? heard = some time →
        ended.host.now ≤ time + max 0 o.linger + o.settings.receiveTimeout) ∧
      (({} : Receiver).finishedAt? heard = none →
        ended.host.now
          ≤ lastTime host.now heard + max 0 o.idleTimeout + o.settings.receiveTimeout) := by
  -- what is left to show of a client that has left
  have hleft : ∀ ok heard, ∀ c : Client, c.Patient o host.arrivals host.now heard →
      ∃ read, host.arrivals = read ++ (outcome (.finished ok, c)).host.arrivals ∧
        heard.map Prod.snd = packets o read ∧
        (∀ time, ({} : Receiver).finishedAt? heard = some time →
          (outcome (.finished ok, c)).host.now
            ≤ time + max 0 o.linger + o.settings.receiveTimeout) ∧
        (({} : Receiver).finishedAt? heard = none → (outcome (.finished ok, c)).host.now
          ≤ lastTime host.now heard + max 0 o.idleTimeout + o.settings.receiveTimeout) := by
    intro ok heard c hp
    obtain ⟨_, hsame, harrivals⟩ := outcome_finished ok c
    obtain ⟨read, hread, hheard⟩ := hp.kept
    have hle := hp.now_le
    rw [latest] at hle
    rw [hsame, harrivals]
    refine ⟨read, hread, hheard, fun time htime => ?_, fun hnone => ?_⟩
    · rw [htime] at hle
      exact hle
    · rw [hnone] at hle
      exact hle
  cases hbegun : begun? o host with
  | none =>
      obtain ⟨ended, hrun, hfinished, hstart, harrivals⟩ :=
        exists_run_of_begun?_eq_none hopened htimeout hbegun
      refine ⟨ended, false, [], [], fun limit _ => ⟨hrun limit, ?_⟩, hfinished, harrivals.symm,
        rfl, nofun, fun _ => ?_⟩
      · rw [chronicle, hbegun]
      · show ended.host.now ≤ host.now + max 0 o.idleTimeout + o.settings.receiveTimeout
        omega
  | some begun =>
      obtain ⟨asked, c⟩ := begun
      obtain ⟨hp, hw, hstart, harrivals⟩ :=
        patient_of_begun? hbegun htimeout host.le_lastArrival.2 host.le_lastArrival.1
      cases asked with
      | false =>
          obtain ⟨read, hrest⟩ := hleft false [] c hp
          refine ⟨outcome (.finished false, c), false, [], read, fun limit _ => ⟨?_, ?_⟩, rfl,
            hrest⟩
          · rw [run_of_begun? hbegun]
            rfl
          · rw [chronicle, hbegun]
      | true =>
          obtain ⟨ok, final, more, hfinal, hloop⟩ := hp.leaves hw htimeout
          obtain ⟨read, hrest⟩ := hleft ok more final hfinal
          refine ⟨outcome (.finished ok, final), ok, more, read, fun limit hlimit => ?_, rfl,
            hrest⟩
          rw [horizon] at hlimit
          have hfuel : c.remaining (host.lastArrival + max 0 o.idleTimeout
              + o.settings.receiveTimeout) < fuel limit host := by
            rw [remaining, fuel, hstart, harrivals]
            omega
          obtain ⟨hend, hmore⟩ := hloop limit (fuel limit host) (by omega) hfuel
          rw [run_of_begun? hbegun, chronicle, hbegun]
          exact ⟨congrArg outcome hend, hmore⟩

/-- A client that stays for a while when it has the file. -/
def lingeringClient : ClientOptions :=
  { hastyClient with linger := 30, idleTimeout := 100, settings := { receiveTimeout := 10 } }

/-- The packets of a file, and its last one over and over again. -/
def insistentHost : Host where
  arrivals :=
    let frames := (numbered (script [[1, 2], [3]])).filterMap fun p =>
      (posting? (text "10.0.0.1") 12345 (text "10.0.0.2") 12346 (0, p)).map (·.2.2.2)
    ([5, 7, 20, 29, 38, 47, 56, 65].zip (frames ++ List.replicate 5 (frames.getLastD []))).map
      fun (time, frame) => ⟨time, .datagram frame⟩

/-- The client has the file at 20 and leaves once the 30 it stays for are over, at 60 at the latest,
while the last packet keeps coming. -/
theorem run_leaves_insistent : (opened? lingeringClient insistentHost).isSome = true ∧
    horizon lingeringClient insistentHost = 175 ∧
    (chronicle lingeringClient 175 insistentHost).map Prod.fst = [5, 7, 20, 29, 38, 47, 56] ∧
    ∀ limit, 175 ≤ limit →
      (run lingeringClient limit insistentHost).conclusion = .finished true ∧
      (run lingeringClient limit insistentHost).host.now ≤ 20 + 30 + 10 := by
  have hopened : (opened? lingeringClient insistentHost).isSome = true := by decide +kernel
  have hhorizon : horizon lingeringClient insistentHost = 175 := by decide +kernel
  have htimes : (chronicle lingeringClient 175 insistentHost).map Prod.fst
      = [5, 7, 20, 29, 38, 47, 56] := by decide +kernel
  have hend : ({} : Receiver).finishedAt? (chronicle lingeringClient 175 insistentHost)
      = some 20 := by decide +kernel
  have hsuccess : (run lingeringClient 175 insistentHost).conclusion = .finished true := by
    decide +kernel
  obtain ⟨ended, ok, heard, read, hrun, _, _, _, htime, _⟩ := run_leaves hopened (by decide)
  rw [hhorizon] at hrun
  obtain ⟨hat, hheard⟩ := hrun 175 (Int.le_refl _)
  rw [hheard] at hend
  rw [hat] at hsuccess
  refine ⟨hopened, hhorizon, htimes, fun limit hlimit => ?_⟩
  rw [(hrun limit hlimit).1]
  exact ⟨hsuccess, htime 20 hend⟩

end Client

end ReliableTransfer
