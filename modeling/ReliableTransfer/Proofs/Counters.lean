import ReliableTransfer.Proofs.Client.Dialogue
import ReliableTransfer.Proofs.Server.Counting

/-!
# What the reports count

Both sides keep their counters in several places and put them together at the end.  Then they say
what has gone over the network.

* `Packet.isIdle` — a packet that is of no concern to a receiver.
* `Receiver.counts_acceptAll` — every packet a receiver is given is counted, and so is every
  acknowledgement.
* `Client.counts_of_departs` — what the report of a client says that gets to the end of its loop.
* **`reports_account`** — what the reports of the two sides say.
-/

namespace ReliableTransfer

/-- Whether a packet neither carries data nor ends a file. -/
def Packet.isIdle (p : Packet) : Bool :=
  !p.isData && !p.isFin

namespace Receiver

/-- One packet is counted once, and is acknowledged if it is or was delivered. -/
lemma counts_accept (r : Receiver) (p : Packet) :
    (r.accept p).1.delivered + (r.accept p).1.duplicates
        = r.delivered + r.duplicates + (r.accept p).2.ack.toList.length ∧
      (r.accept p).1.delivered + (r.accept p).1.duplicates + (r.accept p).1.outOfOrder
          + p.isIdle.toNat
        = r.delivered + r.duplicates + r.outOfOrder + 1 := by
  -- what is of concern is not idle
  have concern : p.isData = true ∨ p.isFin = true → p.isIdle = false := by
    intro hkind
    rw [Packet.isIdle]
    rcases hkind with hdata | hfin
    · rw [hdata, Bool.not_true, Bool.false_and]
    · rw [hfin, Bool.not_true, Bool.and_false]
  rcases accept_cases r p with
    ⟨hdata, hfin, hr⟩ | ⟨hkind, _, _, hr⟩ | ⟨hkind, _, hr⟩ | ⟨hkind, _, _, hr⟩
  · rw [hr, Packet.isIdle, hdata, hfin]
    exact ⟨rfl, rfl⟩
  · rw [hr, concern hkind]
    dsimp only [Option.toList_some, List.length_singleton, Bool.toNat_false]
    omega
  · rw [hr, concern hkind]
    dsimp only [Option.toList_some, List.length_singleton, Bool.toNat_false]
    omega
  · rw [hr, concern hkind]
    dsimp only [Option.toList_none, List.length_nil, Bool.toNat_false]
    omega

/-- **A receiver counts all it is given**: what it acknowledges is what it has delivered, now or
before, and the rest was out of order or idle. -/
lemma counts_acceptAll (r : Receiver) (packets : List Packet) :
    (r.acceptAll packets).1.delivered + (r.acceptAll packets).1.duplicates
        = r.delivered + r.duplicates + (r.acks packets).length ∧
      (r.acceptAll packets).1.delivered + (r.acceptAll packets).1.duplicates
          + (r.acceptAll packets).1.outOfOrder + packets.countP Packet.isIdle
        = r.delivered + r.duplicates + r.outOfOrder + packets.length := by
  induction packets generalizing r with
  | nil => exact ⟨rfl, rfl⟩
  | cons p rest ih =>
      obtain ⟨hack, hone⟩ := counts_accept r p
      obtain ⟨hacks, hrest⟩ := ih (r.accept p).1
      have hall : (r.acceptAll (p :: rest)).1 = ((r.accept p).1.acceptAll rest).1 := rfl
      have hlength : (r.acks (p :: rest)).length
          = (r.accept p).2.ack.toList.length + ((r.accept p).1.acks rest).length := by
        rw [← List.singleton_append, acks_append, List.length_append, acks_singleton]
        rfl
      have hidle : (p :: rest).countP Packet.isIdle
          = rest.countP Packet.isIdle + p.isIdle.toNat := by
        rw [List.countP_cons]
        cases p.isIdle <;> rfl
      rw [hall, hlength, hidle, List.length_cons]
      omega

end Receiver

namespace Client

variable {o : ClientOptions} {c final : Client} {host : Host}

/-- Leaving, a client takes over what its endpoint has counted. -/
lemma corrupted_of_departs {limit : Int} {n : Nat} (h : Departs limit n c final) :
    final.report.corrupted = final.endpoint.corrupted := by
  obtain ⟨_, _, last, _, _, _, rfl⟩ := h
  rfl

/-- **The report of a client** that gets to the end of its loop: what it says was sent are the
datagrams that were handed to the network, its requests and the acknowledgements of its receiver;
what it says was received is what its receiver has counted, and what was idle; and what it says was
damaged are the damaged datagrams that were read. -/
lemma counts_of_departs (hbegun : begun? o host = some (true, c)) {limit : Int} {n : Nat}
    (hfinal : (watch limit n (true, c)).2 = final) (hdeparts : Departs limit n c final) :
    ∃ read requests answers, host.arrivals = read ++ final.host.arrivals ∧
      final.host.sent = host.sent ++ (requests ++ answers) ∧
      (∀ x ∈ requests, Carries o (requestPacket o.fileName) x) ∧
      List.Forall₂ (fun number => Carries o (ackPacket number))
        (({} : Receiver).acks (packets o read)) answers ∧
      final.receiver = (({} : Receiver).acceptAll (packets o read)).1 ∧
      final.report.packetsSent = (requests ++ answers).length ∧
      final.report.packetsSent
        = requests.length + final.receiver.delivered + final.receiver.duplicates ∧
      final.report.packetsReceived
        = final.receiver.delivered + final.receiver.duplicates + final.receiver.outOfOrder
          + (packets o read).countP Packet.isIdle ∧
      final.report.corrupted = read.countP (Arrival.damaged o.settings.clientPort) := by
  obtain ⟨_, haskable, d₀, _, hasking⟩ := asks_of_begun? hbegun
  obtain ⟨d, _, hconversed, hcounted⟩ :=
    (hasking rfl).loop (haskable.resolve_right nofun) limit n
  obtain rfl : (c.loop limit n).2 = final := hfinal
  have hcounts := hcounted hdeparts
  obtain ⟨hacks, hall⟩ := Receiver.counts_acceptAll {} (packets o d.read)
  rw [← hcounts.receiver_eq] at hacks hall
  rw [← hcounts.received_count] at hall
  rw [hconversed.answers.length_eq] at hacks
  have hsent := hcounts.sent_count
  refine ⟨d.read, d.requests, d.answers, hconversed.arrivals_eq, hconversed.sent_eq,
    hconversed.asked, hconversed.answers, hcounts.receiver_eq, hsent.trans List.length_append.symm,
    ?_, ?_, (corrupted_of_departs hdeparts).trans hcounts.corrupted_count⟩
  · rw [hsent, Nat.add_assoc, hacks]
    exact congrArg _ (Nat.zero_add _).symm
  · rw [hall]
    exact (Nat.zero_add _).symm

end Client

section Accounts

open Client Server

/-- **The reports account for the traffic.**  When a client gets to the end of its loop, its report
says that as many packets were sent as datagrams were handed to the network, which are its requests
and one for each packet that its receiver has delivered or had delivered before; that as many were
received as its receiver has delivered, had delivered before or found out of order, and those that
neither carry data nor end a file; and that as many were damaged as it has read datagrams, from
whomever, that are for its port and hold no packet.  When a server that has opened its file is
through, its report says that as many packets were sent or sent again as datagrams were handed to
the network, that as many were sent as there are pieces and the end of the file, and that as many
were received as acknowledgements of the client were read since the request. -/
theorem reports_account :
    (∀ (o : ClientOptions) (host : Host) (c : Client), begun? o host = some (true, c) →
      (∀ limit, Client.run o limit host
        = outcome (watch limit (Client.fuel limit host) (true, c))) ∧
      ∀ limit n final, (watch limit n (true, c)).2 = final → Departs limit n c final →
        (∀ conclusion, (outcome (conclusion, final)).report = final.report ∧
          (outcome (conclusion, final)).host.sent = final.host.sent) ∧
        ∃ read requests answers, host.arrivals = read ++ final.host.arrivals ∧
          final.host.sent = host.sent ++ (requests ++ answers) ∧
          (∀ x ∈ requests, Carries o (requestPacket o.fileName) x) ∧
          List.Forall₂ (fun number => Carries o (ackPacket number))
            (({} : Receiver).acks (packets o read)) answers ∧
          final.receiver = (({} : Receiver).acceptAll (packets o read)).1 ∧
          final.report.packetsSent = (requests ++ answers).length ∧
          final.report.packetsSent
            = requests.length + final.receiver.delivered + final.receiver.duplicates ∧
          final.report.packetsReceived
            = final.receiver.delivered + final.receiver.duplicates + final.receiver.outOfOrder
              + (packets o read).countP Packet.isIdle ∧
          final.report.corrupted = read.countP (Arrival.damaged o.settings.clientPort)) ∧
    (∀ (o : ServerOptions) (host : Host) (s : Server), 1 ≤ o.settings.maxPayload →
      o.settings.maxPayload ≤ 65493 → start? o host = some s →
      (∀ limit, Server.run o limit host
        = (system.run (some limit) (Server.fuel limit s.host) s).outcome) ∧
      ∀ limit s' ok, system.Passes limit s s' → s'.stage = .over (.finished ok) →
        s'.outcome.report = s'.report ∧ s'.outcome.host.sent = s'.host.sent ∧
        ∃ read sent, host.arrivals = read ++ s'.host.arrivals ∧
          s'.host.sent = host.sent ++ sent ∧
          ∀ r source, firstRequest? o.settings.serverPort read = some r →
            offered? o host.files r.packet.payload = some source →
            s'.report.packetsSent + s'.report.retransmissions = sent.length ∧
            s'.report.packetsSent
              = (s'.report.fileSize + (o.settings.maxPayload - 1)) / o.settings.maxPayload + 1 ∧
            (∃ bytes, source.bytes? o.settings.maxPayload = some bytes ∧
              s'.report.fileSize = bytes.length) ∧
            ∃ earlier request during, read = earlier ++ request :: during ∧
              firstRequest? o.settings.serverPort earlier = none ∧
              request.reading o.settings.serverPort = some r ∧
              s'.report.packetsReceived
                = during.countP (acknowledges o.settings.serverPort r.source)) := by
  refine ⟨fun o host c hbegun => ⟨run_of_begun? hbegun, ?_⟩,
    fun o host s hmin hmax hstart => ⟨run_of_start? hstart, ?_⟩⟩
  · intro limit n final hfinal hdeparts
    refine ⟨fun conclusion => ⟨?_, sent_outcome conclusion final⟩,
      counts_of_departs hbegun hfinal hdeparts⟩
    cases conclusion <;> rfl
  · intro limit s' ok hpasses hstage
    obtain ⟨hreport, hsame⟩ := outcome_eq s'
    exact ⟨hreport, hsame, counts_of_over hmin hmax hstart hpasses hstage⟩

/-- The counts of a client that had to ask again, and of a server that had to send again. -/
theorem reports_account_tardy_late :
    (∃ requests answers, (Client.run urgentClient 100 tardyHost).host.sent = requests ++ answers ∧
      (Client.run urgentClient 100 tardyHost).report.packetsSent = (requests ++ answers).length ∧
      (Client.run urgentClient 100 tardyHost).report.packetsSent = requests.length + 3 ∧
      (Client.run urgentClient 100 tardyHost).report.packetsReceived = 3 ∧
      (Client.run urgentClient 100 tardyHost).report.corrupted = 1) ∧
    (Server.run smallServer 1000 lateHost).report.packetsSent
        + (Server.run smallServer 1000 lateHost).report.retransmissions
      = (Server.run smallServer 1000 lateHost).host.sent.length ∧
    (Server.run smallServer 1000 lateHost).report.packetsSent = 3 ∧
    (Server.run smallServer 1000 lateHost).report.packetsReceived = 1 := by
  obtain ⟨hclient, hserver⟩ := reports_account
  constructor
  · have hasked : urgentStart.1 = true := by decide +kernel
    have hbegun : begun? urgentClient tardyHost = some (true, urgentStart.2) :=
      (Option.some_get _).symm.trans (congrArg some (Prod.ext hasked rfl))
    have hfinished : (urgentStart.2.loop 100 (Client.fuel 100 tardyHost)).1 = .finished true := by
      decide +kernel
    have hnothing :
        (urgentStart.2.loop 100 (Client.fuel 100 tardyHost)).2.host.arrivals = [] := by
      decide +kernel
    have hreceiver : (urgentStart.2.loop 100 (Client.fuel 100 tardyHost)).2.receiver
        = { expected := 3, finished := true, delivered := 3, bytesWritten := 3 } := by
      decide +kernel
    obtain ⟨hrun, hall⟩ := hclient urgentClient tardyHost urgentStart.2 hbegun
    rw [hrun 100]
    have hwatched : watch 100 (Client.fuel 100 tardyHost) (true, urgentStart.2)
        = urgentStart.2.loop 100 (Client.fuel 100 tardyHost) := rfl
    have hdeparts := ((finished_loop_iff 100 (Client.fuel 100 tardyHost) urgentStart.2).1
      hfinished).1
    rw [hwatched]
    obtain ⟨hsame, read, requests, answers, hread, hsent, _, _, _, hcount, hasks, hreceived,
      hcorrupted⟩ := hall 100 (Client.fuel 100 tardyHost) _ rfl hdeparts
    rw [hwatched] at hsame hread hsent hcount hasks hreceived hcorrupted
    rw [hnothing, List.append_nil] at hread
    rw [hreceiver] at hasks hreceived
    obtain ⟨hreport, hhost⟩ := hsame (urgentStart.2.loop 100 (Client.fuel 100 tardyHost)).1
    rw [show ((urgentStart.2.loop 100 (Client.fuel 100 tardyHost)).1,
      (urgentStart.2.loop 100 (Client.fuel 100 tardyHost)).2)
        = urgentStart.2.loop 100 (Client.fuel 100 tardyHost) from rfl] at hreport hhost
    rw [hreport, hhost]
    -- all that there was has been read
    obtain rfl : tardyHost.arrivals = read := hread
    refine ⟨requests, answers, hsent, hcount, hasks, hreceived.trans ?_, hcorrupted.trans ?_⟩
    · decide +kernel
    · decide +kernel
  · have hstart : start? smallServer lateHost = some lateStart := (Option.some_get _).symm
    have hstage : (system.run (some 1000) (Server.fuel 1000 lateStart.host) lateStart).stage
        = .over (.finished true) := by decide +kernel
    have hnothing : (system.run (some 1000) (Server.fuel 1000 lateStart.host)
        lateStart).host.arrivals = [] := by
      decide +kernel
    obtain ⟨hrun, hall⟩ := hserver smallServer lateHost lateStart (by decide) (by decide) hstart
    obtain ⟨hreport, hsame, read, sent, hread, hsent, hcounts⟩ := hall (some 1000) _ true
      (system.passes_run (some 1000) (Server.fuel 1000 lateStart.host) lateStart) hstage
    rw [hnothing, List.append_nil] at hread
    obtain rfl : lateHost.arrivals = read := hread
    obtain ⟨hsum, hpackets, ⟨bytes, hbytes, hsize⟩, earlier, request, during, hsplit, _, hreading,
      hreceived⟩ := hcounts ⟨⟨0, 2, Flags.request, text "f"⟩, ⟨10, 0, 0, 2⟩, 12346⟩
        (.content [1, 2, 3]) (by decide +kernel) (by decide +kernel)
    obtain rfl : [1, 2, 3] = bytes := Option.some.inj hbytes
    rw [hsize] at hpackets
    -- the request is the third of the arrivals, and what is behind it is the acknowledgement
    have hplace : ∀ n < 4, lateHost.arrivals[n]?.bind (Arrival.reading 12345)
          = some ⟨⟨0, 2, Flags.request, text "f"⟩, ⟨10, 0, 0, 2⟩, 12346⟩ →
        (lateHost.arrivals.drop (n + 1)).countP (acknowledges 12345 ⟨10, 0, 0, 2⟩) = 1 := by
      decide +kernel
    have hshort : earlier.length < lateHost.arrivals.length := by
      rw [hsplit, List.length_append, List.length_cons]
      omega
    have hone := hplace earlier.length
      (Nat.lt_of_lt_of_eq hshort (by decide +kernel : lateHost.arrivals.length = 4))
    rw [hsplit, List.getElem?_append_right (Nat.le_refl _), Nat.sub_self,
      List.drop_append, List.drop_eq_nil_of_le (Nat.le_succ _), Nat.add_sub_cancel_left] at hone
    rw [hrun 1000, hreport, hsame]
    refine ⟨?_, hpackets, hreceived.trans (hone hreading)⟩
    rw [hsum, hsent]
    rfl

end Accounts

end ReliableTransfer
