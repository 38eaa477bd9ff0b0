import ReliableTransfer.Client
import ReliableTransfer.Proofs.Opening
import ReliableTransfer.Proofs.Reading

/-!
# What a client makes of what it reads

At any point of its work a client has handed its receiver exactly the packets of the server among
what it has read, in the order in which it read them, and has kept what came out.

* `Client.packets` — the packets of the server among some arrivals.
* `Client.emissions` — what a client gives out for what its receiver makes of a packet.
* `Client.hear_eq`, `Client.read_cases` — a packet, and a read, seen from outside.
* `Client.Hears` — what was read so far, and what the client has made of it.
* **`Client.Hears.loop`** — its work keeps it so.
-/

namespace ReliableTransfer.Client

/-- The packet of the server that an arrival holds, if any. -/
def packet? (o : ClientOptions) (a : Arrival) : Option Packet :=
  ((a.reading o.settings.clientPort).filter (fromServer o)).map Received.packet

/-- The packets of the server among some arrivals. -/
def packets (o : ClientOptions) (arrivals : List Arrival) : List Packet :=
  arrivals.filterMap (packet? o)

lemma packets_concat (o : ClientOptions) (before : List Arrival) (a : Arrival) :
    packets o (before ++ [a]) = packets o before ++ (packet? o a).toList := by
  rw [packets, List.filterMap_append]
  rfl

/-- The datagram of a packet for the server, if the packet can be framed. -/
def post? (o : ClientOptions) : Int × Packet → Option Posting :=
  posting? o.clientAddress o.settings.clientPort o.serverAddress o.settings.serverPort

/-- The client has the endpoint it was told to have. -/
structure Located (o : ClientOptions) (c : Client) : Prop where
  options_eq : c.options = o
  address_eq : c.endpoint.address = o.clientAddress
  port_eq : c.endpoint.port = o.settings.clientPort

/-- **What a client gives out** for what its receiver makes of a packet: the bytes go to the output
first, and then the acknowledgement to the server. -/
def emissions (receipt : Receipt) : List Emission :=
  Emission.writing receipt.output ++
    receipt.ack.toList.map fun number => .sent (ackPacket number)

variable {o : ClientOptions} {c c' : Client}

/-! ## Seen from outside -/

lemma transmit_eq (hl : c.Located o) (hopen : c.endpoint.Open c.host) (p : Packet) :
    ∃ ok host, c.transmit p
        = (ok, { c with
            host
            report := { c.report with packetsSent := c.report.packetsSent + 1 }
            emitted := c.emitted ++ [.sent p] }) ∧
      c.host.Posted (post? o (c.host.now, p)).toList host := by
  obtain rfl := hl.options_eq
  have hposted := Endpoint.posted_send hopen c.options.serverAddress
    c.options.settings.serverPort p
  rw [hl.address_eq, hl.port_eq] at hposted
  exact ⟨_, _, rfl, hposted⟩

lemma acknowledge_eq (hl : c.Located o) (hopen : c.endpoint.Open c.host) (number : UInt32) :
    ∃ host report, c.acknowledge number = { c with
        host, report, emitted := c.emitted ++ [.sent (ackPacket number)] } ∧
      c.host.Posted (post? o (c.host.now, ackPacket number)).toList host := by
  obtain ⟨ok, host, htransmit, hposted⟩ := transmit_eq hl hopen (ackPacket number)
  rw [acknowledge, htransmit]
  cases ok with
  | true => exact ⟨host, _, rfl, hposted⟩
  | false => exact ⟨_, _, rfl, hposted.and_note (.ackNotSent number)⟩

/-- The client that has handed a packet to its receiver and kept what came out. -/
def taking (p : Packet) (c : Client) : Client :=
  noteVerbose (write { c with
    answered := true
    lastHeard := c.host.now
    receiver := (c.receiver.accept p).1
    report := { c.report with packetsReceived := c.report.packetsReceived + 1 } }
    (c.receiver.accept p).2.output)
    (.packetReceived p (c.receiver.accept p).2.ack)

/-- The acknowledgement a receipt calls for, if any. -/
def answer (ack : Option UInt32) (c : Client) : Client :=
  match ack with
  | some number => c.acknowledge number
  | none => c

lemma answer_eq (hl : c.Located o) (hopen : c.endpoint.Open c.host) (ack : Option UInt32) :
    ∃ host report, c.answer ack = { c with
        host, report
        emitted := c.emitted ++ ack.toList.map fun number => .sent (ackPacket number) } ∧
      c.host.Posted
        (ack.bind fun number => post? o (c.host.now, ackPacket number)).toList host := by
  cases ack with
  | none =>
      refine ⟨c.host, c.report, ?_, .refl c.host⟩
      rw [Option.toList_none, List.map_nil, List.append_nil]
      rfl
  | some number => exact acknowledge_eq hl hopen number

/-- The end of the file is noted when it has arrived for the first time. -/
def noteEnd (c : Client) : Client :=
  if c.receiver.finished && c.endedAt.isNone then
    { c.note (.endReceived c.receiver.bytesWritten c.options.linger) with
      endedAt := some c.host.now
      report := { c.report with endTime := reportTime c.host.now } }
  else c

lemma noteEnd_eq (c : Client) : ∃ host report, c.noteEnd = { c with
      host, report
      endedAt := c.endedAt.or (if c.receiver.finished then some c.host.now else none) } ∧
    c.host.Posted [] host := by
  rw [noteEnd]
  split_ifs with hended hfinished hfinished
  · rw [Bool.and_eq_true, Option.isNone_iff_eq_none] at hended
    rw [hended.2]
    exact ⟨_, _, rfl, .note c.host _⟩
  · rw [Bool.and_eq_true] at hended
    exact absurd hended.1 hfinished
  · obtain ⟨time, htime⟩ : ∃ time, c.endedAt = some time := by
      rw [hfinished, Bool.true_and] at hended
      exact Option.ne_none_iff_exists'.1 fun h => hended (Option.isNone_iff_eq_none.2 h)
    refine ⟨c.host, c.report, ?_, .refl c.host⟩
    rw [htime, Option.some_or, ← htime]
  · refine ⟨c.host, c.report, ?_, .refl c.host⟩
    rw [Option.or_none]

/-- **A packet of the server**: the receiver takes it, what comes out is kept, it is acknowledged if
the receiver says so, and the time is noted. -/
lemma hear_eq (hl : c.Located o) (hopen : c.endpoint.Open c.host) (p : Packet) :
    ∃ host report, c.hear p = { c with
        host, report, answered := true, lastHeard := c.host.now
        endedAt := c.endedAt.or
          (if (c.receiver.accept p).1.finished then some c.host.now else none)
        receiver := (c.receiver.accept p).1
        output := c.output ++ (c.receiver.accept p).2.output
        emitted := c.emitted ++ emissions (c.receiver.accept p).2 } ∧
      c.host.Posted
        ((c.receiver.accept p).2.ack.bind fun number =>
          post? o (c.host.now, ackPacket number)).toList host := by
  have hnoted := Host.Posted.noteIf c.host c.options.verbose
    (.packetReceived p (c.receiver.accept p).2.ack)
  have hlocated : (c.taking p).Located o := ⟨hl.options_eq, hl.address_eq, hl.port_eq⟩
  have hopen' : (c.taking p).endpoint.Open (c.taking p).host := hopen.of_eq rfl hnoted.sockets_eq
  obtain ⟨host, report, hanswer, hposted⟩ :=
    answer_eq hlocated hopen' (c.receiver.accept p).2.ack
  obtain ⟨host', report', hend, hposted'⟩ :=
    ((c.taking p).answer (c.receiver.accept p).2.ack).noteEnd_eq
  have hhear : c.hear p = ((c.taking p).answer (c.receiver.accept p).2.ack).noteEnd := by
    have hreceiver : ((c.taking p).answer (c.receiver.accept p).2.ack).receiver
        = (c.receiver.accept p).1 := by
      rw [hanswer]
      rfl
    rw [noteEnd, hreceiver]
    rfl
  rw [hanswer] at hend hposted'
  have hnow : host.now = c.host.now := hposted.now_eq.trans hnoted.now_eq
  rw [show (c.taking p).host.now = c.host.now from hnoted.now_eq] at hposted
  refine ⟨host', report', ?_, ?_⟩
  · rw [hhear, hanswer, hend, emissions, ← List.append_assoc]
    dsimp only
    rw [hnow]
    rfl
  · have hall := (hnoted.trans hposted).trans hposted'
    rwa [List.nil_append, List.append_nil] at hall

/-- **A read, seen from outside**: it brings nothing of the server, or it takes an arrival off the
network and hears the packet in it. -/
lemma read_cases (hl : c.Located o) :
    ∃ corrupted arrivals notices,
      (c.read = { c with
          endpoint := { c.endpoint with corrupted }
          host := { c.host with arrivals, notices } } ∧
        (arrivals = c.host.arrivals ∨
          ∃ a, c.host.arrivals = a :: arrivals ∧ packet? o a = none)) ∨
      ∃ a p, c.host.arrivals = a :: arrivals ∧ packet? o a = some p ∧
        c.read = ({ c with
          endpoint := { c.endpoint with corrupted }
          host := { c.host with arrivals, notices } } : Client).hear p := by
  obtain ⟨received, corrupted, arrivals, notices, hreceive, hcases⟩ :=
    c.endpoint.receive_eq c.host
  refine ⟨corrupted, arrivals, notices, ?_⟩
  rw [Client.read, hreceive]
  dsimp only
  rcases hcases with ⟨hsame, rfl⟩ | ⟨a, ha, _, hreading⟩
  · exact .inl ⟨rfl, .inl hsame⟩
  · rw [hl.port_eq] at hreading
    rw [hl.options_eq]
    cases received with
    | none => exact .inl ⟨rfl, .inr ⟨a, ha, by rw [packet?, ← hreading]; rfl⟩⟩
    | some r =>
        have hpacket : packet? o a = ((some r).filter (fromServer o)).map Received.packet := by
          rw [packet?, ← hreading]
        rw [Option.filter_some] at hpacket
        dsimp only
        split_ifs at hpacket ⊢
        · exact .inr ⟨a, r.packet, ha, hpacket, rfl⟩
        · exact .inl ⟨rfl, .inr ⟨a, ha, hpacket⟩⟩

/-- The client as a decision leaves it. -/
def Decision.client : Decision → Client
  | leave c | breakOff c | read c => c

/-! ## What was read so far -/

/-- All of a client that bears on what it reads and keeps. -/
def keeping (c : Client) :=
  (c.options, (c.endpoint.address, c.endpoint.port, c.endpoint.descriptor), c.place, c.receiver,
    c.output, c.host.sockets, c.host.files, c.host.arrivals)

/-- **The client has read some arrivals**, has handed the server's packets among them to its
receiver in order, and has kept what came out.  Neither its files nor where it writes have
changed. -/
structure Hears (o : ClientOptions) (place : Location) (files : Files) (arrivals : List Arrival)
    (c : Client) : Prop extends c.Located o where
  opened : c.endpoint.Open c.host
  place_eq : c.place = place
  files_eq : c.host.files = files
  kept : ∃ before, arrivals = before ++ c.host.arrivals ∧
    c.receiver = (({} : Receiver).acceptAll (packets o before)).1 ∧
    c.output = ((({} : Receiver).acceptAll (packets o before)).2.map Receipt.output).flatten

namespace Hears

variable {place : Location} {files : Files} {arrivals : List Arrival}

/-- What has nothing to do with reading and keeping makes no difference. -/
lemma of_eq (hh : c.Hears o place files arrivals) (heq : c'.keeping = c.keeping) :
    c'.Hears o place files arrivals := by
  simp only [keeping, Prod.mk.injEq] at heq
  obtain ⟨hoptions, ⟨haddress, hport, hdescriptor⟩, hplace, hreceiver, houtput, hsockets, hfiles,
    harrivals⟩ := heq
  refine ⟨⟨?_, ?_, ?_⟩, ?_, ?_, ?_, ?_⟩
  · rw [hoptions, hh.options_eq]
  · rw [haddress, hh.address_eq]
  · rw [hport, hh.port_eq]
  · exact hh.opened.of_eq hdescriptor hsockets
  · rw [hplace, hh.place_eq]
  · rw [hfiles, hh.files_eq]
  · rw [harrivals, hreceiver, houtput]
    exact hh.kept

lemma note (hh : c.Hears o place files arrivals) (n : Notice) :
    (c.note n).Hears o place files arrivals :=
  hh.of_eq rfl

lemma conclude (hh : c.Hears o place files arrivals) : c.conclude.Hears o place files arrivals :=
  hh.of_eq rfl

lemma ask (hh : c.Hears o place files arrivals) : c.ask.2.Hears o place files arrivals := by
  rw [Client.ask]
  split_ifs
  · exact hh.note _
  · obtain ⟨ok, host, htransmit, hposted⟩ :=
      transmit_eq hh.toLocated hh.opened (requestPacket c.options.fileName)
    have hsent : ({ c with host } : Client).keeping = c.keeping := by
      simp only [keeping, hposted.sockets_eq, hposted.files_eq, hposted.arrivals_eq]
    rw [htransmit]
    cases ok with
    | true => exact hh.of_eq hsent
    | false => exact hh.of_eq hsent

lemma decide (hh : c.Hears o place files arrivals) :
    c.decide.client.Hears o place files arrivals := by
  rw [Client.decide]
  split_ifs
  · exact hh
  · exact hh.note _
  · exact hh.note _
  · have hask := (hh.note .requestRepeated).ask
    split
    · rename_i c' hc'
      rw [hc'] at hask
      exact hask
    · rename_i c' hc'
      rw [hc'] at hask
      exact hask
  · exact hh

/-- **A read** takes an arrival off the network, and if it is a packet of the server the receiver
takes that. -/
lemma readNext (hh : c.Hears o place files arrivals) : c.read.Hears o place files arrivals := by
  obtain ⟨before, harrivals, hreceiver, houtput⟩ := hh.kept
  obtain ⟨corrupted, rest, notices, ⟨hread, hrest⟩ | ⟨a, p, ha, hpacket, hread⟩⟩ :=
    read_cases hh.toLocated
  · -- where nothing of the server was read, nothing is handed over
    rw [hread]
    rcases hrest with rfl | ⟨a, ha, hnone⟩
    · exact hh.of_eq rfl
    · have hsame : packets o (before ++ [a]) = packets o before := by
        rw [packets_concat, hnone]
        exact List.append_nil _
      refine ⟨⟨hh.options_eq, hh.address_eq, hh.port_eq⟩, hh.opened, hh.place_eq, hh.files_eq,
        before ++ [a], ?_, by rw [hsame]; exact hreceiver, by rw [hsame]; exact houtput⟩
      rw [harrivals, ha, List.append_assoc, List.singleton_append]
  · have hpackets : packets o (before ++ [a]) = packets o before ++ [p] := by
      rw [packets_concat, hpacket]
      rfl
    obtain ⟨host, report, hhear, hposted⟩ := hear_eq (c := { c with
        endpoint := { c.endpoint with corrupted }
        host := { c.host with arrivals := rest, notices } })
      ⟨hh.options_eq, hh.address_eq, hh.port_eq⟩ hh.opened p
    rw [hread, hhear]
    refine ⟨⟨hh.options_eq, hh.address_eq, hh.port_eq⟩, hh.opened.of_eq rfl hposted.sockets_eq,
      hh.place_eq, hposted.files_eq.trans hh.files_eq, before ++ [a], ?_, ?_, ?_⟩
    · rw [harrivals, ha, hposted.arrivals_eq, List.append_assoc, List.singleton_append]
    · rw [hpackets, Receiver.acceptAll_append, ← hreceiver]
      rfl
    · rw [hpackets, Receiver.acceptAll_append, List.map_append, List.flatten_append,
        ← hreceiver, ← houtput]
      exact congrArg (c.output ++ ·) (List.append_nil _).symm

lemma await (hh : c.Hears o place files arrivals) {limit : Int} {host : Host}
    (hawait : c.host.awaitRead limit c.endpoint.descriptor = some host) :
    ({ c with host } : Client).Hears o place files arrivals := by
  rw [Host.awaitRead] at hawait
  split at hawait
  · split_ifs at hawait
    rw [← Option.some.inj hawait]
    exact hh.of_eq rfl
  · cases hawait

/-- **The client's work**, however long it goes on. -/
lemma loop (hh : c.Hears o place files arrivals) (limit : Int) (fuel : Nat) :
    (c.loop limit fuel).2.Hears o place files arrivals := by
  induction fuel generalizing c with
  | zero => exact hh
  | succ fuel ih =>
      have hdecide := hh.decide
      rw [Client.loop]
      cases hdecision : c.decide with
      | leave c' =>
          rw [hdecision] at hdecide
          exact hdecide.conclude
      | breakOff c' =>
          rw [hdecision] at hdecide
          exact hdecide
      | read c' =>
          rw [hdecision] at hdecide
          dsimp only
          split
          · exact hdecide
          · rename_i host hawait
            exact ih (hdecide.await hawait).readNext

end Hears

end ReliableTransfer.Client
