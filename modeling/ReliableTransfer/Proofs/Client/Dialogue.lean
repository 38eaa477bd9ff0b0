import Mathlib.Data.List.Chain
import ReliableTransfer.Proofs.Client.Patience

/-!
# What a client asks and answers

A client asks until it has heard the server, and from then on it answers.  So what it has sent are
its requests and behind them its acknowledgements, and every one of them has been counted.

* `Client.Carries` — a datagram of the client with a packet for the server.
* `Client.Askable` — whether the file can be asked for at all.
* `Client.Dialogue` — what was read, what was asked, and what was answered.
* `Client.Conversed`, `Client.Counted` — that a client's dialogue was that one, and that its
  counters say so.
* `Client.ask_eq` — a request, seen from outside.
* `Client.Asking` — a client at the head of its loop; **`Client.Asking.loop`** is its work.
* **`Client.run_asks`** — how a run asks for the file.
-/

namespace ReliableTransfer

/-- The acknowledgement of a single packet, if it gives one. -/
lemma Receiver.acks_singleton (r : Receiver) (p : Packet) :
    r.acks [p] = (r.accept p).2.ack.toList := by
  exact (List.filterMap_eq_flatMap_toList _ _).trans (List.flatMap_singleton _ _)

namespace Client

variable {o : ClientOptions} {c c' : Client} {host : Host} {arrivals : List Arrival}
  {earlier : List Sending}

/-! ## Datagrams -/

/-- A datagram of the client holds a packet for the server. -/
def Carries (o : ClientOptions) (p : Packet) (x : Sending) : Prop :=
  ∃ a b, Ipv4.Address.parse? o.clientAddress = some a ∧
    Ipv4.Address.parse? o.serverAddress = some b ∧
    x.Holds a o.settings.clientPort b o.settings.serverPort p

/-- The file can be asked for: its name is not too long for a packet, and the packet can be
framed. -/
structure Askable (o : ClientOptions) : Prop where
  name_le : o.fileName.length ≤ o.settings.maxPayload
  frame_le : o.fileName.length ≤ 65493
  client : ∃ a, Ipv4.Address.parse? o.clientAddress = some a
  server : ∃ b, Ipv4.Address.parse? o.serverAddress = some b

/-- A packet of ordinary length makes one datagram. -/
lemma Askable.posted (hf : Askable o) {p : Packet} (hp : p.payload.length ≤ 65493) {time : Int}
    {sent : List Sending} (hsent : sent.map Sending.posting = (post? o (time, p)).toList) :
    ∃ x, sent = [x] ∧ x.time = time ∧ Carries o p x := by
  obtain ⟨a, ha⟩ := hf.client
  obtain ⟨b, hb⟩ := hf.server
  obtain ⟨datagram, hpack⟩ := exists_pack ha hb o.settings.clientPort o.settings.serverPort hp
  have hpost : post? o (time, p) = some (time, b, o.settings.serverPort, datagram) := by
    rw [post?, posting?, hpack]
  rw [hpost, Option.toList_some] at hsent
  obtain ⟨x, rfl, hx⟩ := List.map_eq_singleton_iff.1 hsent
  obtain rfl : x.frame = datagram := congrArg (·.2.2.2) hx
  exact ⟨x, rfl, congrArg Prod.fst hx, a, b, ha, hb, Sending.holds_of_pack ha hb hpack hx⟩

/-- The acknowledgement of a packet, if there is one, makes one datagram. -/
lemma Askable.answered (hf : Askable o) {ack : Option UInt32} {time : Int} {h h' : Host}
    (hposted : h.Posted (ack.bind fun number => post? o (time, ackPacket number)).toList h') :
    ∃ more, List.Forall₂ (fun number => Carries o (ackPacket number)) ack.toList more ∧
      h'.sent = h.sent ++ more := by
  obtain ⟨sent, notices, rfl, hsent⟩ := hposted
  refine ⟨sent, ?_, rfl⟩
  cases ack with
  | none =>
      obtain rfl := List.map_eq_nil_iff.1 hsent
      exact .nil
  | some number =>
      obtain ⟨x, rfl, _, hcarries⟩ := hf.posted (Nat.zero_le _) hsent
      exact .cons hcarries .nil

/-- **A request that can be framed** makes one datagram, and gets out if nothing befalls it. -/
lemma ask_eq (hl : c.Located o) (hopen : c.endpoint.Open c.host) (hf : Askable o) :
    ∃ ok x notices, x.time = c.host.now ∧ Carries o (requestPacket o.fileName) x ∧
      (c.host.sendFaults = [] → ok = true) ∧
      c.ask = (ok, { c with
        host := { c.host with sent := c.host.sent ++ [x], notices }
        report := { c.report with packetsSent := c.report.packetsSent + 1 }
        emitted := c.emitted ++ [.sent (requestPacket o.fileName)]
        tries := if ok then c.tries + 1 else c.tries
        lastRequest := if ok then c.host.now else c.lastRequest }) := by
  obtain rfl := hl.options_eq
  have hlength : ¬ c.options.settings.maxPayload < c.options.fileName.length :=
    Nat.not_lt.2 hf.name_le
  obtain ⟨ok, h, htransmit, sent, notices, rfl, hsent⟩ :=
    transmit_eq hl hopen (requestPacket c.options.fileName)
  obtain ⟨x, rfl, htime, hcarries⟩ := hf.posted hf.frame_le hsent
  refine ⟨ok, x, notices, htime, hcarries, fun hfaults => ?_, ?_⟩
  · obtain ⟨a, ha⟩ := hf.client
    obtain ⟨b, hb⟩ := hf.server
    obtain ⟨datagram, hpack⟩ := exists_pack ha hb c.options.settings.clientPort
      c.options.settings.serverPort (p := requestPacket c.options.fileName) hf.frame_le
    rw [← hl.address_eq, ← hl.port_eq] at hpack
    rw [← Endpoint.send_of_unfaulted hopen hfaults hpack]
    exact (congrArg Prod.fst htransmit).symm
  · rw [Client.ask]
    dsimp only
    rw [if_neg hlength, htransmit]
    cases ok <;> rfl

/-- If the name is too long for a datagram, or the server has no address, there is none. -/
lemma post?_eq_none {p : Packet} (h : 65493 < p.payload.length ∨
      Ipv4.Address.parse? o.serverAddress = none) (time : Int) : post? o (time, p) = none := by
  rw [Option.eq_none_iff_forall_ne_some]
  intro x hx
  obtain ⟨address, datagram, hpack, _⟩ := exists_pack_of_posting? hx
  obtain ⟨hlength, b, hb⟩ := length_le_of_pack hpack
  rcases h with h | h
  · exact absurd hlength (Nat.not_le.2 h)
  · rw [hb] at h
    cases h

/-! ## What is counted -/

lemma report_acknowledge (c : Client) (number : UInt32) : (c.acknowledge number).report
    = { c.report with packetsSent := c.report.packetsSent + 1 } := by
  have htransmit : (c.transmit (ackPacket number)).2.report
      = { c.report with packetsSent := c.report.packetsSent + 1 } := rfl
  rw [acknowledge]
  split
  · rename_i c' hc'
    rw [hc'] at htransmit
    exact htransmit
  · rename_i c' hc'
    rw [hc'] at htransmit
    exact htransmit

/-- A packet of the server is counted, and so is its acknowledgement. -/
lemma report_hear (c : Client) (p : Packet) :
    (c.hear p).report.packetsSent
        = c.report.packetsSent + (c.receiver.accept p).2.ack.toList.length ∧
      (c.hear p).report.packetsReceived = c.report.packetsReceived + 1 := by
  have hend : (c.hear p).report.packetsSent
        = ((c.taking p).answer (c.receiver.accept p).2.ack).report.packetsSent ∧
      (c.hear p).report.packetsReceived
        = ((c.taking p).answer (c.receiver.accept p).2.ack).report.packetsReceived := by
    rw [hear]
    dsimp only
    split_ifs <;> exact ⟨rfl, rfl⟩
  rw [hend.1, hend.2]
  cases (c.receiver.accept p).2.ack with
  | none => exact ⟨rfl, rfl⟩
  | some number =>
      rw [answer, report_acknowledge]
      exact ⟨rfl, rfl⟩

/-- A read that takes an arrival counts it if it is damaged. -/
lemma corrupted_read (hl : c.Located o) (hopen : c.endpoint.Open c.host) {a : Arrival}
    {rest : List Arrival} (harrivals : c.host.arrivals = a :: rest) (htime : a.time ≤ c.host.now) :
    c.read.endpoint.corrupted
      = c.endpoint.corrupted + (a.damaged o.settings.clientPort).toNat := by
  have hcounted := Endpoint.corrupted_receive hopen harrivals htime
  obtain ⟨received, corrupted, arrivals, notices, hreceive, _⟩ := c.endpoint.receive_eq c.host
  rw [hreceive, hl.port_eq] at hcounted
  rw [← hcounted, Client.read, hreceive]
  dsimp only
  cases received with
  | none => rfl
  | some r =>
      dsimp only
      split_ifs
      · obtain ⟨host, report, hhear, _⟩ := hear_eq (c := { c with
            endpoint := { c.endpoint with corrupted }
            host := { c.host with arrivals, notices } })
          ⟨hl.options_eq, hl.address_eq, hl.port_eq⟩ hopen r.packet
        rw [hhear]
      · rfl

/-! ## Dialogues -/

/-- What a client has read, and what it has sent: requests, and then acknowledgements. -/
structure Dialogue where
  /-- The arrivals it has read. -/
  read : List Arrival
  /-- Its requests. -/
  requests : List Sending
  /-- Its acknowledgements. -/
  answers : List Sending

/-- **The second dialogue goes on from the first.**  Where something of the server was heard, there
are no requests any more. -/
structure Dialogue.Leads (o : ClientOptions) (d d' : Dialogue) : Prop where
  read : d.read <+: d'.read
  requests : d.requests <+: d'.requests
  answers : d.answers <+: d'.answers
  heard : packets o d.read ≠ [] → d'.requests = d.requests

namespace Dialogue.Leads

variable {d d' d'' : Dialogue}

lemma refl (d : Dialogue) : d.Leads o d :=
  ⟨List.prefix_rfl, List.prefix_rfl, List.prefix_rfl, fun _ => rfl⟩

lemma trans (first : d.Leads o d') (second : d'.Leads o d'') : d.Leads o d'' := by
  refine ⟨first.read.trans second.read, first.requests.trans second.requests,
    first.answers.trans second.answers, fun hheard => ?_⟩
  have hheard' : packets o d'.read ≠ [] :=
    fun hnil => hheard (List.prefix_nil.1 (hnil ▸ first.read.filterMap _))
  rw [second.heard hheard', first.heard hheard]

end Dialogue.Leads

/-- **How a client has conversed** since it had sent `earlier`: its requests are the same packet,
not too close together, and not too many unless that is allowed so often that the client cannot
count it; the server has been heard if there is a packet of the server among what was read; and the
acknowledgements are those of its receiver. -/
structure Conversed (o : ClientOptions) (arrivals : List Arrival) (earlier : List Sending)
    (d : Dialogue) (c : Client) : Prop where
  arrivals_eq : arrivals = d.read ++ c.host.arrivals
  sent_eq : c.host.sent = earlier ++ (d.requests ++ d.answers)
  asked : ∀ x ∈ d.requests, Carries o (requestPacket o.fileName) x
  few : o.settings.maxRetries < 2147483647 →
    (d.requests.length : Int) ≤ 1 + max 0 o.settings.maxRetries
  spaced : (d.requests.map Sending.time).IsChain (· + o.settings.timeout ≤ ·)
  answered_iff : c.answered = true ↔ packets o d.read ≠ []
  answers : List.Forall₂ (fun number => Carries o (ackPacket number))
    (({} : Receiver).acks (packets o d.read)) d.answers

/-- **A client has counted** what it has sent and read. -/
structure Counted (o : ClientOptions) (d : Dialogue) (c : Client) : Prop where
  receiver_eq : c.receiver = (({} : Receiver).acceptAll (packets o d.read)).1
  sent_count : c.report.packetsSent = d.requests.length + d.answers.length
  received_count : c.report.packetsReceived = (packets o d.read).length
  corrupted_count : c.endpoint.corrupted
    = d.read.countP (Arrival.damaged o.settings.clientPort)

/-- **A client at the head of its loop**, that knows how often it has asked, as far as it can count,
and when. -/
structure Asking (o : ClientOptions) (arrivals : List Arrival) (earlier : List Sending)
    (d : Dialogue) (c : Client) : Prop extends c.Located o, c.Conversed o arrivals earlier d,
    c.Counted o d where
  opened : c.endpoint.Open c.host
  tries_eq : c.tries = Int32.ofNat d.requests.length
  last_eq : ∀ time ∈ (d.requests.map Sending.time).getLast?, time = c.lastRequest

variable {d : Dialogue}

lemma Conversed.answers_eq_nil (hc : c.Conversed o arrivals earlier d)
    (hunheard : packets o d.read = []) : d.answers = [] := by
  have hanswers := hc.answers
  rw [hunheard] at hanswers
  exact List.forall₂_nil_left_iff.1 hanswers

/-- Whether a client that decides so breaks off. -/
def Decision.breaks : Decision → Bool
  | breakOff _ => true
  | _ => false

namespace Asking

/-- A line that is written makes no difference. -/
lemma note (ha : c.Asking o arrivals earlier d) (n : Notice) :
    (c.note n).Asking o arrivals earlier d :=
  ⟨⟨ha.options_eq, ha.address_eq, ha.port_eq⟩, ⟨ha.arrivals_eq, ha.sent_eq, ha.asked, ha.few,
    ha.spaced, ha.answered_iff, ha.answers⟩, ⟨ha.receiver_eq, ha.sent_count, ha.received_count,
    ha.corrupted_count⟩, ha.opened, ha.tries_eq, ha.last_eq⟩

/-- **Asking** adds a request, unless the name is too long. -/
lemma ask (ha : c.Asking o arrivals earlier d) (hf : Askable o) (hunheard : c.answered = false)
    (hfew : c.tries.toInt ≤ max 0 o.settings.maxRetries)
    (hdue : d.requests ≠ [] → c.lastRequest + o.settings.timeout ≤ c.host.now) :
    ∃ d', d.Leads o d' ∧ c.ask.2.Conversed o arrivals earlier d' ∧
      (c.ask.1 = true → c.ask.2.Asking o arrivals earlier d') := by
  have hnothing : packets o d.read = [] := by
    by_contra hheard
    rw [ha.answered_iff.2 hheard] at hunheard
    cases hunheard
  obtain ⟨ok, x, notices, htime, hcarries, -, hask⟩ := ask_eq ha.toLocated ha.opened hf
  have hrequests : ∀ y ∈ d.requests ++ [x], Carries o (requestPacket o.fileName) y := by
    intro y hy
    rcases List.mem_append.1 hy with hy | hy
    · exact ha.asked y hy
    · rw [List.mem_singleton.1 hy]
      exact hcarries
  have hspaced : ((d.requests ++ [x]).map Sending.time).IsChain
      (· + o.settings.timeout ≤ ·) := by
    rw [List.map_append, List.isChain_append]
    refine ⟨ha.spaced, List.isChain_singleton _, fun time hlast next hnext => ?_⟩
    obtain rfl : x.time = next := Option.some.inj hnext
    have hne : d.requests ≠ [] := by
      intro hnil
      rw [hnil] at hlast
      cases hlast
    rw [ha.last_eq time hlast, htime]
    exact hdue hne
  have hcount : (d.requests ++ [x]).length = d.requests.length + 1 := List.length_append
  have hfew' : o.settings.maxRetries < 2147483647 →
      ((d.requests ++ [x]).length : Int) ≤ 1 + max 0 o.settings.maxRetries := by
    intro hmax
    -- so far the count is right
    have hcounted := ha.few hmax
    have htries : c.tries.toInt = d.requests.length := by
      rw [ha.tries_eq]
      exact Int32.toInt_ofNat_of_lt (by omega)
    rw [hcount]
    omega
  have hsent' : c.host.sent ++ [x] = earlier ++ ((d.requests ++ [x]) ++ d.answers) := by
    rw [ha.sent_eq, ha.toConversed.answers_eq_nil hnothing, List.append_nil, List.append_nil,
      List.append_assoc]
  have hsum : c.report.packetsSent + 1 = (d.requests ++ [x]).length + d.answers.length := by
    rw [ha.sent_count, hcount]
    omega
  refine ⟨{ d with requests := d.requests ++ [x] },
    ⟨List.prefix_rfl, List.prefix_append _ _, List.prefix_rfl, fun h => absurd hnothing h⟩, ?_⟩
  rw [hask]
  cases ok with
  | false =>
      exact ⟨⟨ha.arrivals_eq, hsent', hrequests, hfew', hspaced, ha.answered_iff, ha.answers⟩,
        Bool.noConfusion⟩
  | true =>
      refine ⟨⟨ha.arrivals_eq, hsent', hrequests, hfew', hspaced, ha.answered_iff, ha.answers⟩,
        fun _ => ⟨⟨ha.options_eq, ha.address_eq, ha.port_eq⟩, ⟨ha.arrivals_eq, hsent', hrequests,
          hfew', hspaced, ha.answered_iff, ha.answers⟩, ⟨ha.receiver_eq, hsum, ha.received_count,
          ha.corrupted_count⟩, ha.opened, ?_, fun time hlast => ?_⟩⟩
      · rw [hcount, Int32.ofNat_add, ← ha.tries_eq]
        rfl
      · rw [List.map_append, List.map_singleton, List.getLast?_concat, Option.mem_some] at hlast
        exact hlast.symm.trans htime

/-- **A decision** to read leaves the client as it is, but for a request; and so does any other, at
least as far as the network can tell. -/
lemma decide (ha : c.Asking o arrivals earlier d) (hf : Askable o) :
    ∃ d', d.Leads o d' ∧ c.decide.client.Conversed o arrivals earlier d' ∧
      (c.decide.breaks = false → c.decide.client.Asking o arrivals earlier d') := by
  rw [Client.decide]
  split_ifs with hlingered hsilent hoverdue htries
  · exact ⟨d, .refl d, ha.toConversed, fun _ => ha⟩
  · exact ⟨d, .refl d, (ha.note _).toConversed, fun _ => ha.note _⟩
  · exact ⟨d, .refl d, (ha.note _).toConversed, fun _ => ha.note _⟩
  · rw [requestOverdue, Bool.and_eq_true, Bool.not_eq_true', decide_eq_true_iff] at hoverdue
    rw [ha.options_eq] at hoverdue htries
    obtain ⟨d', hleads, hconversed, hasking⟩ := (ha.note .requestRepeated).ask hf hoverdue.1
      (by dsimp only [Client.note]; omega) (fun _ => by dsimp only [Client.note, Host.note]; omega)
    refine ⟨d', hleads, ?_⟩
    split
    · rename_i c' hask
      rw [hask] at hconversed hasking
      exact ⟨hconversed, fun _ => hasking rfl⟩
    · rename_i c' hask
      rw [hask] at hconversed
      exact ⟨hconversed, Bool.noConfusion⟩
  · exact ⟨d, .refl d, ha.toConversed, fun _ => ha⟩

/-- **A read** adds what it takes off the network, and what is answered to that. -/
lemma readNext (ha : c.Asking o arrivals earlier d) (hf : Askable o) :
    ∃ d', d.Leads o d' ∧ c.read.Asking o arrivals earlier d' := by
  rcases read_next ha.toLocated ha.opened with
    ⟨a, rest, corrupted, notices, harrivals, htime, _, hread⟩ | ⟨_, _, hread⟩
  · have hcorrupted := corrupted_read ha.toLocated ha.opened harrivals htime
    have hall : arrivals = (d.read ++ [a]) ++ rest := by
      rw [ha.arrivals_eq, harrivals, List.append_assoc, List.singleton_append]
    have hdamaged : c.read.endpoint.corrupted
        = (d.read ++ [a]).countP (Arrival.damaged o.settings.clientPort) := by
      rw [hcorrupted, ha.corrupted_count, List.countP_append, List.countP_singleton]
      cases a.damaged o.settings.clientPort <;> rfl
    rw [hread] at hdamaged ⊢
    cases hpacket : packet? o a with
    | none =>
        have hsame : packets o (d.read ++ [a]) = packets o d.read := by
          rw [packets_concat, hpacket, Option.toList_none, List.append_nil]
        rw [hpacket] at hdamaged
        refine ⟨{ d with read := d.read ++ [a] }, ⟨List.prefix_append _ _, List.prefix_rfl,
          List.prefix_rfl, fun _ => rfl⟩, ⟨ha.options_eq, ha.address_eq, ha.port_eq⟩,
          ⟨hall, ha.sent_eq, ha.asked, ha.few, ha.spaced, ?_, ?_⟩,
          ⟨?_, ha.sent_count, ?_, hdamaged⟩, ha.opened, ha.tries_eq, ha.last_eq⟩
        · rw [hsame]
          exact ha.answered_iff
        · rw [hsame]
          exact ha.answers
        · rw [hsame]
          exact ha.receiver_eq
        · rw [hsame]
          exact ha.received_count
    | some p =>
        have hmore : packets o (d.read ++ [a]) = packets o d.read ++ [p] := by
          rw [packets_concat, hpacket, Option.toList_some]
        obtain ⟨host, report, hhear, hposted⟩ := hear_eq (c := { c with
            endpoint := { c.endpoint with corrupted }
            host := { c.host with arrivals := rest, notices } })
          ⟨ha.options_eq, ha.address_eq, ha.port_eq⟩ ha.opened p
        obtain ⟨hsent, hreceived⟩ := report_hear { c with
            endpoint := { c.endpoint with corrupted }
            host := { c.host with arrivals := rest, notices } } p
        rw [hpacket, Option.elim_some, hhear] at hdamaged
        rw [Option.elim_some]
        rw [hhear] at hsent hreceived ⊢
        obtain ⟨more, hanswers, hhost⟩ := hf.answered hposted
        refine ⟨⟨d.read ++ [a], d.requests, d.answers ++ more⟩, ⟨List.prefix_append _ _,
          List.prefix_rfl, List.prefix_append _ _, fun _ => rfl⟩,
          ⟨ha.options_eq, ha.address_eq, ha.port_eq⟩, ⟨?_, ?_, ha.asked, ha.few, ha.spaced, ?_, ?_⟩,
          ⟨?_, ?_, ?_, hdamaged⟩, ha.opened.of_eq rfl hposted.sockets_eq, ha.tries_eq, ha.last_eq⟩
        · rw [hall]
          exact congrArg (_ ++ ·) hposted.arrivals_eq.symm
        · rw [hhost]
          show c.host.sent ++ more = _
          rw [ha.sent_eq, List.append_assoc, List.append_assoc]
        · rw [hmore]
          simp
        · rw [hmore, Receiver.acks_append, ← ha.receiver_eq, Receiver.acks_singleton]
          exact List.rel_append ha.answers hanswers
        · rw [hmore, Receiver.acceptAll_append, ← ha.receiver_eq]
          rfl
        · rw [hsent, ha.sent_count, List.length_append, Nat.add_assoc, ← hanswers.length_eq]
        · rw [hreceived, ha.received_count, hmore, List.length_append]
          rfl
  · rw [hread]
    exact ⟨d, .refl d, ha⟩

/-- Waiting for a read makes no difference. -/
lemma await (ha : c.Asking o arrivals earlier d) {limit : Int} {h : Host}
    (hawait : c.host.awaitRead limit c.endpoint.descriptor = some h) :
    ({ c with host := h } : Client).Asking o arrivals earlier d := by
  rw [Host.awaitRead] at hawait
  split at hawait
  · split_ifs at hawait
    rw [← Option.some.inj hawait]
    exact ⟨⟨ha.options_eq, ha.address_eq, ha.port_eq⟩, ⟨ha.arrivals_eq, ha.sent_eq, ha.asked,
      ha.few, ha.spaced, ha.answered_iff, ha.answers⟩, ⟨ha.receiver_eq, ha.sent_count,
      ha.received_count, ha.corrupted_count⟩, ha.opened, ha.tries_eq, ha.last_eq⟩
  · cases hawait

/-- Leaving, the client has conversed and counted as before. -/
lemma conclude (ha : c.Asking o arrivals earlier d) :
    c.conclude.Conversed o arrivals earlier d ∧ c.conclude.Counted o d :=
  ⟨⟨ha.arrivals_eq, ha.sent_eq, ha.asked, ha.few, ha.spaced, ha.answered_iff, ha.answers⟩,
    ⟨ha.receiver_eq, ha.sent_count, ha.received_count, ha.corrupted_count⟩⟩

/-- **The client's work**, however long it goes on; if it gets to the end of its loop, everything
is counted. -/
lemma loop (ha : c.Asking o arrivals earlier d) (hf : Askable o) (limit : Int) (n : Nat) :
    ∃ d', d.Leads o d' ∧ (c.loop limit n).2.Conversed o arrivals earlier d' ∧
      (Departs limit n c (c.loop limit n).2 → (c.loop limit n).2.Counted o d') := by
  induction n generalizing c d with
  | zero => exact ⟨d, .refl d, ha.toConversed, fun _ => ha.toCounted⟩
  | succ n ih =>
      obtain ⟨d', hleads, hconversed, hasking⟩ := ha.decide hf
      rw [Client.loop]
      cases hdecision : c.decide with
      | leave c' =>
          rw [hdecision] at hasking
          obtain ⟨hleft, hcounted⟩ := (hasking rfl).conclude
          exact ⟨d', hleads, hleft, fun _ => hcounted⟩
      | breakOff c' =>
          rw [hdecision] at hconversed
          exact ⟨d', hleads, hconversed, fun h => absurd h (not_departs_of_breakOff hdecision)⟩
      | read c' =>
          rw [hdecision] at hasking
          have ha' : c'.Asking o arrivals earlier d' := hasking rfl
          dsimp only
          rw [departs_of_read hdecision]
          cases hawait : c'.host.awaitRead limit c'.endpoint.descriptor with
          | none => exact ⟨d', hleads, ha'.toConversed, fun _ => ha'.toCounted⟩
          | some h =>
              obtain ⟨d'', hleads', ha''⟩ := (ha'.await hawait).readNext hf
              obtain ⟨d₁, hleads₁, hconversed₁, hcounted₁⟩ := ih ha''
              refine ⟨d₁, (hleads.trans hleads').trans hleads₁, hconversed₁, ?_⟩
              rintro ⟨h', hh', hdeparts⟩
              obtain rfl := Option.some.inj hh'
              exact hcounted₁ hdeparts

/-- **Further on**, the dialogue goes on from what it was. -/
lemma loop_of_le (ha : c.Asking o arrivals earlier d) (hf : Askable o) (limit : Int) (n : Nat) :
    ∃ d', (c.loop limit n).2.Conversed o arrivals earlier d' ∧ ∀ m, n ≤ m →
      ∃ d'', d'.Leads o d'' ∧ (c.loop limit m).2.Conversed o arrivals earlier d'' := by
  induction n generalizing c d with
  | zero =>
      refine ⟨d, ha.toConversed, fun m _ => ?_⟩
      obtain ⟨d', hleads, hconversed, _⟩ := ha.loop hf limit m
      exact ⟨d', hleads, hconversed⟩
  | succ n ih =>
      obtain ⟨d', hleads, hconversed, hasking⟩ := ha.decide hf
      -- where the loop ends in this round, it ends there however long it is watched
      have ended : ∀ c', c'.Conversed o arrivals earlier d' →
          (∀ m, (c.loop limit (m + 1)).2 = c') →
          ∃ d', (c.loop limit (n + 1)).2.Conversed o arrivals earlier d' ∧ ∀ m, n + 1 ≤ m →
            ∃ d'', d'.Leads o d'' ∧ (c.loop limit m).2.Conversed o arrivals earlier d'' := by
        intro c' hc' hloop
        refine ⟨d', by rw [hloop]; exact hc', fun m hm => ⟨d', .refl d', ?_⟩⟩
        obtain ⟨m, rfl⟩ := Nat.exists_eq_succ_of_ne_zero (Nat.ne_of_gt (Nat.zero_lt_of_lt hm))
        rw [Nat.succ_eq_add_one, hloop]
        exact hc'
      cases hdecision : c.decide with
      | leave c' =>
          rw [hdecision] at hasking
          exact ended c'.conclude (hasking rfl).conclude.1 fun m => by
            rw [Client.loop, hdecision]
      | breakOff c' =>
          rw [hdecision] at hconversed
          exact ended c' hconversed fun m => by rw [Client.loop, hdecision]
      | read c' =>
          rw [hdecision] at hasking
          have ha' : c'.Asking o arrivals earlier d' := hasking rfl
          cases hawait : c'.host.awaitRead limit c'.endpoint.descriptor with
          | none =>
              exact ended c' ha'.toConversed fun m => by
                rw [Client.loop, hdecision]
                dsimp only
                rw [hawait]
          | some h =>
              have hloop : ∀ m, c.loop limit (m + 1)
                  = ({ c' with host := h } : Client).read.loop limit m := fun m => by
                rw [Client.loop, hdecision]
                dsimp only
                rw [hawait]
              obtain ⟨d'', _, ha''⟩ := (ha'.await hawait).readNext hf
              obtain ⟨d₁, hconversed₁, hlater⟩ := ih ha''
              refine ⟨d₁, by rw [hloop]; exact hconversed₁, fun m hm => ?_⟩
              obtain ⟨m, rfl⟩ := Nat.exists_eq_succ_of_ne_zero (Nat.ne_of_gt (Nat.zero_lt_of_lt hm))
              rw [Nat.succ_eq_add_one, hloop]
              exact hlater m (Nat.le_of_succ_le_succ hm)

end Asking

/-! ## A run -/

/-- What cannot be asked for is not sent. -/
lemma ask_of_not_askable (hl : c.Located o) (hopen : c.endpoint.Open c.host)
    (h : o.settings.maxPayload < o.fileName.length ∨ 65493 < o.fileName.length ∨
      Ipv4.Address.parse? o.serverAddress = none) :
    ∃ report emitted notices, c.ask
      = (false, { c with report, emitted, host := { c.host with notices } }) := by
  obtain rfl := hl.options_eq
  rw [Client.ask]
  split_ifs with hname
  · exact ⟨c.report, c.emitted, _, rfl⟩
  · have hnone := post?_eq_none (p := requestPacket c.options.fileName)
      (h.resolve_left hname) c.host.now
    obtain ⟨ok, host, htransmit, sent, notices, rfl, hsent⟩ :=
      transmit_eq hl hopen (requestPacket c.options.fileName)
    rw [hnone] at hsent
    obtain rfl := List.map_eq_nil_iff.1 hsent
    have hfails : ok = false := by
      have hok : (c.endpoint.send (requestPacket c.options.fileName) c.options.serverAddress
          c.options.settings.serverPort c.host).1 = ok := congrArg Prod.fst htransmit
      rw [post?, posting?, ← hl.address_eq, ← hl.port_eq] at hnone
      rw [← hok, Endpoint.send]
      split at hnone
      · cases hnone
      · rename_i cause hcause
        dsimp only at hcause
        rw [hcause]
    rw [htransmit, hfails, List.append_nil]
    exact ⟨_, _, notices, rfl⟩

/-- Coming out sends nothing. -/
lemma sent_outcome (conclusion : Conclusion) (c : Client) :
    (outcome (conclusion, c)).host.sent = c.host.sent := by
  obtain ⟨host, hdetach, hrewired⟩ := c.endpoint.detach_eq
    { c.host with files := c.host.files.put c.place c.output }
  have hclose : c.close.host.sent = c.host.sent := by
    rw [close]
    dsimp only
    rw [hdetach]
    exact hrewired.sent_eq
  cases conclusion with
  | unfinished => rfl
  | notStarted => exact hclose
  | finished ok => exact hclose
  | broken cause => exact hclose

/-- Before its first request a client has said and counted nothing. -/
lemma asking_create {e : Endpoint} {h : Host} (hopened : opened? o host = some (e, h))
    (place : Location) (files : Files) :
    (create o e place { h with files }).Asking o host.arrivals host.sent ⟨[], [], []⟩ := by
  obtain ⟨haddress, hport, hopen, _, harrivals, hsent, _⟩ := opened?_eq hopened
  have hcorrupted : e.corrupted = 0 := by
    obtain ⟨ok, descriptor, h', hattach, _⟩ :=
      ({ address := o.clientAddress, port := o.settings.clientPort } : Endpoint).attach_eq
        o.settings.receiveTimeout host
    rw [opened?, hattach] at hopened
    cases ok with
    | false => cases hopened
    | true =>
        obtain ⟨rfl, _⟩ := Prod.mk.inj (Option.some.inj hopened)
        rfl
  refine ⟨⟨rfl, haddress, hport⟩, ⟨harrivals.symm, ?_, List.forall_mem_nil _, ?_, .nil, ?_, .nil⟩,
    ⟨rfl, rfl, rfl, hcorrupted⟩, hopen, rfl, fun time hlast => ?_⟩
  · rw [List.append_nil, List.append_nil]
    exact hsent
  · intro _
    show (0 : Int) ≤ 1 + max 0 o.settings.maxRetries
    omega
  · exact iff_of_false Bool.false_ne_true fun h => h rfl
  · cases hlast

/-- **The first request**: if the file can be asked for, the client gets into its loop unless the
network refuses, and if not, nothing is sent. -/
lemma asks_of_begun? {asked : Bool} (hbegun : begun? o host = some (asked, c)) :
    ((o.settings.maxPayload < o.fileName.length ∨ 65493 < o.fileName.length ∨
        Ipv4.Address.parse? o.serverAddress = none) → asked = false ∧ c.host.sent = host.sent) ∧
      (Askable o ∨ asked = false) ∧
      ∃ d, c.Conversed o host.arrivals host.sent d ∧
        (asked = true → c.Asking o host.arrivals host.sent d) := by
  obtain ⟨⟨e, h⟩, hopened, hcreate⟩ := Option.bind_eq_some_iff.1 hbegun
  obtain ⟨⟨place, files⟩, _, hask⟩ := Option.map_eq_some_iff.1 hcreate
  have hask : (create o e place { h with files }).ask = (asked, c) := hask
  have hstart := asking_create hopened place files
  obtain ⟨_, _, _, _, _, hsent, haddress⟩ := opened?_eq hopened
  by_cases hbad : o.settings.maxPayload < o.fileName.length ∨ 65493 < o.fileName.length ∨
      Ipv4.Address.parse? o.serverAddress = none
  · obtain ⟨report, emitted, notices, hnot⟩ := ask_of_not_askable hstart.toLocated hstart.opened hbad
    obtain ⟨rfl, rfl⟩ := Prod.mk.inj (hask.symm.trans hnot)
    exact ⟨fun _ => ⟨rfl, hsent⟩, .inr rfl, ⟨[], [], []⟩, ⟨hstart.arrivals_eq, hstart.sent_eq,
      hstart.asked, hstart.few, hstart.spaced, hstart.answered_iff, hstart.answers⟩, nofun⟩
  · refine ⟨fun h => absurd h hbad, ?_⟩
    rw [not_or, not_or, Nat.not_lt, Nat.not_lt] at hbad
    have hf : Askable o := ⟨hbad.1, hbad.2.1, haddress, Option.ne_none_iff_exists'.1 hbad.2.2⟩
    obtain ⟨d, _, hconversed, hasking⟩ := hstart.ask hf rfl (Int.le_max_left _ _) nofun
    rw [hask] at hconversed hasking
    exact ⟨.inl hf, d, hconversed, hasking⟩

/-- **How a run asks for the file.**  A client with an open endpoint that cannot open its output,
whose name for the file is too long, or that cannot frame it, returns false and has sent nothing.
Otherwise it has sent at every point first its requests and then the acknowledgements of its
receiver: all requests are the same packet, not too close together, and not too many unless that is
allowed so often that the client cannot count it; and once a packet of the server is among what was
read, of whatever kind, there are no requests any more. -/
theorem run_asks (hopened : (opened? o host).isSome = true) :
    (begun? o host = none ∨ o.settings.maxPayload < o.fileName.length ∨
        65493 < o.fileName.length ∨ Ipv4.Address.parse? o.serverAddress = none →
      ∀ limit, (run o limit host).conclusion = .finished false ∧
        (run o limit host).host.sent = host.sent) ∧
    ∀ asked c, begun? o host = some (asked, c) →
      (∀ limit, run o limit host = outcome (watch limit (fuel limit host) (asked, c)) ∧
        (run o limit host).host.sent
          = (watch limit (fuel limit host) (asked, c)).2.host.sent) ∧
      ∀ limit n, ∃ d, (watch limit n (asked, c)).2.Conversed o host.arrivals host.sent d ∧
        ∀ m, n ≤ m → ∃ d', d.Leads o d' ∧
          (watch limit m (asked, c)).2.Conversed o host.arrivals host.sent d' := by
  constructor
  · intro hbad limit
    cases hbegun : begun? o host with
    | none =>
        obtain ⟨hfinished, hsent, _⟩ := run_of_begun?_eq_none hopened hbegun limit
        exact ⟨hfinished, hsent⟩
    | some begun =>
        obtain ⟨asked, c⟩ := begun
        rw [hbegun] at hbad
        obtain ⟨hnot, _⟩ := asks_of_begun? hbegun
        obtain ⟨rfl, hsent⟩ := hnot (hbad.resolve_left nofun)
        rw [run_of_begun? hbegun]
        exact ⟨rfl, (sent_outcome _ c).trans hsent⟩
  · intro asked c hbegun
    refine ⟨fun limit => ⟨run_of_begun? hbegun limit, ?_⟩, fun limit n => ?_⟩
    · rw [run_of_begun? hbegun]
      exact sent_outcome _ _
    · obtain ⟨_, haskable, d, hconversed, hasking⟩ := asks_of_begun? hbegun
      cases asked with
      | false => exact ⟨d, hconversed, fun m _ => ⟨d, .refl d, hconversed⟩⟩
      | true => exact (hasking rfl).loop_of_le (haskable.resolve_right nofun) limit n

/-- A client that asks again soon. -/
def urgentClient : ClientOptions :=
  { hastyClient with settings := { timeout := 20, receiveTimeout := 10 } }

/-- A packet of somebody else, a damaged one, and then those of a file. -/
def tardyHost : Host where
  arrivals :=
    let frame (source : Bytes) (p : Packet) : Bytes :=
      ((posting? source 12345 (text "10.0.0.2") 12346 (0, p)).map (·.2.2.2)).getD []
    let frames := (numbered (script [[1, 2], [3]])).map (frame (text "10.0.0.1"))
    ⟨5, .datagram (frame (text "10.0.0.9") (ackPacket 0))⟩ ::
      ⟨25, .datagram ((frames.headD []).dropLast ++ [0])⟩ ::
      frames.map fun frame => ⟨60, .datagram frame⟩

/-- The client on that machine after its first request. -/
def urgentStart : Bool × Client :=
  (begun? urgentClient tardyHost).get (by decide +kernel)

/-- It asks three times before the file comes, and acknowledges each packet of it once. -/
theorem run_asks_tardy : (opened? urgentClient tardyHost).isSome = true ∧
    ∃ requests answers, (run urgentClient 100 tardyHost).host.sent = requests ++ answers ∧
      (∀ x ∈ requests, Carries urgentClient (requestPacket (text "f")) x) ∧
      requests.length + answers.length = 6 ∧
      List.Forall₂ (fun number => Carries urgentClient (ackPacket number)) [0, 1, 2] answers := by
  have hopened : (opened? urgentClient tardyHost).isSome = true := by decide +kernel
  have hbegun : begun? urgentClient tardyHost = some urgentStart := (Option.some_get _).symm
  have hnothing :
      (watch 100 (fuel 100 tardyHost) (urgentStart.1, urgentStart.2)).2.host.arrivals = [] := by
    decide +kernel
  have hcount : (run urgentClient 100 tardyHost).host.sent.length = 6 := by decide +kernel
  have hacks : ({} : Receiver).acks (packets urgentClient tardyHost.arrivals) = [0, 1, 2] := by
    decide +kernel
  obtain ⟨hrun, hall⟩ := (run_asks hopened).2 urgentStart.1 urgentStart.2 hbegun
  obtain ⟨d, hconversed, _⟩ := hall 100 (fuel 100 tardyHost)
  -- all that there was has been read
  have hread := hconversed.arrivals_eq
  rw [hnothing, List.append_nil] at hread
  have hanswers := hconversed.answers
  rw [← hread, hacks] at hanswers
  have hsent : (run urgentClient 100 tardyHost).host.sent = d.requests ++ d.answers :=
    (hrun 100).2.trans (hconversed.sent_eq.trans (List.nil_append _))
  refine ⟨hopened, d.requests, d.answers, hsent, hconversed.asked, ?_, hanswers⟩
  rw [← List.length_append, ← hsent, hcount]

end Client

end ReliableTransfer
