import ReliableTransfer.Proofs.Carrying
import ReliableTransfer.Proofs.Client.Output
import ReliableTransfer.Proofs.Window.Handing

/-!
# What a client says

All that a client gives out are its requests, and what it makes of the server's packets one after
the other: the bytes an in-order receiver has for the output, and behind them its acknowledgement.

* `Emission.packet?`, `Emission.bytes` — the packets and the bytes among what is given out.
* `Client.Gives` — requests, and between them what was made of what was heard.
* `Client.Says` — the packets of that: requests, and the acknowledgements of what was heard.
* **`Client.Gives.ordered`** — a number is acknowledged after what it stands for was written.
* `Client.Speaks` — what the client has given out is what it had to say to what it has read.
* `Client.rounds`, `Client.Departs` — the rounds of its loop, and that it has left it.
* `Client.finished_loop_iff` — success is to leave it with the whole file written.
-/

namespace ReliableTransfer

namespace Emission

/-- The packet, where one is sent. -/
def packet? : Emission → Option Packet
  | written _ => none
  | sent p => some p

/-- The bytes, where some are written. -/
def bytes : Emission → Bytes
  | written bytes => bytes
  | sent _ => []

lemma packets_writing (bytes : Bytes) : (writing bytes).filterMap packet? = [] := by
  rw [writing]
  split_ifs <;> rfl

lemma bytes_writing (bytes : Bytes) : (writing bytes).flatMap Emission.bytes = bytes := by
  rw [writing]
  split_ifs with hempty
  · exact (List.isEmpty_iff.1 hempty).symm
  · exact List.append_nil bytes

end Emission

namespace Client

variable {o : ClientOptions} {c c' : Client} {place : Location} {files : Files}
  {arrivals : List Arrival} {earlier : List Sending}

/-- Requests for the file, and the acknowledgements of these packets in order. -/
structure Says (o : ClientOptions) (heard said : List Packet) : Prop where
  acks_eq : said.filter Packet.isAck = (({} : Receiver).acks heard).map ackPacket
  others : ∀ p ∈ said, p.isAck = false → p = requestPacket o.fileName

lemma isAck_ackPacket (number : UInt32) : (ackPacket number).isAck = true :=
  (by decide : Flags.ack.has Flags.ack = true)

lemma isAck_requestPacket (name : Bytes) : (requestPacket name).isAck = false :=
  (by decide : Flags.request.has Flags.ack = false)

/-! ## For one packet -/

section Emissions

variable {receipt : Receipt}

lemma bytes_emissions (receipt : Receipt) :
    (emissions receipt).flatMap Emission.bytes = receipt.output := by
  have hacks : (receipt.ack.toList.map fun number => Emission.sent (ackPacket number)).flatMap
      Emission.bytes = [] := by
    cases receipt.ack <;> rfl
  rw [emissions, List.flatMap_append, hacks, List.append_nil, Emission.bytes_writing]

lemma packets_emissions (receipt : Receipt) :
    (emissions receipt).filterMap Emission.packet? = receipt.ack.toList.map ackPacket := by
  rw [emissions, List.filterMap_append, Emission.packets_writing, List.nil_append]
  cases receipt.ack <;> rfl

/-- The acknowledgements among them are those of the receipts. -/
lemma acks_emissions (receipts : List Receipt) :
    ((receipts.flatMap emissions).filterMap Emission.packet?).filter Packet.isAck
      = (receipts.filterMap Receipt.ack).map ackPacket := by
  induction receipts with
  | nil => rfl
  | cons receipt rest ih =>
      rw [List.flatMap_cons, List.filterMap_append, List.filter_append, ih, packets_emissions,
        List.filterMap_cons]
      cases receipt.ack with
      | none => rfl
      | some number => simp [isAck_ackPacket]

/-- All packets among them are acknowledgements. -/
lemma isAck_of_mem_emissions {p : Packet} (hp : .sent p ∈ emissions receipt) : p.isAck = true := by
  have hmem : p ∈ (emissions receipt).filterMap Emission.packet? :=
    List.mem_filterMap.2 ⟨_, hp, rfl⟩
  rw [packets_emissions] at hmem
  obtain ⟨number, _, rfl⟩ := List.mem_map.1 hmem
  exact isAck_ackPacket number

/-- So a request is not among them. -/
lemma ne_request_of_mem_emissions {e : Emission} (he : e ∈ emissions receipt) (name : Bytes) :
    e ≠ .sent (requestPacket name) := by
  rintro rfl
  have hack := isAck_of_mem_emissions he
  rw [isAck_requestPacket] at hack
  cases hack

/-- Before the acknowledgement all the bytes are written, and nothing follows it. -/
lemma emissions_eq_append {number : UInt32} {front rest : List Emission}
    (h : emissions receipt = front ++ .sent (ackPacket number) :: rest) :
    receipt.ack = some number ∧ front.flatMap Emission.bytes = receipt.output := by
  cases hack : receipt.ack with
  | none =>
      have hpackets := packets_emissions receipt
      rw [h, hack, List.filterMap_append, List.filterMap_cons] at hpackets
      exact absurd hpackets (by simp [Emission.packet?])
  | some number' =>
      rw [emissions, hack, Option.toList_some, List.map_singleton] at h
      rcases List.eq_nil_or_concat rest with rfl | ⟨rest', last, rfl⟩
      · obtain ⟨hfront, hlast⟩ := List.append_inj' h rfl
        have hnumber : number' = number :=
          congrArg Packet.ack (Emission.sent.inj (List.cons.inj hlast).1)
        rw [hnumber, ← hfront]
        exact ⟨rfl, Emission.bytes_writing receipt.output⟩
      · -- an acknowledgement that is not the last would stand among what is written
        rw [List.concat_eq_append, ← List.cons_append, ← List.append_assoc] at h
        have hwriting := Emission.packets_writing receipt.output
        rw [(List.append_inj' h rfl).1, List.filterMap_append, List.filterMap_cons] at hwriting
        exact absurd hwriting (by simp [Emission.packet?])

end Emissions

/-! ## For all that was heard -/

/-- What stands before an acknowledgement was made of a front part of what was heard, and the last
packet of that is what is acknowledged. -/
lemma exists_heard {heard : List Packet} {r : Receiver} {number : UInt32}
    {front rest : List Emission}
    (h : (r.acceptAll heard).2.flatMap emissions = front ++ .sent (ackPacket number) :: rest) :
    ∃ first, first <+: heard ∧ number ∈ r.acks first ∧
      front.flatMap Emission.bytes = ((r.acceptAll first).2.map Receipt.output).flatten := by
  induction heard generalizing r front with
  | nil => exact absurd h (by simp [Receiver.acceptAll])
  | cons p heard ih =>
      have hlater : ∀ later, front = emissions (r.accept p).2 ++ later →
          ((r.accept p).1.acceptAll heard).2.flatMap emissions
            = later ++ .sent (ackPacket number) :: rest →
          ∃ first, first <+: p :: heard ∧ number ∈ r.acks first ∧
            front.flatMap Emission.bytes
              = ((r.acceptAll first).2.map Receipt.output).flatten := by
        rintro later rfl hlater
        obtain ⟨first, hfirst, hnumber, hbytes⟩ := ih hlater
        obtain ⟨receipt, hreceipt, hack⟩ := List.mem_filterMap.1 hnumber
        refine ⟨p :: first, List.cons_prefix_cons.2 ⟨rfl, hfirst⟩,
          List.mem_filterMap.2 ⟨receipt, List.mem_cons_of_mem _ hreceipt, hack⟩, ?_⟩
        rw [List.flatMap_append, bytes_emissions, hbytes]
        rfl
      rw [Receiver.acceptAll, List.flatMap_cons, List.append_eq_append_iff] at h
      rcases h with ⟨later, hfront, hrest⟩ | ⟨back, hemissions, hrest⟩
      · exact hlater later hfront hrest
      · cases back with
        | nil =>
            rw [List.append_nil] at hemissions
            exact hlater [] (by rw [List.append_nil, hemissions]) hrest.symm
        | cons e back =>
            -- the acknowledgement is the one of this packet
            obtain ⟨rfl, -⟩ := List.cons.inj hrest
            obtain ⟨hack, hbytes⟩ := emissions_eq_append hemissions
            refine ⟨[p], List.cons_prefix_cons.2 ⟨rfl, List.nil_prefix⟩,
              List.mem_filterMap.2 ⟨_, List.mem_singleton_self _, hack⟩, ?_⟩
            rw [hbytes]
            exact (List.append_nil _).symm

/-- **Requests for the file, and between them what was made of these packets**, one after the
other. -/
def Gives (o : ClientOptions) (heard : List Packet) (given : List Emission) : Prop :=
  given.filter (· ≠ .sent (requestPacket o.fileName))
    = (({} : Receiver).acceptAll heard).2.flatMap emissions

namespace Gives

variable {heard : List Packet} {given : List Emission}

lemma nothing (o : ClientOptions) : Gives o [] [] :=
  rfl

lemma request (hg : Gives o heard given) :
    Gives o heard (given ++ [.sent (requestPacket o.fileName)]) := by
  rw [Gives, List.filter_append, hg, List.filter_singleton]
  simp

/-- One packet more is heard. -/
lemma answer (hg : Gives o heard given) (p : Packet) : Gives o (heard ++ [p])
    (given ++ emissions ((({} : Receiver).acceptAll heard).1.accept p).2) := by
  have hall : ∀ receipt, (emissions receipt).filter (· ≠ .sent (requestPacket o.fileName))
      = emissions receipt := fun receipt => List.filter_eq_self.2 fun e he =>
    decide_eq_true (ne_request_of_mem_emissions he o.fileName)
  rw [Gives, List.filter_append, hg, hall, Receiver.acceptAll_append, List.flatMap_append]
  exact congrArg (_ ++ ·) (List.append_nil _).symm

/-- Requests do not write anything. -/
lemma bytes_without_requests (o : ClientOptions) (given : List Emission) :
    (given.filter (· ≠ .sent (requestPacket o.fileName))).flatMap Emission.bytes
      = given.flatMap Emission.bytes := by
  induction given with
  | nil => rfl
  | cons e rest ih =>
      rw [List.filter_cons]
      split_ifs with he
      · rw [List.flatMap_cons, List.flatMap_cons, ih]
      · rw [decide_eq_true_eq, not_not] at he
        rw [he, ih]
        rfl

/-- Requests do not acknowledge anything. -/
lemma acks_without_requests (o : ClientOptions) (given : List Emission) :
    ((given.filter (· ≠ .sent (requestPacket o.fileName))).filterMap Emission.packet?).filter
        Packet.isAck
      = (given.filterMap Emission.packet?).filter Packet.isAck := by
  induction given with
  | nil => rfl
  | cons e rest ih =>
      rw [List.filter_cons]
      split_ifs with he
      · simp only [List.filterMap_cons]
        cases e.packet? with
        | none => exact ih
        | some p => simp only [List.filter_cons, ih]
      · rw [decide_eq_true_eq, not_not] at he
        rw [he, ih, List.filterMap_cons, Emission.packet?, List.filter_cons_of_neg]
        rw [isAck_requestPacket]
        exact Bool.false_ne_true

/-- **What was written** is the output of the receiver. -/
lemma bytes_eq (hg : Gives o heard given) : given.flatMap Emission.bytes
    = ((({} : Receiver).acceptAll heard).2.map Receipt.output).flatten := by
  rw [← bytes_without_requests o, hg, List.flatMap_assoc, funext bytes_emissions,
    List.flatMap_def]

/-- **The packets among it** are requests and acknowledgements. -/
lemma toSays (hg : Gives o heard given) : Says o heard (given.filterMap Emission.packet?) := by
  constructor
  · rw [← acks_without_requests o, hg, acks_emissions, Receiver.acks]
  · intro p hp hack
    obtain ⟨e, he, hpacket⟩ := List.mem_filterMap.1 hp
    by_cases hrequest : e = .sent (requestPacket o.fileName)
    · rw [hrequest] at hpacket
      exact (Option.some.inj hpacket).symm
    · have hmem : e ∈ given.filter (· ≠ .sent (requestPacket o.fileName)) :=
        List.mem_filter.2 ⟨he, decide_eq_true hrequest⟩
      rw [hg] at hmem
      obtain ⟨receipt, _, he'⟩ := List.mem_flatMap.1 hmem
      cases e with
      | written bytes => cases hpacket
      | sent q =>
          rw [← Option.some.inj hpacket, isAck_of_mem_emissions he'] at hack
          cases hack

/-- **What is acknowledged was written before**: what was written by then is the output for a front
part of what was heard, and the number is among the acknowledgements of that. -/
lemma ordered (hg : Gives o heard given) {number : UInt32} {front rest : List Emission}
    (h : given = front ++ .sent (ackPacket number) :: rest) :
    ∃ first, first <+: heard ∧ number ∈ ({} : Receiver).acks first ∧
      front.flatMap Emission.bytes
        = ((({} : Receiver).acceptAll first).2.map Receipt.output).flatten := by
  have hmem : Emission.sent (ackPacket number) ∈ emissions ⟨some number, []⟩ :=
    List.mem_singleton_self _
  have hne := ne_request_of_mem_emissions hmem o.fileName
  rw [Gives, h, List.filter_append, List.filter_cons, if_pos (decide_eq_true hne)] at hg
  obtain ⟨first, hfirst, hnumber, hbytes⟩ := exists_heard hg.symm
  exact ⟨first, hfirst, hnumber, (bytes_without_requests o front).symm.trans hbytes⟩

end Gives

/-- These datagrams are the packets among what was given out. -/
def Spoken (o : ClientOptions) (given : List Emission) (sent : List Sending) : Prop :=
  ∃ calls : List (Int × Packet), sent.map Sending.posting = calls.filterMap (post? o) ∧
    calls.map Prod.snd = given.filterMap Emission.packet?

/-- One packet more, or none. -/
lemma Spoken.more {given given' : List Emission} {sent sent' : List Sending}
    (hs : Spoken o given sent) (call : Option (Int × Packet))
    (hsent : sent'.map Sending.posting = (call.bind (post? o)).toList)
    (hgiven : given'.filterMap Emission.packet? = (call.map Prod.snd).toList) :
    Spoken o (given ++ given') (sent ++ sent') := by
  obtain ⟨calls, hmap, hpackets⟩ := hs
  refine ⟨calls ++ call.toList, ?_, ?_⟩
  · rw [List.map_append, hmap, hsent, List.filterMap_append]
    cases call with
    | none => rfl
    | some call =>
        rw [Option.toList_some, List.filterMap_eq_flatMap_toList _ [call],
          List.flatMap_singleton]
        rfl
  · rw [List.map_append, hpackets, List.filterMap_append, hgiven]
    cases call <;> rfl

/-- **What the client has given out** is what it had to say to what it has read, and its packets
are what it has sent since `earlier`. -/
structure Speaks (o : ClientOptions) (place : Location) (files : Files) (arrivals : List Arrival)
    (earlier : List Sending) (c : Client) : Prop extends c.Hears o place files arrivals where
  spoken : ∃ read sent, arrivals = read ++ c.host.arrivals ∧ c.host.sent = earlier ++ sent ∧
    Gives o (packets o read) c.emitted ∧ Spoken o c.emitted sent

namespace Speaks

/-- What has nothing to do with the network makes no difference. -/
lemma of_hears (hs : c.Speaks o place files arrivals earlier)
    (hh : c'.Hears o place files arrivals) (harrivals : c'.host.arrivals = c.host.arrivals)
    (hsent : c'.host.sent = c.host.sent) (hemitted : c'.emitted = c.emitted) :
    c'.Speaks o place files arrivals earlier :=
  ⟨hh, by rw [harrivals, hsent, hemitted]; exact hs.spoken⟩

lemma ask (hs : c.Speaks o place files arrivals earlier) :
    c.ask.2.Speaks o place files arrivals earlier := by
  obtain ⟨read, sent, harrivals, hsent, hgives, hspoken⟩ := hs.spoken
  refine ⟨hs.toHears.ask, ?_⟩
  rw [Client.ask]
  split_ifs
  · exact hs.spoken
  · obtain ⟨ok, host, htransmit, sent', notices, rfl, hmap⟩ :=
      transmit_eq hs.toLocated hs.opened (requestPacket c.options.fileName)
    rw [hs.options_eq] at hmap htransmit ⊢
    have hafter : ∃ read sent, arrivals = read ++ c.host.arrivals ∧
        c.host.sent ++ sent' = earlier ++ sent ∧
        Gives o (packets o read) (c.emitted ++ [.sent (requestPacket o.fileName)]) ∧
        Spoken o (c.emitted ++ [.sent (requestPacket o.fileName)]) sent :=
      ⟨read, sent ++ sent', harrivals, by rw [hsent, List.append_assoc], hgives.request,
        hspoken.more (some (c.host.now, requestPacket o.fileName)) hmap rfl⟩
    rw [htransmit]
    cases ok with
    | true => exact hafter
    | false => exact hafter

lemma decide (hs : c.Speaks o place files arrivals earlier) :
    c.decide.client.Speaks o place files arrivals earlier := by
  refine ⟨hs.toHears.decide, ?_⟩
  rw [Client.decide]
  split_ifs
  · exact hs.spoken
  · exact hs.spoken
  · exact hs.spoken
  · have hask := (hs.of_hears (hs.toHears.note .requestRepeated) rfl rfl rfl).ask.spoken
    split
    · rename_i c' hc'
      rw [hc'] at hask
      exact hask
    · rename_i c' hc'
      rw [hc'] at hask
      exact hask
  · exact hs.spoken

/-- **A read** is answered as the receiver says. -/
lemma readNext (hs : c.Speaks o place files arrivals earlier) :
    c.read.Speaks o place files arrivals earlier := by
  obtain ⟨read, sent, harrivals, hsent, hgives, hspoken⟩ := hs.spoken
  refine ⟨hs.toHears.readNext, ?_⟩
  obtain ⟨before, hbefore, hreceiver, _⟩ := hs.kept
  obtain rfl : before = read := List.append_cancel_right (hbefore.symm.trans harrivals)
  obtain ⟨corrupted, rest, notices, ⟨hread, hrest⟩ | ⟨a, p, ha, hpacket, hread⟩⟩ :=
    read_cases hs.toLocated
  · rw [hread]
    rcases hrest with rfl | ⟨a, ha, hnone⟩
    · exact ⟨before, sent, harrivals, hsent, hgives, hspoken⟩
    · have hsame : packets o (before ++ [a]) = packets o before := by
        rw [packets_concat, hnone]
        exact List.append_nil _
      refine ⟨before ++ [a], sent, ?_, hsent, by rw [hsame]; exact hgives, hspoken⟩
      rw [harrivals, ha, List.append_assoc, List.singleton_append]
  · obtain ⟨host, report, hhear, sent', notices', rfl, hmap⟩ :=
      hear_eq (c := { c with
          endpoint := { c.endpoint with corrupted }
          host := { c.host with arrivals := rest, notices } })
        ⟨hs.options_eq, hs.address_eq, hs.port_eq⟩ hs.opened p
    rw [hread, hhear]
    dsimp only at hmap ⊢
    rw [hreceiver] at hmap ⊢
    refine ⟨before ++ [a], sent ++ sent', ?_, ?_, ?_, ?_⟩
    · rw [harrivals, ha, List.append_assoc, List.singleton_append]
    · rw [hsent, List.append_assoc]
    · rw [packets_concat, hpacket]
      exact hgives.answer p
    · refine hspoken.more (((({} : Receiver).acceptAll (packets o before)).1.accept p).2.ack.map
        fun number => (c.host.now, ackPacket number)) ?_ ?_
      · rw [hmap, Option.bind_map]
        rfl
      · rw [packets_emissions, Option.map_map, Option.toList_map]
        rfl

lemma await (hs : c.Speaks o place files arrivals earlier) {limit : Int} {host : Host}
    (hawait : c.host.awaitRead limit c.endpoint.descriptor = some host) :
    ({ c with host } : Client).Speaks o place files arrivals earlier := by
  refine ⟨hs.toHears.await hawait, ?_⟩
  rw [Host.awaitRead] at hawait
  split at hawait
  · split_ifs at hawait
    rw [← Option.some.inj hawait]
    exact hs.spoken
  · cases hawait

/-- **The client's work**, however long it goes on. -/
lemma loop (hs : c.Speaks o place files arrivals earlier) (limit : Int) (fuel : Nat) :
    (c.loop limit fuel).2.Speaks o place files arrivals earlier := by
  induction fuel generalizing c with
  | zero => exact hs
  | succ fuel ih =>
      have hdecide := hs.decide
      rw [Client.loop]
      cases hdecision : c.decide with
      | leave c' =>
          rw [hdecision] at hdecide
          exact hdecide.of_hears hdecide.toHears.conclude rfl rfl rfl
      | breakOff c' =>
          rw [hdecision] at hdecide
          exact hdecide
      | read c' =>
          rw [hdecision] at hdecide
          dsimp only
          split
          · exact hdecide
          · rename_i host hawait
            exact ih (hdecide.await hawait).readNext

end Speaks

/-! ## Leaving -/

/-- The client after some rounds of its loop, if it gets that far. -/
def rounds (limit : Int) : Nat → Client → Option Client
  | 0, c => some c
  | n + 1, c =>
    match c.decide with
    | .read c => (c.host.awaitRead limit c.endpoint.descriptor).bind fun host =>
        rounds limit n ({ c with host } : Client).read
    | _ => none

/-- The client gets to the end of its loop within `n` rounds, and this is how it leaves. -/
def Departs (limit : Int) (n : Nat) (c final : Client) : Prop :=
  ∃ m head last, m < n ∧ c.rounds limit m = some head ∧ head.decide = .leave last ∧
    final = last.conclude

lemma departs_of_leave (limit : Int) (n : Nat) (h : c.decide = .leave c') :
    Departs limit (n + 1) c c'.conclude :=
  ⟨0, c, c', Nat.succ_pos n, rfl, h, rfl⟩

lemma not_departs_of_breakOff {limit : Int} {n : Nat} {final : Client}
    (h : c.decide = .breakOff c') : ¬ Departs limit n c final := by
  rintro ⟨m, head, last, _, hrounds, hleave, _⟩
  cases m with
  | zero =>
      rw [← Option.some.inj hrounds, h] at hleave
      cases hleave
  | succ m =>
      rw [rounds, h] at hrounds
      cases hrounds

/-- If the first round is a read, whatever follows is work of its own. -/
lemma departs_of_read {limit : Int} {n : Nat} {final : Client} (h : c.decide = .read c') :
    Departs limit (n + 1) c final ↔ ∃ host,
      c'.host.awaitRead limit c'.endpoint.descriptor = some host ∧
        Departs limit n ({ c' with host } : Client).read final := by
  constructor
  · rintro ⟨m, head, last, hlt, hrounds, hleave, hfinal⟩
    cases m with
    | zero =>
        rw [← Option.some.inj hrounds, h] at hleave
        cases hleave
    | succ m =>
        rw [rounds, h] at hrounds
        obtain ⟨host, hawait, hrest⟩ := Option.bind_eq_some_iff.1 hrounds
        exact ⟨host, hawait, m, head, last, Nat.lt_of_succ_lt_succ hlt, hrest, hleave, hfinal⟩
  · rintro ⟨host, hawait, m, head, last, hlt, hrounds, hleave, hfinal⟩
    refine ⟨m + 1, head, last, Nat.succ_lt_succ hlt, ?_, hleave, hfinal⟩
    rw [rounds, h]
    exact Option.bind_eq_some_iff.2 ⟨host, hawait, hrounds⟩

/-- **Success** is to get to the end of the loop with the whole file, all of it written. -/
lemma finished_loop_iff (limit : Int) (n : Nat) (c : Client) :
    (c.loop limit n).1 = .finished true ↔ Departs limit n c (c.loop limit n).2 ∧
      (c.loop limit n).2.receiver.finished = true ∧
      (c.loop limit n).2.host.files.accepts (c.loop limit n).2.place (c.loop limit n).2.output
        = true := by
  induction n generalizing c with
  | zero =>
      constructor
      · intro h
        cases h
      · rintro ⟨⟨_, _, _, hlt, _⟩, _⟩
        exact absurd hlt (Nat.not_lt_zero _)
  | succ n ih =>
      rw [Client.loop]
      cases hdecision : c.decide with
      | leave c' =>
          have hcompleted : c'.conclude.report.completed = true ↔ c'.receiver.finished = true ∧
              c'.host.files.accepts c'.place c'.output = true := Bool.and_eq_true_iff
          constructor
          · intro h
            exact ⟨departs_of_leave limit n hdecision, hcompleted.1 (Conclusion.finished.inj h)⟩
          · rintro ⟨_, h⟩
            exact congrArg Conclusion.finished (hcompleted.2 h)
      | breakOff c' =>
          constructor
          · intro h
            cases Conclusion.finished.inj h
          · rintro ⟨hdeparts, _⟩
            exact absurd hdeparts (not_departs_of_breakOff hdecision)
      | read c' =>
          dsimp only
          rw [departs_of_read hdecision]
          cases c'.host.awaitRead limit c'.endpoint.descriptor with
          | none =>
              constructor
              · intro h
                cases h
              · rintro ⟨⟨host, hhost, _⟩, _⟩
                cases hhost
          | some host =>
              simp only [Option.some.injEq, exists_eq_left']
              exact ih _

/-- A client that has left has counted what it has kept. -/
lemma fileSize_of_departs {limit : Int} {n : Nat} {final : Client}
    (h : Departs limit n c final) : final.report.fileSize = final.receiver.bytesWritten := by
  obtain ⟨_, _, last, _, _, _, rfl⟩ := h
  rfl

end Client

end ReliableTransfer
