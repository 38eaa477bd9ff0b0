import ReliableTransfer.Proofs.Client.Speaking

/-!
# A client is an in-order receiver

Requests that are repeated, foreign and damaged traffic, deadlines and an output that cannot be
written: none of it comes between the packets of the server and the receiver.

* `Client.opened?`, `Client.begun?` — the client with its endpoint open, and after it has opened its
  output and asked for the first time.
* `Client.watch` — the client after that, for some rounds of its loop.
* `Client.InOrder` — the client has done what an in-order receiver does with what was read.
* **`Client.run_in_order`** — what it acknowledges, what it writes, and when it succeeds.
-/

namespace ReliableTransfer.Client

variable {o : ClientOptions} {host : Host} {c : Client} {place : Location} {files : Files}
  {arrivals : List Arrival} {earlier : List Sending}

/-- The open endpoint of a client and its machine, if it can be opened. -/
def opened? (o : ClientOptions) (host : Host) : Option (Endpoint × Host) :=
  match ({ address := o.clientAddress, port := o.settings.clientPort } : Endpoint).attach
      o.settings.receiveTimeout host with
  | (true, e, h) => some
      (e, h.note (.clientStarted o.clientAddress o.fileName o.serverAddress o.output o.settings))
  | (false, _, _) => none

/-- The client that has opened its output and has asked for the file, and whether that worked. -/
def begun? (o : ClientOptions) (host : Host) : Option (Bool × Client) :=
  (opened? o host).bind fun (e, h) =>
    (h.files.create? o.output).map fun (place, files) => (create o e place { h with files }).ask

/-- How far such a client is after at most `n` rounds of its loop. -/
def watch (limit : Int) (n : Nat) : Bool × Client → Conclusion × Client
  | (true, c) => c.loop limit n
  | (false, c) => (.finished false, c)

lemma run_of_opened? {e : Endpoint} {h : Host} (hopened : opened? o host = some (e, h))
    (limit : Int) : run o limit host = work o limit e h := by
  rw [opened?] at hopened
  rw [run]
  dsimp only at hopened ⊢
  split at hopened
  · rename_i e' h' hattach
    obtain ⟨rfl, rfl⟩ := Prod.mk.inj (Option.some.inj hopened)
    rw [hattach]
  · cases hopened

/-- What is known of an open endpoint. -/
lemma opened?_eq {e : Endpoint} {h : Host} (hopened : opened? o host = some (e, h)) :
    e.address = o.clientAddress ∧ e.port = o.settings.clientPort ∧ e.Open h ∧
      h.files = host.files ∧ h.arrivals = host.arrivals ∧ h.sent = host.sent ∧
      ∃ a, Ipv4.Address.parse? o.clientAddress = some a := by
  obtain ⟨ok, descriptor, h', hattach, hrewired, hopen⟩ :=
    ({ address := o.clientAddress, port := o.settings.clientPort } : Endpoint).attach_eq
      o.settings.receiveTimeout host
  rw [opened?, hattach] at hopened
  cases ok with
  | false => cases hopened
  | true =>
      obtain ⟨rfl, rfl⟩ := Prod.mk.inj (Option.some.inj hopened)
      exact ⟨rfl, rfl, hopen rfl, hrewired.files_eq, hrewired.arrivals_eq, hrewired.sent_eq,
        Endpoint.exists_address_of_attach (congrArg Prod.fst hattach)⟩

/-- A client whose output cannot be opened gives up before it sends or reads anything. -/
lemma run_of_begun?_eq_none (hopened : (opened? o host).isSome = true)
    (hbegun : begun? o host = none) (limit : Int) : (run o limit host).conclusion = .finished false ∧
      (run o limit host).host.sent = host.sent ∧
      (run o limit host).host.arrivals = host.arrivals := by
  obtain ⟨⟨e, h⟩, hopened⟩ := Option.isSome_iff_exists.1 hopened
  obtain ⟨_, _, _, _, harrivals, hsent, _⟩ := opened?_eq hopened
  have hcreate : h.files.create? o.output = none := by
    rw [begun?, hopened] at hbegun
    exact Option.map_eq_none_iff.1 hbegun
  obtain ⟨h', hdetach, hrewired⟩ := e.detach_eq (h.note (.outputNotOpened o.output))
  rw [run_of_opened? hopened, work, hcreate]
  dsimp only
  rw [hdetach]
  exact ⟨rfl, hrewired.sent_eq.trans hsent, hrewired.arrivals_eq.trans harrivals⟩

section Begun

variable {asked : Bool}

lemma run_of_begun? (hbegun : begun? o host = some (asked, c)) (limit : Int) :
    run o limit host = outcome (watch limit (fuel limit host) (asked, c)) := by
  obtain ⟨⟨e, h⟩, hopened, hcreate⟩ := Option.bind_eq_some_iff.1 hbegun
  obtain ⟨⟨place, files⟩, hcreate, hask⟩ := Option.map_eq_some_iff.1 hcreate
  obtain ⟨_, _, _, _, harrivals, _⟩ := opened?_eq hopened
  have hfuel : fuel limit h = fuel limit host := by rw [fuel, harrivals, fuel]
  rw [run_of_opened? hopened, work, hcreate, ← hfuel]
  dsimp only at hask ⊢
  rw [hask]
  cases asked <;> rfl

lemma speaks_of_begun? (hbegun : begun? o host = some (asked, c)) :
    ∃ place files, host.files.create? o.output = some (place, files) ∧
      c.Speaks o place files host.arrivals host.sent := by
  obtain ⟨⟨e, h⟩, hopened, hcreate⟩ := Option.bind_eq_some_iff.1 hbegun
  obtain ⟨⟨place, files⟩, hcreate, hask⟩ := Option.map_eq_some_iff.1 hcreate
  obtain ⟨haddress, hport, hopen, hfiles, harrivals, hsent, _⟩ := opened?_eq hopened
  have hstart : (create o e place { h with files }).Speaks o place files host.arrivals
      host.sent :=
    ⟨⟨⟨rfl, haddress, hport⟩, hopen, rfl, rfl, [], harrivals.symm, rfl, rfl⟩, [], [],
      harrivals.symm, by rw [List.append_nil]; exact hsent, .nothing o, [], rfl, rfl⟩
  refine ⟨place, files, hfiles ▸ hcreate, ?_⟩
  have hasked := hstart.ask
  rw [show (create o e place { h with files }).ask = (asked, c) from hask] at hasked
  exact hasked

lemma speaks_watch (hs : c.Speaks o place files arrivals earlier) (limit : Int) (n : Nat) :
    (watch limit n (asked, c)).2.Speaks o place files arrivals earlier := by
  cases asked with
  | false => exact hs
  | true => exact hs.loop limit n

end Begun

/-! ## In order -/

/-- Packets that are too long for a datagram are never acknowledgements. -/
lemma Says.fitting {heard said : List Packet} (hs : Says o heard said) :
    Says o heard (said.filter (·.payload.length ≤ 65493)) := by
  refine ⟨?_, fun p hp => hs.others p (List.mem_of_mem_filter hp)⟩
  rw [List.filter_filter, ← hs.acks_eq]
  refine List.filter_congr fun p hp => ?_
  cases hack : p.isAck with
  | false => rfl
  | true =>
      have hmem : p ∈ said.filter Packet.isAck := List.mem_filter.2 ⟨hp, hack⟩
      rw [hs.acks_eq] at hmem
      obtain ⟨number, _, rfl⟩ := List.mem_map.1 hmem
      rfl

/-- A packet comes from the server only if the server has an address. -/
lemma packets_eq_nil (hnone : Ipv4.Address.parse? o.serverAddress = none) (read : List Arrival) :
    packets o read = [] := by
  refine List.filterMap_eq_nil_iff.2 fun a _ => ?_
  rw [packet?, Option.map_eq_none_iff, Option.filter_eq_none_iff]
  intro r _ hserver
  have hsource : r.source.dotted = o.serverAddress := by
    simpa using (Bool.and_eq_true_iff.1 hserver).1
  rw [← hsource, Ipv4.Address.parse?_dotted] at hnone
  cases hnone

/-- **The client has done what an in-order receiver does** with the packets of the server among what
it has read since it began on `host`: it has sent nothing but requests and the receiver's
acknowledgements, and has written what the receiver has.  Whenever it acknowledged a number, it had
written by then what all packets up to that number carry. -/
structure InOrder (o : ClientOptions) (host : Host) (read : List Arrival) (c : Client) : Prop where
  arrivals_eq : host.arrivals = read ++ c.host.arrivals
  sent : ∃ a b sent said, Ipv4.Address.parse? o.clientAddress = some a ∧
    (sent ≠ [] → Ipv4.Address.parse? o.serverAddress = some b) ∧
    c.host.sent = host.sent ++ sent ∧
    List.Forall₂ (Sending.Holds a o.settings.clientPort b o.settings.serverPort) sent said ∧
    Says o (packets o read) said ∧
    (sent ≠ [] →
      said = (c.emitted.filterMap Emission.packet?).filter (·.payload.length ≤ 65493))
  gives : Gives o (packets o read) c.emitted
  receiver_eq : c.receiver = (({} : Receiver).acceptAll (packets o read)).1
  output_eq : c.output = written o read
  emitted_eq : c.emitted.flatMap Emission.bytes = c.output
  tally : (packets o read).length < 4294967296 →
    c.receiver.Tally (({} : Receiver).handed (packets o read))
      (({} : Receiver).acks (packets o read)) c.output
  ordered : (packets o read).length < 4294967296 → ∀ front number rest,
    c.emitted = front ++ .sent (ackPacket number) :: rest →
    ∃ heard, heard <+: packets o read ∧ number ∈ ({} : Receiver).acks heard ∧
      (({} : Receiver).acceptAll heard).1.Tally (({} : Receiver).handed heard)
        (({} : Receiver).acks heard) (front.flatMap Emission.bytes)

lemma Speaks.inOrder (hs : c.Speaks o place files host.arrivals host.sent)
    (haddress : ∃ a, Ipv4.Address.parse? o.clientAddress = some a) :
    ∃ read, InOrder o host read c := by
  obtain ⟨read, sent, harrivals, hsent, hgives, calls, hmap, hpackets⟩ := hs.spoken
  obtain ⟨before, hbefore, hreceiver, houtput⟩ := hs.kept
  obtain rfl : before = read := List.append_cancel_right (hbefore.symm.trans harrivals)
  obtain ⟨a, ha⟩ := haddress
  refine ⟨before, harrivals, ?_, hgives, hreceiver, houtput, hgives.bytes_eq.trans houtput.symm,
    fun hlength => ?_, fun hlength front number rest hemitted => ?_⟩
  · cases hb : Ipv4.Address.parse? o.serverAddress with
    | some b =>
        have hholds := Sending.holds_of_postings ha hb hmap
        rw [hpackets] at hholds
        exact ⟨a, b, sent, _, ha, fun _ => rfl, hsent, hholds, hgives.toSays.fitting, fun _ => rfl⟩
    | none =>
        -- nothing can be framed for a server without an address, and nothing comes from it
        have hnone : sent = [] := by
          rw [← List.map_eq_nil_iff (f := Sending.posting), hmap, List.filterMap_eq_nil_iff]
          intro call _
          rw [Option.eq_none_iff_forall_ne_some]
          intro x hx
          obtain ⟨_, _, hpack, _⟩ := exists_pack_of_posting? hx
          obtain ⟨b, hb'⟩ := (length_le_of_pack hpack).2
          rw [hb] at hb'
          cases hb'
        rw [hnone] at hsent
        refine ⟨a, default, [], [], ha, fun h => absurd rfl h, hsent, .nil, ?_,
          fun h => absurd rfl h⟩
        rw [packets_eq_nil hb]
        exact (Gives.nothing o).toSays
  · rw [hreceiver, houtput]
    exact Receiver.tally_fresh hlength
  · obtain ⟨heard, hheard, hnumber, hbytes⟩ := hgives.ordered hemitted
    rw [hbytes]
    exact ⟨heard, hheard, hnumber,
      Receiver.tally_fresh (Nat.lt_of_le_of_lt hheard.length_le hlength)⟩

/-- A client that succeeds has counted the bytes it has kept, and has put them into its file. -/
lemma outcome_of_departs {limit : Int} {n : Nat} {c₀ : Client}
    (hs : c.Speaks o place files host.arrivals host.sent) (hdeparts : Departs limit n c₀ c)
    (haccepts : c.host.files.accepts c.place c.output = true)
    (hcreate : host.files.create? o.output = some (place, files)) :
    (outcome (.finished true, c)).report.fileSize = c.output.length ∧
      (host.files.Ordinary o.output →
        (outcome (.finished true, c)).host.files.content? o.output = some c.output) := by
  obtain ⟨read, _, hreceiver, houtput⟩ := hs.kept
  constructor
  · show c.report.fileSize = _
    rw [fileSize_of_departs hdeparts, hreceiver, Receiver.bytesWritten_acceptAll, houtput]
    exact Nat.zero_add _
  · intro hordinary
    obtain ⟨place', files', hcreate', _, hput⟩ := Files.exists_create? hordinary
    obtain ⟨rfl, rfl⟩ := Prod.mk.inj (Option.some.inj (hcreate'.symm.trans hcreate))
    rw [hs.files_eq, hs.place_eq] at haccepts
    show c.close.host.files.content? o.output = _
    rw [(close_eq hs.toHears).1, hput c.output, Files.kept_eq_of_accepts haccepts]

/-- **A run of the client is that of an in-order receiver.**  A client with an open endpoint gives
up at once if it cannot open its output.  Otherwise it has done at every point what an in-order
receiver does with the packets of the server among what it has read; it succeeds if and only if it
gets to the end of its loop with the whole file and every byte was written; and then it reports the
size of what was received, and that is what its output holds if that is a regular file. -/
theorem run_in_order (hopened : (opened? o host).isSome = true) :
    (begun? o host = none → ∀ limit, (run o limit host).conclusion = .finished false ∧
      (run o limit host).host.sent = host.sent ∧
      (run o limit host).host.arrivals = host.arrivals) ∧
    ∀ asked c, begun? o host = some (asked, c) →
      (∀ limit, run o limit host = outcome (watch limit (fuel limit host) (asked, c))) ∧
      ∀ limit n, ∃ read, InOrder o host read (watch limit n (asked, c)).2 ∧
        ((watch limit n (asked, c)).1 = .finished true ↔
          asked = true ∧ Departs limit n c (watch limit n (asked, c)).2 ∧
          (watch limit n (asked, c)).2.receiver.finished = true ∧
          (watch limit n (asked, c)).2.host.files.accepts (watch limit n (asked, c)).2.place
            (written o read) = true) ∧
        ((watch limit n (asked, c)).1 = .finished true →
          (outcome (watch limit n (asked, c))).report.fileSize = (written o read).length ∧
          (host.files.Ordinary o.output →
            (outcome (watch limit n (asked, c))).host.files.content? o.output
              = some (written o read))) := by
  refine ⟨run_of_begun?_eq_none hopened, fun asked c hbegun =>
    ⟨run_of_begun? hbegun, fun limit n => ?_⟩⟩
  obtain ⟨⟨e, h⟩, hopened'⟩ := Option.isSome_iff_exists.1 hopened
  obtain ⟨_, _, _, _, _, _, haddress⟩ := opened?_eq hopened'
  obtain ⟨place, files, hcreate, hspeaks⟩ := speaks_of_begun? hbegun
  have hwatched : (watch limit n (asked, c)).2.Speaks _ _ _ _ _ := speaks_watch hspeaks limit n
  obtain ⟨read, hinOrder⟩ := hwatched.inOrder haddress
  refine ⟨read, hinOrder, ?_⟩
  rw [← hinOrder.output_eq]
  cases asked with
  | false =>
      refine ⟨⟨fun h => ?_, fun h => ?_⟩, fun h => ?_⟩
      · cases Conclusion.finished.inj h
      · cases h.1
      · cases Conclusion.finished.inj h
  | true =>
      have hfinished := finished_loop_iff limit n c
      refine ⟨⟨fun h => ⟨rfl, hfinished.1 h⟩, fun h => hfinished.2 h.2⟩, fun h => ?_⟩
      obtain ⟨hdeparts, -, haccepts⟩ := hfinished.1 h
      have hboth := outcome_of_departs hwatched hdeparts haccepts hcreate
      rwa [show (.finished true, (watch limit n (true, c)).2) = watch limit n (true, c) from
        Prod.ext h.symm rfl] at hboth

/-- A client that leaves as soon as it has the file. -/
def hastyClient : ClientOptions where
  clientAddress := text "10.0.0.2"
  serverAddress := text "10.0.0.1"
  fileName := text "f"
  linger := 0

/-- The packets of a file back to front, something without a meaning, and the packets in order. -/
def unrulyHost : Host where
  arrivals :=
    let frames := (numbered (script [[1, 2], [3]])).filterMap fun p =>
      (posting? (text "10.0.0.1") 12345 (text "10.0.0.2") 12346 (0, p)).map (·.2.2.2)
    (frames.reverse ++ [0, 0] :: frames).map fun frame => ⟨0, .datagram frame⟩

/-- The client on that machine when it has asked for the file. -/
def unrulyStart : Client :=
  ((begun? hastyClient unrulyHost).get (by decide +kernel)).2

/-- Packets out of turn are dropped, the first is acknowledged twice, and the file is written whole.
-/
theorem run_in_order_unruly :
    (run hastyClient 10 unrulyHost).conclusion = .finished true ∧
    (∃ said, List.Forall₂ (Sending.Holds ⟨10, 0, 0, 2⟩ 12346 ⟨10, 0, 0, 1⟩ 12345)
        (run hastyClient 10 unrulyHost).host.sent said ∧
      said.filter Packet.isAck = [0, 0, 1, 2].map ackPacket) ∧
    (run hastyClient 10 unrulyHost).report.fileSize = 3 ∧
    (run hastyClient 10 unrulyHost).host.files.content? (text "f") = some [1, 2, 3] := by
  have hopened : (opened? hastyClient unrulyHost).isSome = true := by decide +kernel
  have hasked : ((begun? hastyClient unrulyHost).get (by decide +kernel)).1 = true := by
    decide +kernel
  have hbegun : begun? hastyClient unrulyHost = some (true, unrulyStart) :=
    (Option.some_get _).symm.trans (congrArg some (Prod.ext hasked rfl))
  have hfinished : (watch 10 (fuel 10 unrulyHost) (true, unrulyStart)).1 = .finished true := by
    decide +kernel
  have hnothing : (watch 10 (fuel 10 unrulyHost) (true, unrulyStart)).2.host.arrivals = [] := by
    decide +kernel
  have hkept : (watch 10 (fuel 10 unrulyHost) (true, unrulyStart)).2.host.sent
      = (outcome (watch 10 (fuel 10 unrulyHost) (true, unrulyStart))).host.sent := by
    decide +kernel
  have hsome : (outcome (watch 10 (fuel 10 unrulyHost) (true, unrulyStart))).host.sent ≠ [] := by
    decide +kernel
  obtain ⟨hrun, hall⟩ := (run_in_order hopened).2 true unrulyStart hbegun
  obtain ⟨read, hinOrder, _, hdone⟩ := hall 10 (fuel 10 unrulyHost)
  obtain ⟨hsize, hcontent⟩ := hdone hfinished
  -- all that there was has been read
  have hread := hinOrder.arrivals_eq
  rw [hnothing, List.append_nil] at hread
  subst hread
  obtain ⟨a, b, sent, said, ha, hb, hsent, hholds, hspoken, -⟩ := hinOrder.sent
  rw [hkept] at hsent
  obtain rfl : sent = _ := hsent.symm
  obtain rfl : ⟨10, 0, 0, 2⟩ = a := Option.some.inj ((by decide +kernel : _ = some _).symm.trans ha)
  obtain rfl : ⟨10, 0, 0, 1⟩ = b :=
    Option.some.inj ((by decide +kernel : _ = some _).symm.trans (hb hsome))
  have hwritten : written hastyClient unrulyHost.arrivals = [1, 2, 3] := by decide +kernel
  rw [hwritten] at hsize hcontent
  rw [hrun 10]
  refine ⟨(by decide +kernel), ⟨said, hholds, ?_⟩, hsize, ?_⟩
  · rw [hspoken.acks_eq]
    decide +kernel
  · exact hcontent ⟨⟨[text "home", text "f"]⟩, by decide +kernel, by decide +kernel⟩

/-- A client whose output is the device that discards what is written to it. -/
def discardingClient : ClientOptions :=
  { hastyClient with outPath := text "/dev/null" }

/-- **Success without the content**: the run succeeds, and what it has written is nowhere
afterwards. -/
theorem success_without_content :
    (run discardingClient 10 unrulyHost).conclusion = .finished true ∧
    written discardingClient unrulyHost.arrivals = [1, 2, 3] ∧
    (run discardingClient 10 unrulyHost).host.arrivals = [] ∧
    (run discardingClient 10 unrulyHost).host.files.content? discardingClient.output = none := by
  decide +kernel

end ReliableTransfer.Client
