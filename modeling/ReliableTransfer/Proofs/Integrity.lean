import ReliableTransfer.Proofs.Client.Output
import ReliableTransfer.Proofs.Server.Stream
import ReliableTransfer.Proofs.Window.Calls
import ReliableTransfer.Proofs.Window.Delivery

/-!
# A file on its way from a server to a client

A run of the server and a run of the client know of each other only through datagrams.  If what the
client takes for packets of the server was sent by that server, it may arrive in any order and any
number of times, or not at all, and between any other traffic.

* `Server.frames`, `Server.Serves` — what a run of the server has sent, and which file it serves.
* **`Server.exists_packet_of_mem_frames`** — every frame is one of a packet of that file.
* `Client.consumed`, `Client.Genuine` — what a run of the client has read, and that the packets of
  the server among it were sent by the server.
* **`end_to_end_integrity`** — the client's output is a front part of the server's file, and all of
  it if the client says so.
-/

namespace ReliableTransfer

/-! ## What the server sends -/

namespace Server

variable {o : ServerOptions} {limit : Int} {host : Host} {content : Bytes}

/-- The frames a run of the server has handed to the network. -/
def frames (o : ServerOptions) (limit : Int) (host : Host) : List Bytes :=
  ((run o limit host).host.sent.drop host.sent.length).map Sending.frame

/-- A run serves a regular file with this content. -/
def Serves (o : ServerOptions) (limit : Int) (host : Host) (content : Bytes) : Prop :=
  ∃ path, resolveRequest? o.directory (run o limit host).report.fileName = some path ∧
    host.files.content? path = some content

/-- A regular file is read as its content. -/
lemma source?_of_content? {files : Files} {path : Bytes} (h : files.content? path = some content) :
    files.source? path = some (.content content) := by
  rw [Files.content?] at h
  rw [Files.source?]
  obtain ⟨place, hplace, h⟩ := Option.bind_eq_some_iff.1 h
  obtain ⟨node, hnode, h⟩ := Option.bind_eq_some_iff.1 h
  rw [hplace, Option.bind_eq_bind, Option.bind_some, hnode]
  cases node with
  | file bytes | bounded room bytes => rw [← Option.some.inj h]; rfl
  | damaged | directory | discard | full => cases h

/-- **What a run sends** are frames of the packets of the file it serves. -/
lemma exists_packet_of_mem_frames (hserves : Serves o limit host content) {frame : Bytes}
    (hframe : frame ∈ frames o limit host) :
    ∃ p ∈ numbered (script (chunks o.settings.maxPayload content)), ∃ client address,
      pack o.address o.settings.serverPort client o.settings.clientPort p
        = .ok (address, frame) := by
  obtain ⟨path, hpath, hcontent⟩ := hserves
  rw [frames] at hframe
  rcases stream o limit host with
    hnothing | ⟨path', source, h, client, sent, hpath', hsource, hreachable, hgiven, hsent, hmap⟩
  · rw [hnothing, List.drop_length] at hframe
    exact absurd hframe List.not_mem_nil
  · obtain rfl : path = path' := Option.some.inj (hpath.symm.trans hpath')
    obtain rfl : .content content = source :=
      Option.some.inj ((source?_of_content? hcontent).symm.trans hsource)
    obtain ⟨more, hscript⟩ := prefix_script hgiven
    rw [hsent, List.drop_left] at hframe
    obtain ⟨x, hx, rfl⟩ := List.mem_map.1 hframe
    have hposting : x.posting ∈ h.log.calls.filterMap (post? o client) := by
      rw [← hmap]
      exact List.mem_map_of_mem hx
    obtain ⟨call, hcall, hpost⟩ := List.mem_filterMap.1 hposting
    obtain ⟨address, datagram, hpack, heq⟩ := exists_pack_of_posting? hpost
    refine ⟨call.2, ?_, client.dotted, address, ?_⟩
    · rw [← hscript]
      exact numbered_subset_append _ _ (hreachable.drawn.packet_mem call hcall)
    · rw [hpack, show x.frame = datagram from congrArg (·.2.2.2) heq]

end Server

/-! ## What the client reads -/

namespace Client

variable {o : ClientOptions}

/-- The arrivals a run of the client has read. -/
def consumed (o : ClientOptions) (limit : Int) (h : Host) : List Arrival :=
  h.arrivals.take (h.arrivals.length - (run o limit h).host.arrivals.length)

/-- **No packet is forged**: what was read and holds an intact packet for the client from the
server's address and port is byte for byte one of these frames. -/
def Genuine (o : ClientOptions) (frames : List Bytes) (read : List Arrival) : Prop :=
  ∀ a ∈ read, ∀ r, a.reading o.settings.clientPort = some r → fromServer o r = true →
    ∃ frame ∈ frames, a.got = .ok frame

/-- Where no packet is forged, the packets of the server are those that were framed. -/
lemma packets_subset {frames : List Bytes} {read : List Arrival} {sent : List Packet}
    (hgenuine : Genuine o frames read)
    (hframes : ∀ frame ∈ frames, ∃ p ∈ sent, ∃ src srcPort dst dstPort address,
      pack src srcPort dst dstPort p = .ok (address, frame)) :
    packets o read ⊆ sent := by
  intro p hp
  obtain ⟨a, ha, hpacket⟩ := List.mem_filterMap.1 hp
  obtain ⟨r, hr, rfl⟩ := Option.map_eq_some_iff.1 hpacket
  obtain ⟨hreading, hserver⟩ := Option.filter_eq_some_iff.1 hr
  obtain ⟨frame, hframe, hgot⟩ := hgenuine a ha r hreading hserver
  obtain ⟨q, hq, src, srcPort, dst, dstPort, address, hpack⟩ := hframes frame hframe
  rw [Arrival.reading_of_got hgot] at hreading
  rw [(Endpoint.packet_of_reading hpack hreading).1]
  exact hq

end Client

/-! ## The file -/

/-- **A file arrives as it was.**  A client that could open its endpoint, and that writes to an
ordinary file, leaves there a front part of the file that the server serves, and the whole of it if
its run is a success.  The two runs need have nothing else in common, neither clock nor settings. -/
theorem end_to_end_integrity {so : ServerOptions} {co : ClientOptions} {slimit climit : Int}
    {server client : Host} {content : Bytes} (hserves : Server.Serves so slimit server content)
    (hsize : 1 ≤ so.settings.maxPayload)
    (hchunks : (chunks so.settings.maxPayload content).length < 4294967296)
    (hordinary : client.files.Ordinary co.output)
    (hstarted : (Client.run co climit client).conclusion ≠ .notStarted)
    (hgenuine : Client.Genuine co (Server.frames so slimit server)
      (Client.consumed co climit client)) :
    ∃ output, (Client.run co climit client).host.files.content? co.output = some output ∧
      output <+: content ∧
      ((Client.run co climit client).conclusion = .finished true → output = content) := by
  obtain ⟨read, output, hleaves⟩ := Client.leaves_run co climit client hordinary hstarted
  -- what was read is what no longer lies ahead
  have hread : Client.consumed co climit client = read := by
    rw [Client.consumed, hleaves.arrivals_eq, List.length_append, Nat.add_sub_cancel,
      List.take_left]
  rw [hread] at hgenuine
  -- and all of it that the receiver got are packets of the file
  have hpackets : Client.packets co read ⊆
      numbered (script (chunks so.settings.maxPayload content)) := by
    refine Client.packets_subset hgenuine fun frame hframe => ?_
    obtain ⟨p, hp, dst, address, hpack⟩ := Server.exists_packet_of_mem_frames hserves hframe
    exact ⟨p, hp, _, _, dst, _, address, hpack⟩
  have hfollows := (Receiver.Follows.start _).acceptAll hchunks hpackets
  have hpieces : (chunks so.settings.maxPayload content).flatten = content :=
    flatten_chunks (Nat.ne_of_gt hsize) content
  refine ⟨output, hleaves.content_eq, ?_, ?_⟩
  · refine hleaves.content_prefix.trans ?_
    rw [← hpieces]
    exact hfollows.output_prefix
  · intro hsuccess
    obtain ⟨hwritten, hfinished⟩ := hleaves.complete hsuccess
    rw [hwritten, ← hpieces]
    exact hfollows.output_of_finished hfinished

/-- A server of the files in its working directory, with pieces of two bytes. -/
def sampleServer : ServerOptions where
  address := text "10.0.0.1"
  directory := []
  settings := { maxPayload := 2 }

/-- A client of that server, which leaves as soon as it has the file. -/
def sampleClient : ClientOptions where
  clientAddress := text "10.0.0.2"
  serverAddress := text "10.0.0.1"
  fileName := text "f"
  linger := 0

/-- The machine of the server: a file, its request, and the acknowledgement of its last packet. -/
def servingHost : Host where
  files := Files.empty.addFile (text "f") [1, 2, 3]
  arrivals := [(0, Client.requestPacket (text "f")), (1, Client.ackPacket 2)].filterMap fun call =>
    (Client.post? sampleClient call).map fun x => ⟨call.1, .datagram x.2.2.2⟩

/-- The machine of the client: the frames of the server arrive back to front, then something else,
and then they arrive once more. -/
def receivingHost : Host where
  arrivals := ((Server.frames sampleServer 500 servingHost).reverse ++
    [0, 0] :: Server.frames sampleServer 500 servingHost).map fun frame => ⟨0, .datagram frame⟩

/-- Though the packets arrived back to front first, the client has the file. -/
theorem end_to_end_integrity_reordered :
    (Client.run sampleClient 10 receivingHost).conclusion = .finished true ∧
    (Client.run sampleClient 10 receivingHost).host.files.content? (text "f")
      = some [1, 2, 3] := by
  have hserves : Server.Serves sampleServer 500 servingHost [1, 2, 3] :=
    ⟨text "f", by decide +kernel, by decide +kernel⟩
  have hsuccess : (Client.run sampleClient 10 receivingHost).conclusion = .finished true := by
    decide +kernel
  have harrivals : ∀ a ∈ receivingHost.arrivals,
      a.got ∈ (Server.frames sampleServer 500 servingHost).map Except.ok ∨
        (a.reading sampleClient.settings.clientPort).isNone = true := by
    decide +kernel
  have hgenuine : Client.Genuine sampleClient (Server.frames sampleServer 500 servingHost)
      (Client.consumed sampleClient 10 receivingHost) := by
    intro a ha r hreading _
    rcases harrivals a (List.mem_of_mem_take ha) with hframe | hnone
    · obtain ⟨frame, hframe, hgot⟩ := List.mem_map.1 hframe
      exact ⟨frame, hframe, hgot.symm⟩
    · rw [hreading] at hnone
      cases hnone
  obtain ⟨output, hcontent, _, hall⟩ := end_to_end_integrity hserves (by decide) (by decide +kernel)
    ⟨⟨[text "home", text "f"]⟩, by decide +kernel, by decide +kernel⟩
    (by rw [hsuccess]; nofun) hgenuine
  rw [hall hsuccess] at hcontent
  exact ⟨hsuccess, hcontent⟩

end ReliableTransfer
