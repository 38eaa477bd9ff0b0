import ReliableTransfer.Proofs.Server.Pieces
import ReliableTransfer.Proofs.Server.Transfer

/-!
# The server's account of its file

While a file is sent, the server counts the bytes it has read of it.  What is counted and what has
yet to be read add up to the length of the file from the first turn to the last, and neither the
client nor what the network has brought so far is ever touched.

* `Server.books` — client, count and what the network still has.
* `Server.total?` — the length of the file by the server's account.
* `Server.Closes` — a part of the run behind the last piece: only the count of time goes on.
* `Server.Goes` — what a turn may do to all this.
* **`Server.goes_resumeTransfer`**, **`Server.goes_resumeTimer`**,
  **`Server.goes_resumeListener`** — every turn of a transfer under way does no more.
-/

namespace ReliableTransfer

/-- How many bytes of the file have not been read at a stage, if they have an end.  Of the pieces
that have not been given to the sender only the first has been read. -/
def Stage.ahead? : Stage → Option Nat
  | sendingData rest _ => (rest.drop 1).bytes?.map List.length
  | _ => some 0

@[simp] lemma Stage.ahead?_notify (stage : Stage) : stage.notify.ahead? = stage.ahead? := by
  cases stage <;> rfl

/-- What was counted grows by what is taken of a feed, and the sum stays. -/
lemma Feed.map_bytes?_drop (n count : Nat) (feed : Feed) :
    (feed.drop n).bytes?.map (count + (feed.take n).flatten.length + ·.length)
      = feed.bytes?.map (count + ·.length) := by
  cases feed with
  | pieces rest =>
      show some (count + (rest.take n).flatten.length + (rest.drop n).flatten.length)
        = some (count + rest.flatten.length)
      rw [Nat.add_assoc, ← List.length_append, ← List.flatten_append, List.take_append_drop]
  | endless piece => rfl

lemma Feed.isEmpty_drop (n : Nat) {feed : Feed} (h : feed.isEmpty = true) :
    (feed.drop n).isEmpty = true := by
  cases feed with
  | pieces rest =>
      obtain rfl := List.isEmpty_iff.1 h
      exact congrArg List.isEmpty List.drop_nil
  | endless piece => cases h

lemma Feed.bytes?_of_isEmpty {feed : Feed} (h : feed.isEmpty = true) : feed.bytes? = some [] := by
  cases feed with
  | pieces rest => rw [bytes?, List.isEmpty_iff.1 h]; rfl
  | endless piece => cases h

namespace Server

variable {s s' s'' : Server}

/-- The client, the bytes counted so far, and what the network still has. -/
def books (s : Server) : Ipv4.Address × Nat × List Arrival :=
  (s.client, s.report.fileSize, s.host.arrivals)

/-- The length of the file by the server's account. -/
def total? (s : Server) : Option Nat :=
  s.stage.ahead?.map (s.report.fileSize + ·)

/-! ## Behind the last piece -/

/-- Nothing of the file lies ahead any more, and the books are as they were. -/
structure Closes (s s' : Server) : Prop where
  books_eq : s'.books = s.books
  ahead_eq : s'.stage.ahead? = some 0

namespace Closes

lemma of_books (hc : Closes s' s'') (hbooks : s'.books = s.books) : Closes s s'' :=
  ⟨hc.books_eq.trans hbooks, hc.ahead_eq⟩

lemma total?_eq (hc : Closes s s') : s'.total? = some s.report.fileSize := by
  rw [total?, hc.ahead_eq, Option.map_some, Nat.add_zero]
  exact congrArg (some ·.2.1) hc.books_eq

end Closes

lemma arrivals_detach (e : Endpoint) (h : Host) : (e.detach h).2.arrivals = h.arrivals := by
  obtain ⟨h', hdetach, hrewired⟩ := e.detach_eq h
  rw [hdetach]
  exact hrewired.arrivals_eq

lemma closes_finish (s : Server) (ok : Bool) : Closes s (s.finish ok) := by
  refine ⟨?_, rfl⟩
  have hhost : (s.finish ok).host.arrivals = s.host.arrivals := by
    rw [finish]
    refine (arrivals_detach s.endpoint _).trans ?_
    cases s.options.reportPath with
    | none => rfl
    | some path =>
        show (s.report.save path _).2.arrivals = _
        rw [Report.save]
        split <;> rfl
  exact congrArg (s.client, s.report.fileSize, ·) hhost

lemma closes_conclude (s : Server) : Closes s s.conclude :=
  (closes_finish _ _).of_books rfl

lemma closes_stopListening (s : Server) : Closes s s.stopListening := by
  rw [stopListening]
  split_ifs
  · exact (closes_conclude _).of_books rfl
  · exact ⟨rfl, rfl⟩

lemma closes_endTransfer (s : Server) (completed : Bool) : Closes s (s.endTransfer completed) := by
  rw [endTransfer]
  split_ifs
  · exact (closes_stopListening _).of_books rfl
  · exact ⟨rfl, rfl⟩

lemma closes_tryComplete (s : Server) (deadline : Int) (waited : Bool) :
    Closes s (s.tryComplete deadline waited) := by
  rw [tryComplete]
  split_ifs
  · exact (closes_endTransfer _ _).of_books rfl
  · exact (closes_endTransfer _ _).of_books rfl
  · exact ⟨rfl, rfl⟩

/-! ## Sending -/

section Sending

variable {o : ServerOptions} (hl : s.Located o) (hopen : s.endpoint.Open s.host)
include hl hopen

lemma closes_sendEnd : Closes s s.sendEnd := by
  obtain ⟨host, hsend, hposted⟩ := sendNow_eq hl hopen [] Flags.fin
  rw [sendEnd]
  split_ifs
  · simp only [hsend]
    exact (closes_tryComplete _ _ _).of_books
      (congrArg (s.client, s.report.fileSize, ·) hposted.arrivals_eq)
  · exact ⟨rfl, rfl⟩

/-- **Pieces that are sent** leave the books as they are. -/
lemma sendPieces_books (pieces : List Bytes) :
    (pieces.foldl sendPiece s).Located o ∧
      (pieces.foldl sendPiece s).endpoint.Open (pieces.foldl sendPiece s).host ∧
      (pieces.foldl sendPiece s).books = s.books := by
  induction pieces generalizing s with
  | nil => exact ⟨hl, hopen, rfl⟩
  | cons piece rest ih =>
      obtain ⟨host, hsend, hposted⟩ := sendNow_eq hl hopen piece Flags.data
      have hpiece : s.sendPiece piece
          = { s with host, sender := (s.sender.send s.host.now piece Flags.data).1 } := hsend
      have hl' : (s.sendPiece piece).Located o := by
        rw [hpiece]
        exact ⟨hl.options_eq, hl.address_eq, hl.port_eq⟩
      have hopen' : (s.sendPiece piece).endpoint.Open (s.sendPiece piece).host := by
        rw [hpiece]
        exact hopen.of_eq rfl hposted.sockets_eq
      obtain ⟨hlocated, hopened, hbooks⟩ := ih hl' hopen'
      refine ⟨hlocated, hopened, hbooks.trans ?_⟩
      rw [hpiece]
      exact congrArg (s.client, s.report.fileSize, ·) hposted.arrivals_eq

omit hopen in
lemma Located.readPieces (pieces : List Bytes) : (s.readPieces pieces).Located o :=
  ⟨hl.options_eq, hl.address_eq, hl.port_eq⟩

/-- **Sending the rest of the file** leaves the sum as it is: what is read after a piece was sent
is counted, and what is not read still lies ahead. -/
lemma sendData_books (feed : Feed) :
    (s.sendData feed).client = s.client ∧ (s.sendData feed).host.arrivals = s.host.arrivals ∧
      (s.sendData feed).total? = (feed.drop 1).bytes?.map (s.report.fileSize + ·.length) := by
  rw [sendData]
  generalize s.sender.room s.options.settings = room
  obtain ⟨hlocated, hopened, hbooks⟩ := sendPieces_books hl hopen (feed.take room)
  generalize (feed.take room).foldl sendPiece s = u at hlocated hopened hbooks ⊢
  obtain ⟨hclient, hcount, harrivals⟩ : u.client = s.client ∧
      u.report.fileSize = s.report.fileSize ∧ u.host.arrivals = s.host.arrivals := by
    simpa only [books, Prod.mk.injEq] using hbooks
  -- what comes after the pieces that were sent is what comes after the pieces that were read
  have hdrop : (feed.drop room).drop 1 = (feed.drop 1).drop room := by
    rw [← Feed.drop_add, ← Feed.drop_add, Nat.add_comm]
  have hsum : ((feed.drop 1).drop room).bytes?.map
        (u.report.fileSize + ((feed.drop 1).take room).flatten.length + ·.length)
      = (feed.drop 1).bytes?.map (s.report.fileSize + ·.length) := by
    rw [hcount]
    exact (feed.drop 1).map_bytes?_drop room s.report.fileSize
  -- once nothing lies ahead, the end of the file follows, and the count stays
  have hend : ∀ t : Server, t.books = (u.readPieces ((feed.drop 1).take room)).books →
      Closes t t.sendEnd → (feed.drop room).isEmpty = true →
      t.sendEnd.client = s.client ∧ t.sendEnd.host.arrivals = s.host.arrivals ∧
        t.sendEnd.total? = (feed.drop 1).bytes?.map (s.report.fileSize + ·.length) := by
    intro t ht hcloses hempty
    have hall := hcloses.books_eq.trans ht
    refine ⟨(congrArg (·.1) hall).trans hclient, (congrArg (·.2.2) hall).trans harrivals, ?_⟩
    rw [hcloses.total?_eq, ← hsum, ← hdrop, Feed.bytes?_of_isEmpty (Feed.isEmpty_drop 1 hempty)]
    exact congrArg (some ·.2.1) ht
  split_ifs with hempty
  · split
    · exact hend _ rfl (closes_sendEnd ⟨hlocated.options_eq, hlocated.address_eq, hlocated.port_eq⟩
        hopened) hempty
    · exact hend _ rfl (closes_sendEnd (hlocated.readPieces _) hopened) hempty
  · refine ⟨hclient, harrivals, ?_⟩
    rw [← hsum, ← hdrop, total?, Stage.ahead?, Option.map_map]
    rfl

end Sending

/-! ## Turns -/

/-- **What a turn may do**: the client and the length of the file stay, and the network may have
been read from. -/
structure Goes (s s' : Server) : Prop where
  client_eq : s'.client = s.client
  total_eq : s'.total? = s.total?
  arrivals_eq : ∃ read, s.host.arrivals = read ++ s'.host.arrivals

namespace Goes

/-- Behind the last piece the length of the file is what was counted. -/
lemma of_closes (hc : Closes s s') (hahead : s.stage.ahead? = some 0) : Goes s s' := by
  refine ⟨congrArg (·.1) hc.books_eq, ?_, [], (congrArg (·.2.2) hc.books_eq).symm⟩
  rw [hc.total?_eq, total?, hahead, Option.map_some, Nat.add_zero]

/-- What touches neither books nor stage goes anywhere. -/
lemma of_eq (hbooks : s'.books = s.books) (hstage : s'.stage.ahead? = s.stage.ahead?) :
    Goes s s' := by
  refine ⟨congrArg (·.1) hbooks, ?_, [], (congrArg (·.2.2) hbooks).symm⟩
  rw [total?, total?, hstage]
  exact congrArg (fun b => s.stage.ahead?.map (b.2.1 + ·)) hbooks

lemma trans (first : Goes s s') (second : Goes s' s'') : Goes s s'' := by
  obtain ⟨read, hread⟩ := first.arrivals_eq
  obtain ⟨read', hread'⟩ := second.arrivals_eq
  exact ⟨second.client_eq.trans first.client_eq, second.total_eq.trans first.total_eq,
    read ++ read', by rw [hread, hread', List.append_assoc]⟩

end Goes

variable {o : ServerOptions} {files : Files} {before : List Sending} {source : Source}
  {h : History}

lemma goes_resumeTransfer (hu : s.Underway o files before source h) : Goes s s.resumeTransfer := by
  rw [resumeTransfer]
  have hgiven := hu.given
  cases hs : s.stage with
  | starting =>
      rw [hs] at hgiven
      exact hgiven.elim
  | awaitingRequest deadline =>
      rw [hs] at hgiven
      exact hgiven.elim
  | sendingData rest notified =>
      obtain ⟨hclient, harrivals, htotal⟩ :=
        sendData_books hu.toLocated (hu.opened (by rw [hs]; rfl)) rest
      refine ⟨hclient, htotal.trans ?_, [], harrivals.symm⟩
      rw [total?, hs, Stage.ahead?, Option.map_map]
      rfl
  | sendingEnd notified =>
      exact .of_closes (closes_sendEnd hu.toLocated (hu.opened (by rw [hs]; rfl))) (by rw [hs]; rfl)
  | awaitingAcks deadline notified =>
      exact .of_closes (closes_tryComplete s deadline true) (by rw [hs]; rfl)
  | joiningTimer => exact .of_closes (closes_stopListening s) (by rw [hs]; rfl)
  | joiningListener => exact .of_closes (closes_conclude s) (by rw [hs]; rfl)
  | _ => exact .of_eq rfl rfl

lemma goes_resumeTimer (hu : s.Underway o files before source h) : Goes s s.resumeTimer := by
  rcases resumeTimer_eq hu.toLocated hu.opened_of_timer with
    ⟨timer, hresume, _⟩ | ⟨_, _, timer, host, hresume, hposted⟩
  · rw [hresume]
    exact .of_eq rfl rfl
  · rw [hresume]
    exact .of_eq (congrArg (s.client, s.report.fileSize, ·) hposted.arrivals_eq) rfl

lemma goes_heed (received : Option Received) (s : Server) : Goes s (s.heed received) := by
  cases received with
  | none => exact .of_eq rfl rfl
  | some r =>
      rw [heed]
      split_ifs
      · obtain ⟨notices, hnotices⟩ :=
          s.host.noteIf_eq s.options.verbose (.acknowledged r.packet.ack)
        refine .of_eq ?_ (Stage.ahead?_notify s.stage)
        simp only [heedAck, noteVerbose, hnotices, books]
      · exact .of_eq rfl rfl

/-- Only the listener reads while a transfer is under way. -/
lemma goes_resumeListener (s : Server) : Goes s s.resumeListener := by
  rw [resumeListener]
  cases s.listener with
  | starting => exact .of_eq rfl rfl
  | ended => exact .of_eq rfl rfl
  | reading deadline =>
      obtain ⟨received, corrupted, arrivals, notices, hreceive, hcases⟩ :=
        s.endpoint.receive_eq s.host
      simp only [receive, hreceive]
      have hread : Goes s { s with
          endpoint := { s.endpoint with corrupted }
          host := { s.host with arrivals, notices } } := by
        refine ⟨rfl, rfl, ?_⟩
        rcases hcases with ⟨rfl, _⟩ | ⟨a, harrivals, _⟩
        · exact ⟨[], rfl⟩
        · exact ⟨[a], harrivals⟩
      exact (hread.trans (goes_heed received _)).trans (.of_eq rfl rfl)

end Server

end ReliableTransfer
