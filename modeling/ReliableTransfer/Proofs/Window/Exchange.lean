import ReliableTransfer.Proofs.Window.Calls
import ReliableTransfer.Proofs.Window.Delivery
import ReliableTransfer.Proofs.Window.Invariant

/-!
# A sender, a receiver and a network between them

The network may lose what it is given, deliver it late, in another order, and more than once; all
it may not do is to make up packets or acknowledgements.  So a packet that was handed to the link
may reach the receiver at any later time, and an acknowledgement the receiver has given may reach
the sender at any later time.

* `Exchange` — both sides, with what has been on its way between them.
* `Exchange.Step`, `Exchange.Reachable` — what can happen next, and the states that can come of it.
* `Exchange.Joint` — the invariant that ties the two sides together.
* **`Exchange.go_back_n_safe`** — the receiver never runs ahead of the sender nor falls behind its
  base, and what it has written is a front part of the file.
-/

namespace ReliableTransfer

/-- A sender with its history and a receiver, with what the receiver has written and the
acknowledgements it has given. -/
structure Exchange where
  history : History
  receiver : Receiver := {}
  output : Bytes := []
  acks : List UInt32 := []

namespace Exchange

/-- A packet reaches the receiver. -/
def deliver (p : Packet) (x : Exchange) : Exchange :=
  let (receiver, receipt) := x.receiver.accept p
  { x with receiver, output := x.output ++ receipt.output, acks := x.acks ++ receipt.ack.toList }

/-- **What can happen next** while a file with these pieces is sent: the next item is given to the
sender, the timer scans, a packet reaches the receiver or an acknowledgement the sender, or the
sender is stopped. -/
inductive Step (settings : Settings) (pieces : List Bytes) : Exchange → Exchange → Prop
  | send {x : Exchange} (takes : Log → Bool) (time : Int) (payload : Bytes) (flags : Flags)
      (next : (script pieces)[x.history.log.items.length]? = some (payload, flags))
      (running : x.history.sender.running = true)
      (room : x.history.sender.hasRoom settings = true)
      (fits : Sender.refusal? settings payload = none) :
      Step settings pieces x { x with history := x.history.send takes time payload flags }
  | scan {x : Exchange} (takes : Log → Bool) (time : Int)
      (running : x.history.sender.running = true) :
      Step settings pieces x { x with history := x.history.scan settings takes time }
  | deliver {x : Exchange} (time : Int) (p : Packet) (sent : (time, p) ∈ x.history.log.calls) :
      Step settings pieces x (x.deliver p)
  | acknowledge {x : Exchange} (number : UInt32) (given : number ∈ x.acks) :
      Step settings pieces x { x with history := x.history.acknowledge number }
  | stop {x : Exchange} : Step settings pieces x { x with history := x.history.stop }

/-- **The states there can be**, from a fresh sender and a fresh receiver on. -/
inductive Reachable (settings : Settings) (pieces : List Bytes) : Exchange → Prop
  | start {w : Sender} : Sender.create settings = .ok w →
      Reachable settings pieces { history := ⟨w, []⟩ }
  | step {x x' : Exchange} : Reachable settings pieces x → Step settings pieces x x' →
      Reachable settings pieces x'

variable {settings : Settings} {pieces : List Bytes} {x x' : Exchange}

/-- **The two sides together**: the sender has been given a front part of the file, the receiver
follows it and is between the sender's base and its next number, and all acknowledgements are of
numbers the receiver has delivered. -/
structure Joint (settings : Settings) (pieces : List Bytes) (x : Exchange) : Prop where
  reachable : x.history.Reachable settings
  items_eq : x.history.log.items = (script pieces).take x.history.log.items.length
  follows : x.receiver.Follows pieces x.output
  base_le : x.history.sender.base.toNat ≤ x.receiver.delivered
  delivered_le : x.receiver.delivered ≤ x.history.log.items.length
  acks_lt : ∀ number ∈ x.acks, number.toNat < x.receiver.delivered

namespace Joint

lemma start {w : Sender} (hw : Sender.create settings = .ok w) :
    Joint settings pieces { history := ⟨w, []⟩ } :=
  ⟨.start hw, rfl, .start pieces, (Sender.Carries.create hw).base_le, Nat.le_refl 0,
    fun _ h => absurd h List.not_mem_nil⟩

lemma length_items_le (hj : Joint settings pieces x) :
    x.history.log.items.length ≤ pieces.length + 1 := by
  rw [hj.items_eq, List.length_take, length_script]
  exact Nat.min_le_right _ _

/-- Whatever was sent is a packet of the file. -/
lemma mem_numbered (hj : Joint settings pieces x) {p : Packet}
    (hp : p ∈ numbered x.history.log.items) : p ∈ numbered (script pieces) := by
  rw [← List.take_append_drop x.history.log.items.length (script pieces), ← hj.items_eq]
  exact numbered_subset_append _ _ hp

lemma expected_eq (hj : Joint settings pieces x) (hlength : pieces.length + 1 < 4294967296) :
    x.receiver.expected.toNat = x.receiver.delivered := by
  have hle := hj.follows.delivered_le
  rw [hj.follows.expected_eq, toNat_ofNat_of_lt (by omega)]

lemma send (hj : Joint settings pieces x) {takes : Log → Bool} {time : Int} {payload : Bytes}
    {flags : Flags} (next : (script pieces)[x.history.log.items.length]? = some (payload, flags))
    (hs : History.Step settings x.history (x.history.send takes time payload flags)) :
    Joint settings pieces { x with history := x.history.send takes time payload flags } := by
  refine ⟨hj.reachable.step hs, ?_, hj.follows, hj.base_le, ?_, hj.acks_lt⟩
  · show (x.history.send takes time payload flags).log.items = _
    rw [History.items_send, List.length_append, List.length_singleton, List.take_add_one,
      ← hj.items_eq, next]
    rfl
  · show _ ≤ (x.history.send takes time payload flags).log.items.length
    rw [History.items_send, List.length_append]
    exact Nat.le_add_right_of_le hj.delivered_le

lemma deliver (hj : Joint settings pieces x) (hlength : pieces.length + 1 < 4294967296)
    {p : Packet} (hp : p ∈ numbered x.history.log.items) :
    Joint settings pieces (x.deliver p) := by
  have hexpected := hj.expected_eq hlength
  have hle := hj.length_items_le
  have hdelivered := x.receiver.delivered_accept p
  refine ⟨hj.reachable, hj.items_eq, hj.follows.accept (by omega) (hj.mem_numbered hp), ?_, ?_, ?_⟩
  · show x.history.sender.base.toNat ≤ (x.receiver.accept p).1.delivered
    have hbase := hj.base_le
    omega
  · -- only a packet that was sent is delivered
    show (x.receiver.accept p).1.delivered ≤ x.history.log.items.length
    rcases hdelivered with hsame | ⟨hseq, hone⟩
    · rw [hsame]
      exact hj.delivered_le
    · obtain ⟨_, _, hitem, _⟩ := exists_item_of_mem_numbered (by omega) hp
      have hlt := (List.getElem?_eq_some_iff.1 hitem).1
      rw [hseq, hexpected] at hlt
      rw [hone]
      exact hlt
  · intro number hnumber
    show _ < (x.receiver.accept p).1.delivered
    rcases List.mem_append.1 hnumber with hnumber | hnumber
    · have hlt := hj.acks_lt number hnumber
      omega
    · rw [Option.mem_toList] at hnumber
      have hack := Receiver.toNat_ack_accept hexpected hnumber
      omega

/-- A turn of the sender that takes nothing from the file. -/
lemma turn (hj : Joint settings pieces x) {h' : History}
    (hs : History.Step settings x.history h') (hitems : h'.log.items = x.history.log.items)
    (hbase : h'.sender.base.toNat ≤ x.receiver.delivered) :
    Joint settings pieces { x with history := h' } := by
  refine ⟨hj.reachable.step hs, ?_, hj.follows, hbase, ?_, hj.acks_lt⟩
  · show h'.log.items = (script pieces).take h'.log.items.length
    rw [hitems]
    exact hj.items_eq
  · show x.receiver.delivered ≤ h'.log.items.length
    rw [hitems]
    exact hj.delivered_le

lemma acknowledge (hj : Joint settings pieces x) (hlength : pieces.length + 1 < 4294967296)
    {number : UInt32} (hnumber : number ∈ x.acks) :
    Joint settings pieces { x with history := x.history.acknowledge number } := by
  have hle := hj.length_items_le
  have hi := hj.reachable.inWindow (by omega)
  refine hj.turn (.acknowledge number) (History.items_acknowledge number x.history) ?_
  have hbase := hi.carries.toNat_base_acknowledge number
  have hack := hj.acks_lt number hnumber
  have hbase_le := hj.base_le
  show (x.history.sender.acknowledge number).base.toNat ≤ x.receiver.delivered
  omega

lemma step (hj : Joint settings pieces x) (hlength : pieces.length + 1 < 4294967296)
    (hs : Step settings pieces x x') : Joint settings pieces x' := by
  cases hs with
  | send takes time payload flags next running room fits =>
      exact hj.send next (.send takes time payload flags running room fits)
  | scan takes time running =>
      exact hj.turn (.scan takes time running)
        (History.items_scan settings takes time x.history) hj.base_le
  | deliver time p sent =>
      exact hj.deliver hlength (hj.reachable.drawn.packet_mem _ sent)
  | acknowledge number given => exact hj.acknowledge hlength given
  | stop => exact hj.turn .stop (History.items_stop x.history) hj.base_le

end Joint

lemma Reachable.joint (hr : Reachable settings pieces x)
    (hlength : pieces.length + 1 < 4294967296) : Joint settings pieces x := by
  induction hr with
  | start hw => exact .start hw
  | step _ hs ih => exact ih.step hlength hs

/-! ## Safety -/

/-- What has been given of a file is a front part of it. -/
lemma flatten_payloads (pieces : List Bytes) (n : Nat) :
    (((script pieces).take n).map Prod.fst).flatten = (pieces.take n).flatten := by
  have hpayloads : (script pieces).map Prod.fst = pieces ++ [[]] := by
    simp [script, Function.comp_def]
  rw [List.map_take, hpayloads]
  rcases Nat.lt_or_ge pieces.length n with hlt | hle
  · rw [List.take_of_length_le (by rw [List.length_append, List.length_singleton]; exact hlt),
      List.take_of_length_le (Nat.le_of_lt hlt)]
    simp
  · rw [List.take_append_of_le_length hle]

/-- **Safety.**  At any point of any exchange of a file: what the receiver has written is the
payloads of the packets numbered below the one it expects, which is a front part of what was given
to the sender and so of the file; the number it expects lies between the sender's base and next
number; and once the whole file was given and nothing is in flight, the receiver is finished and
has written exactly the file. -/
theorem go_back_n_safe (hr : Reachable settings pieces x)
    (hlength : pieces.length + 1 < 4294967296) :
    x.output
      = ((x.history.log.items.take x.receiver.expected.toNat).map Prod.fst).flatten ∧
    x.output <+: (x.history.log.items.map Prod.fst).flatten ∧
    x.output <+: pieces.flatten ∧
    x.history.sender.base ≤ x.receiver.expected ∧
    x.receiver.expected ≤ x.history.sender.next ∧
    (x.history.log.items = script pieces → x.history.sender.allAcked = true →
      x.receiver.finished = true ∧ x.output = pieces.flatten) := by
  have hj := hr.joint hlength
  have hle := hj.length_items_le
  have hcarries := (hj.reachable.inWindow (by omega)).carries
  have hnext := hcarries.next_eq
  have hexpected := hj.expected_eq hlength
  have hdelivered := hj.delivered_le
  have hbase := hj.base_le
  have houtput : x.output
      = ((x.history.log.items.take x.receiver.delivered).map Prod.fst).flatten := by
    rw [hj.items_eq, List.take_take, Nat.min_eq_left hdelivered, flatten_payloads]
    exact hj.follows.output_eq
  refine ⟨hexpected ▸ houtput, ?_, hj.follows.output_prefix, ?_, ?_, ?_⟩
  · rw [houtput, List.map_take]
    exact flatten_take_prefix _ _
  · rw [UInt32.le_iff_toNat_le, hexpected]
    exact hbase
  · rw [UInt32.le_iff_toNat_le, hexpected, hnext]
    exact hdelivered
  · intro hall hacked
    -- nothing in flight means that base and next number, and so the receiver between them, agree
    have hbase_eq := congrArg UInt32.toNat (hcarries.allAcked_iff.1 hacked)
    have hlength_items := congrArg List.length hall
    rw [length_script] at hlength_items
    have hfinished : x.receiver.finished = true := hj.follows.finished_iff.2 (by omega)
    exact ⟨hfinished, hj.follows.output_of_finished hfinished⟩

/-- A file of one piece, whose packet is lost, sent again and delivered twice, once before and once
after the end of the file. -/
def lossy : Exchange :=
  let x : Exchange := { history := ⟨{}, []⟩ }
  let x := { x with history := x.history.send (fun _ => false) 0 [7, 8] Flags.data }
  let x := { x with history := x.history.send (fun _ => true) 1 [] Flags.fin }
  let x := (x.deliver ⟨1, 0, Flags.fin, []⟩)
  let x := { x with history := x.history.scan {} (fun _ => true) 501 }
  let x := (x.deliver ⟨0, 0, Flags.data, [7, 8]⟩)
  let x := (x.deliver ⟨1, 0, Flags.fin, []⟩)
  let x := (x.deliver ⟨0, 0, Flags.data, [7, 8]⟩)
  { x with history := x.history.acknowledge 1 }

/-- The file arrives once and whole, and the receiver is within the window. -/
theorem go_back_n_safe_lossy :
    Reachable {} [[7, 8]] lossy ∧ [[7, 8]].length + 1 < 4294967296 ∧
    lossy.history.log.items = script [[7, 8]] ∧ lossy.history.sender.allAcked = true ∧
    lossy.receiver.finished = true ∧ lossy.output = [7, 8] ∧
    lossy.history.sender.base ≤ lossy.receiver.expected ∧
    lossy.receiver.expected ≤ lossy.history.sender.next := by
  have hr : Reachable {} [[7, 8]] lossy :=
    ((((((((Reachable.start rfl).step (.send _ 0 [7, 8] Flags.data rfl rfl (by decide) rfl)).step
      (.send _ 1 [] Flags.fin rfl rfl (by decide) rfl)).step (.deliver 1 _ (by decide))).step
        (.scan _ 501 rfl)).step (.deliver 501 _ (by decide))).step
          (.deliver 1 _ (by decide))).step (.deliver 501 _ (by decide))).step
            (.acknowledge 1 (by decide))
  have hlength : [[7, 8]].length + 1 < 4294967296 := by decide
  have hitems : lossy.history.log.items = script [[7, 8]] := by decide
  have hacked : lossy.history.sender.allAcked = true := by decide
  obtain ⟨_, _, _, hbase, hnext, hdone⟩ := go_back_n_safe hr hlength
  obtain ⟨hfinished, houtput⟩ := hdone hitems hacked
  exact ⟨hr, hlength, hitems, hacked, hfinished, houtput, hbase, hnext⟩

end Exchange

end ReliableTransfer
