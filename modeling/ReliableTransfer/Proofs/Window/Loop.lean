import ReliableTransfer.Proofs.Window.Delivery
import ReliableTransfer.Proofs.Window.Pace
import ReliableTransfer.Proofs.Window.Wakeups

/-!
# A sender and a receiver in a closed loop

An application sends a file, one call after the other.  A link loses the first transmissions of
every packet, as many of each, and hands all later ones to the receiver in the order in which they
were sent; every acknowledgement the receiver gives is handed to the sender, one call after the
other.  The tasks of the session, the application and the link take their turns in any order, and
the clock jumps only when none of them can do anything.

* `Loop` — a session with a receiver, and the calls the application and the link have made.
* **`Loop.Step`** — what can happen next.
* `Session.Tracks` — where some of the calls of a session stand.
* `Loop.Quiet` — only the passing of time can bring anything about.
* **`Loop.InStep`** — sender, receiver, application and link are in step.
-/

namespace ReliableTransfer

namespace Session

/-- What a call was answered, if it has returned. -/
def answerOf? (s : Session) (i : Nat) : Option Answer :=
  s.calls[i]?.bind (·.state.answer?)

/-- The packets the link was handed so far. -/
def packets (s : Session) : List Packet :=
  s.handed.map Prod.snd

/-- A turn hands the packets of its actions to the link. -/
lemma Turned.packets_eq {s s' : Session} {i : Nat} {c : Call} {state : CallState}
    {sender : Sender} {timer : Timer} {actions : List Action}
    (ht : Turned s i c state sender timer actions s') :
    s'.packets = s.packets ++ actions.filterMap Action.packet? := by
  rw [packets, ht.handed_eq, List.map_append, List.map_map]
  exact congrArg _ (List.map_id _)

lemma Ticked.packets_eq {s s' : Session} {sender : Sender} {timer : Timer}
    {actions : List Action} (ht : Ticked s timer sender actions s') :
    s'.packets = s.packets ++ actions.filterMap Action.packet? := by
  rw [packets, ht.handed_eq, List.map_append, List.map_map]
  exact congrArg _ (List.map_id _)

/-- A new call. -/
def call (s : Session) (op : Operation) : Session :=
  { s with calls := s.calls ++ [⟨s.calls.length, .starting op⟩] }

lemma lt_length_call {s : Session} {op : Operation} {i : Nat} (hi : i < (s.call op).calls.length) :
    i < s.calls.length ∨ i = s.calls.length := by
  rw [call, List.length_append, List.length_singleton] at hi
  omega

/-- The calls with these numbers stand as they should, each by its place among them. -/
def Tracks (s : Session) (calls : List Nat) (P : Nat → CallState → Prop) : Prop :=
  ∀ k i, calls[k]? = some i → ∃ c, s.calls[i]? = some c ∧ P k c.state

namespace Tracks

variable {s s' : Session} {calls : List Nat} {P Q : Nat → CallState → Prop} {i : Nat} {c : Call}
  {state : CallState} {sender : Sender} {timer : Timer} {actions : List Action}

lemma of_calls_eq (h : s.Tracks calls P) (hcalls : s'.calls = s.calls) : s'.Tracks calls P := by
  intro k i hk
  rw [hcalls]
  exact h k i hk

/-- A turn of a call concerns that call, and at most wakes others. -/
lemma turned (h : s.Tracks calls P) (ht : Turned s i c state sender timer actions s')
    (hnotify : ∀ k state, Q k state → Q k state.notify)
    (hthis : ∀ k, calls[k]? = some i → Q k state)
    (hothers : ∀ k j state, calls[k]? = some j → j ≠ i → P k state → Q k state) :
    s'.Tracks calls Q := by
  intro k j hk
  obtain ⟨c₀, hc₀, hstands⟩ := h k j hk
  obtain ⟨c', hc', _, ⟨rfl, hstate⟩ | ⟨hj, hstate⟩⟩ := ht.exists_getElem? hc₀
  · exact ⟨c', hc', hstate ▸ hthis k hk⟩
  · have hstands' := hothers k j _ hk hj hstands
    refine ⟨c', hc', ?_⟩
    rcases hstate with hstate | hstate
    · exact hstate ▸ hstands'
    · exact hstate ▸ hnotify k _ hstands'

/-- A new call changes nothing about the others. -/
lemma call (h : s.Tracks calls P) (op : Operation) : (s.call op).Tracks calls P := by
  intro k i hk
  obtain ⟨c, hc, hstands⟩ := h k i hk
  exact ⟨c, List.getElem?_append_left (List.getElem?_eq_some_iff.1 hc).1 ▸ hc, hstands⟩

/-- A new call is one more that stands as it should. -/
lemma push (h : s.Tracks calls P) {op : Operation} (hstart : P calls.length (.starting op)) :
    (s.call op).Tracks (calls ++ [s.calls.length]) P := by
  intro k i hk
  rcases Nat.lt_trichotomy k calls.length with hlt | rfl | hgt
  · rw [List.getElem?_append_left hlt] at hk
    exact h.call op k i hk
  · rw [List.getElem?_concat_length] at hk
    obtain rfl := Option.some.inj hk
    exact ⟨_, List.getElem?_concat_length, hstart⟩
  · have hlt := (List.getElem?_eq_some_iff.1 hk).1
    rw [List.length_append, List.length_singleton] at hlt
    omega

end Tracks

end Session

/-- A session with a receiver at the other end of its link. -/
structure Loop where
  session : Session
  receiver : Receiver := {}
  /-- What the receiver has written. -/
  output : Bytes := []
  /-- The calls of the application, in the order in which it made them. -/
  sends : List Nat := []
  /-- The calls of the link that hand over acknowledgements. -/
  acks : List Nat := []
  /-- How much of what got through the receiver has been handed. -/
  seen : Nat := 0

namespace Loop

/-- A fresh sender and a fresh receiver. -/
def start (settings : Settings) (failing : List Nat) : Loop :=
  { session := { settings, failing } }

/-- The application calls for the next item to be sent. -/
def give (item : Item) (x : Loop) : Loop :=
  { x with
      session := x.session.call (.send item.1 item.2)
      sends := x.sends ++ [x.session.calls.length] }

/-- The link hands a packet to the receiver, and the acknowledgement to the sender. -/
def deliver (p : Packet) (x : Loop) : Loop :=
  let (receiver, receipt) := x.receiver.accept p
  let x := { x with receiver, output := x.output ++ receipt.output, seen := x.seen + 1 }
  match receipt.ack with
  | some number =>
    { x with
        session := x.session.call (.acknowledge number)
        acks := x.acks ++ [x.session.calls.length] }
  | none => x

/-- The application can go on with an item of the file: all its calls so far have returned. -/
def MayGive (pieces : List Bytes) (item : Item) (x : Loop) : Prop :=
  (script pieces)[x.sends.length]? = some item ∧
    ∀ i ∈ x.sends, (x.session.answerOf? i).isSome = true

/-- The link can go on with a packet that gets through: all its calls so far have returned. -/
def MayDeliver (lost : Nat) (p : Packet) (x : Loop) : Prop :=
  (survivors lost x.session.packets)[x.seen]? = some p ∧
    ∀ i ∈ x.acks, (x.session.answerOf? i).isSome = true

/-- **What can happen next**: a task of the session that can run takes its turn, the application or
the link goes on, or, if nothing of this is possible, the clock jumps to the next time for which a
task waits. -/
inductive Step (lost : Nat) (pieces : List Bytes) : Loop → Loop → Prop
  | turn {x : Loop} (i : Nat) {r : Readiness} (task : (Session.system.tasks x.session)[i]? = some r)
      (ready : r.isReadyAt x.session.now = true) :
      Step lost pieces x { x with session := Session.system.resume i x.session }
  | give {x : Loop} {item : Item} (may : x.MayGive pieces item) :
      Step lost pieces x (x.give item)
  | deliver {x : Loop} {p : Packet} (may : x.MayDeliver lost p) :
      Step lost pieces x (x.deliver p)
  | jump {x : Loop} {time : Int} (idle : Session.system.Idle x.session)
      (given : ∀ item, ¬ x.MayGive pieces item) (delivered : ∀ p, ¬ x.MayDeliver lost p)
      (due : Session.system.nextDue? x.session = some time) :
      Step lost pieces x { x with session := Session.system.advanceTo time x.session }

/-! ## In step -/

/-- What is asked of the settings, of the link and of the file. -/
structure Fair (settings : Settings) (lost : Nat) (pieces : List Bytes) : Prop where
  window_pos : 1 ≤ settings.window
  poll_pos : 1 ≤ settings.poll
  timeout_nonneg : 0 ≤ settings.timeout
  lost_le : (lost : Int) ≤ settings.maxRetries
  fits : ∀ piece ∈ pieces, piece.length ≤ settings.maxPayload
  length_lt : pieces.length + 1 < 4294967296

/-- Nothing of the file is too long to be sent. -/
lemma Fair.refusal?_eq_none {settings : Settings} {lost : Nat} {pieces : List Bytes}
    (hfair : Fair settings lost pieces) {item : Item} (hitem : item ∈ script pieces) :
    Sender.refusal? settings item.1 = none := by
  have hlength : item.1.length ≤ settings.maxPayload := by
    rcases List.mem_append.1 hitem with hitem | hitem
    · obtain ⟨piece, hpiece, rfl⟩ := List.mem_map.1 hitem
      exact hfair.fits piece hpiece
    · rw [List.mem_singleton.1 hitem]
      exact Nat.zero_le _
  rw [Sender.refusal?, if_neg (Nat.not_lt.2 hlength)]

/-- Where the application's call with an index stands, when so many packets were sent. -/
inductive Sends (settings : Settings) (pieces : List Bytes) (sent k : Nat) : CallState → Prop
  | done : k < sent → Sends settings pieces sent k (.returned (.sent (UInt32.ofNat k)))
  | pending {state : CallState} {payload : Bytes} {flags : Flags} : k = sent →
      (script pieces)[k]? = some (payload, flags) → state.Asks settings payload flags →
      Sends settings pieces sent k state

/-- Where the link's call with an index stands, when the sender's base is this. -/
inductive Acks (base k : Nat) : CallState → Prop
  | done : k < base → Acks base k (.returned .acknowledged)
  | pending : k = base → Acks base k (.starting (.acknowledge (UInt32.ofNat k)))

/-- **Only the passing of time can bring anything about**: the receiver has had all that got through
and the sender all acknowledgements, and the application waits for room or is done. -/
structure Quiet (pieces : List Bytes) (pace : Pace) (x : Loop) : Prop where
  passed_eq : pace.passed = x.session.sender.base.toNat
  waits : ∀ i, x.sends[x.session.sender.packetsSent]? = some i → ∃ c payload flags,
    x.session.calls[i]? = some c ∧ c.state = .sending payload flags false
  given : x.sends.length = x.session.sender.packetsSent →
    x.session.sender.packetsSent = pieces.length + 1

/-- **Sender, receiver, application and link are in step.**  Once time has passed since packets were
sent, or packets were sent again without getting through, all wait for the timer. -/
structure InStep (settings : Settings) (lost : Nat) (pieces : List Bytes) (pace : Pace)
    (x : Loop) : Prop where
  settings_eq : x.session.settings = settings
  awake : x.session.Awake
  paced : Paced lost ((script pieces).take x.session.sender.packetsSent) x.session.packets pace
    x.session.sender
  sent_le : x.session.sender.packetsSent ≤ pieces.length + 1
  time_le : pace.time ≤ x.session.now
  timer_eq : (x.session.timer = .starting ∧ pace.time = x.session.now) ∨
    ∃ wake, x.session.timer = .sleeping wake false
  in_time : x.session.timer.readiness.isReadyAt x.session.now = false →
    x.session.sender.base.toNat < x.session.sender.packetsSent →
    x.session.now - pace.time ≤ settings.timeout
  follows : x.receiver.Follows pieces x.output
  seen_eq : x.receiver.delivered = x.seen
  base_le : x.session.sender.base.toNat ≤ x.seen
  seen_le : x.seen ≤ pace.passed
  sends_length : x.session.sender.packetsSent ≤ x.sends.length
  acks_length : x.acks.length = x.seen
  sends : x.session.Tracks x.sends (Sends settings pieces x.session.sender.packetsSent)
  acks : x.session.Tracks x.acks (Acks x.session.sender.base.toNat)
  owned : ∀ i < x.session.calls.length, i ∈ x.sends ∨ i ∈ x.acks
  settled : pace.time < x.session.now ∨ 0 < pace.rounds → x.Quiet pieces pace

variable {settings : Settings} {lost : Nat} {pieces : List Bytes} {pace : Pace} {x : Loop}
  {i : Nat} {c : Call} {state : CallState}

/-! ## The calls -/

/-- Being woken changes nothing about what a call is for. -/
lemma Sends.notify {sent k : Nat} (h : Sends settings pieces sent k state) :
    Sends settings pieces sent k state.notify := by
  cases h with
  | done hk => exact .done hk
  | pending hk hitem hasks =>
      refine .pending hk hitem ?_
      cases state with
      | starting | sending => exact hasks
      | awaiting | joining | returned => cases hasks

lemma Acks.notify {base k : Nat} (h : Acks base k state) : Acks base k state.notify := by
  cases h with
  | done hk => exact .done hk
  | pending hk => exact .pending hk

/-- All stays quiet while the sender's numbers and the calls are as they are. -/
lemma Quiet.of_eq (h : x.Quiet pieces pace) {session : Session} {pace' : Pace}
    (hsent : session.sender.packetsSent = x.session.sender.packetsSent)
    (hbase : session.sender.base = x.session.sender.base)
    (hcalls : session.calls = x.session.calls) (hpassed : pace'.passed = pace.passed) :
    Quiet pieces pace' { x with session } where
  passed_eq := by
    dsimp only
    rw [hpassed, hbase]
    exact h.passed_eq
  waits := by
    dsimp only
    rw [hsent, hcalls]
    exact h.waits
  given := by
    dsimp only
    rw [hsent]
    exact h.given

namespace InStep

/-- The items the sender was given. -/
lemma length_items (h : InStep settings lost pieces pace x) :
    ((script pieces).take x.session.sender.packetsSent).length = x.session.sender.packetsSent :=
  h.paced.carries.packetsSent_eq.symm

lemma passed_le (h : InStep settings lost pieces pace x) :
    pace.passed ≤ x.session.sender.packetsSent :=
  h.length_items ▸ h.paced.passed_le

/-- The sender is never ahead of the file. -/
lemma base_le_length (h : InStep settings lost pieces pace x) :
    x.session.sender.base.toNat ≤ pieces.length + 1 :=
  calc x.session.sender.base.toNat
      ≤ x.seen := h.base_le
    _ ≤ pace.passed := h.seen_le
    _ ≤ x.session.sender.packetsSent := h.passed_le
    _ ≤ pieces.length + 1 := h.sent_le

lemma next_eq (h : InStep settings lost pieces pace x) :
    x.session.sender.next.toNat = x.session.sender.packetsSent :=
  h.length_items ▸ h.paced.carries.next_eq

/-- What gets through are the first packets of the file. -/
lemma survivors_eq (h : InStep settings lost pieces pace x) :
    survivors lost x.session.packets = (numbered (script pieces)).take pace.passed :=
  h.paced.survivors_eq.trans (take_numbered_take h.paced.passed_le)

/-- Unless all is quiet, what is in flight was sent just now, and none of it again without getting
through. -/
lemma just_now (h : InStep settings lost pieces pace x) (hquiet : ¬ x.Quiet pieces pace) :
    pace.time = x.session.now ∧ pace.rounds = 0 := by
  have hsettled := mt h.settled hquiet
  have hle := h.time_le
  omega

/-- A call of the application that has not returned is the one behind all packets sent. -/
lemma sends_pending (h : InStep settings lost pieces pace x) {k : Nat} (hk : x.sends[k]? = some i)
    (hc : x.session.calls[i]? = some c) (hanswer : c.state.answer? = none) :
    k = x.session.sender.packetsSent ∧ ∃ payload flags,
      (script pieces)[k]? = some (payload, flags) ∧ c.state.Asks settings payload flags := by
  obtain ⟨c', hc', hsends⟩ := h.sends k i hk
  obtain rfl : c = c' := Option.some.inj (hc.symm.trans hc')
  generalize c.state = state at hanswer hsends
  cases hsends with
  | done => cases hanswer
  | pending hk hitem hasks => exact ⟨hk, _, _, hitem, hasks⟩

lemma acks_pending (h : InStep settings lost pieces pace x) {k : Nat} (hk : x.acks[k]? = some i)
    (hc : x.session.calls[i]? = some c) (hanswer : c.state.answer? = none) :
    k = x.session.sender.base.toNat ∧ c.state = .starting (.acknowledge (UInt32.ofNat k)) := by
  obtain ⟨c', hc', hacks⟩ := h.acks k i hk
  obtain rfl : c = c' := Option.some.inj (hc.symm.trans hc')
  generalize c.state = state at hanswer hacks ⊢
  cases hacks with
  | done => cases hanswer
  | pending hk => exact ⟨hk, rfl⟩

/-- No call of the link asks for something to be sent. -/
lemma not_asks_of_acks (h : InStep settings lost pieces pace x) {k : Nat}
    (hk : x.acks[k]? = some i) (hc : x.session.calls[i]? = some c) {payload : Bytes}
    {flags : Flags} : ¬ c.state.Asks settings payload flags := by
  intro hasks
  have hstate := (h.acks_pending hk hc (CallState.answer?_of_sends hasks.sends_eq)).2
  rw [hstate] at hasks
  exact hasks

lemma eq_next (h : InStep settings lost pieces pace x) :
    x.session.sender.next = UInt32.ofNat x.session.sender.packetsSent := by
  rw [← h.next_eq, UInt32.ofNat_toNat]

/-- In a quiet loop no call can run. -/
lemma not_ready_of_quiet (h : InStep settings lost pieces pace x) (hquiet : x.Quiet pieces pace)
    (hc : x.session.calls[i]? = some c) (hanswer : c.state.answer? = none) :
    ∃ payload flags, c.state = .sending payload flags false := by
  obtain ⟨hi, _⟩ := List.getElem?_eq_some_iff.1 hc
  rcases h.owned i hi with hmem | hmem
  · obtain ⟨k, hk⟩ := List.mem_iff_getElem?.1 hmem
    obtain ⟨rfl, _⟩ := h.sends_pending hk hc hanswer
    obtain ⟨c', payload, flags, hc', hstate⟩ := hquiet.waits i hk
    obtain rfl : c = c' := Option.some.inj (hc.symm.trans hc')
    exact ⟨payload, flags, hstate⟩
  · -- all acknowledgements were taken
    obtain ⟨k, hk⟩ := List.mem_iff_getElem?.1 hmem
    obtain ⟨rfl, _⟩ := h.acks_pending hk hc hanswer
    have hlt := (List.getElem?_eq_some_iff.1 hk).1
    have hlength := h.acks_length
    have hseen := h.seen_le
    have hpassed := hquiet.passed_eq
    omega

end InStep

end Loop

end ReliableTransfer
