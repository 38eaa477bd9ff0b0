import Mathlib.Data.List.Nodup
import Mathlib.Logic.Relation
import ReliableTransfer.Proofs.Window.Carries
import ReliableTransfer.Proofs.Window.Scan

/-!
# Histories of a sender

The threads around a sender take turns under one lock: at any moment one of them sends, hands
over an acknowledgement, scans for overdue packets, or stops the sender.  A history is a sender
with the log of all that happened to it, and nothing is assumed about the order of the turns, the
times at which they come, or what the link does with a packet.

* `Deed`, `Log` — what happens, and all of it in order.
* `Log.items`, `Log.calls`, `Log.warnings` — what was given to the sender, what it handed to the
  link and when, and the numbers it gave up on.
* `History`, `History.Step`, **`History.Reachable`** — the sender with its log, one turn, and the
  histories there can be.
* `History.Reachable.split` — an order that is in the log was carried out on the way.
-/

namespace ReliableTransfer

/-- Something that happens at a sender. -/
inductive Deed
  /-- A payload was given to it, and takes the next number. -/
  | given (payload : Bytes) (flags : Flags)
  /-- The link was handed a packet at some time, and took it or not. -/
  | transmitted (time : Int) (packet : Packet) (taken : Bool)
  /-- A line was written. -/
  | noted (notice : Notice)
  /-- An acknowledgement was handed over. -/
  | acknowledged (number : UInt32)
  /-- The sender was stopped. -/
  | stopped
deriving DecidableEq

namespace Deed

/-- What was given. -/
def item? : Deed → Option Item
  | given payload flags => some (payload, flags)
  | _ => none

/-- What was handed to the link, and when. -/
def call? : Deed → Option (Int × Packet)
  | transmitted time packet _ => some (time, packet)
  | _ => none

/-- The number whose retries were reported as used up. -/
def warning? : Deed → Option UInt32
  | noted (.retriesExceeded _ seq) => some seq
  | _ => none

/-- Whether the deed comes from outside and is not a part of sending. -/
def isOrder : Deed → Bool
  | acknowledged _ | stopped => true
  | _ => false

end Deed

/-- What happened at a sender, in order. -/
abbrev Log := List Deed

namespace Log

/-- What was given to the sender. -/
def items (log : Log) : List Item :=
  log.filterMap Deed.item?

/-- The calls of the link, with their times. -/
def calls (log : Log) : List (Int × Packet) :=
  log.filterMap Deed.call?

/-- The calls of the link with packets of one number. -/
def callsFor (log : Log) (seq : UInt32) : List (Int × Packet) :=
  log.calls.filter (·.2.seq = seq)

/-- The numbers whose retries were reported as used up. -/
def warnings (log : Log) : List UInt32 :=
  log.filterMap Deed.warning?

/-- The reports about one number. -/
def warningsFor (log : Log) (seq : UInt32) : List UInt32 :=
  log.warnings.filter (· = seq)

/-- What came from outside and was no part of sending. -/
def orders (log : Log) : List Deed :=
  log.filter Deed.isOrder

/-- Whether a number was acknowledged after it was sent. -/
def Settles (log : Log) (seq : UInt32) : Prop :=
  ∃ (pre : Log) (number : UInt32) (post : Log), log = pre ++ .acknowledged number :: post ∧
    seq.toNat < pre.items.length ∧ seq ≤ number

@[simp] lemma items_append (log more : Log) : Log.items (log ++ more) = log.items ++ more.items :=
  List.filterMap_append

@[simp] lemma calls_append (log more : Log) : Log.calls (log ++ more) = log.calls ++ more.calls :=
  List.filterMap_append

@[simp] lemma callsFor_append (log more : Log) (seq : UInt32) :
    Log.callsFor (log ++ more) seq = log.callsFor seq ++ more.callsFor seq := by
  rw [callsFor, calls_append, List.filter_append]
  rfl

@[simp] lemma warnings_append (log more : Log) :
    Log.warnings (log ++ more) = log.warnings ++ more.warnings :=
  List.filterMap_append

@[simp] lemma warningsFor_append (log more : Log) (seq : UInt32) :
    Log.warningsFor (log ++ more) seq = log.warningsFor seq ++ more.warningsFor seq := by
  rw [warningsFor, warnings_append, List.filter_append]
  rfl

@[simp] lemma orders_append (log more : Log) :
    Log.orders (log ++ more) = log.orders ++ more.orders :=
  List.filter_append log more

lemma notMem_of_orders {log : Log} (h : log.orders = []) {d : Deed} (hd : d.isOrder = true) :
    d ∉ log :=
  fun hmem => List.filter_eq_nil_iff.1 h d hmem hd

/-- An order from outside is nothing that was given, handed to the link or complained about. -/
lemma append_order (log : Log) {d : Deed} (hd : d.isOrder = true) :
    Log.items (log ++ [d]) = log.items ∧ Log.calls (log ++ [d]) = log.calls ∧
      Log.warnings (log ++ [d]) = log.warnings := by
  rw [items_append, calls_append, warnings_append]
  cases d with
  | acknowledged number => exact ⟨List.append_nil _, List.append_nil _, List.append_nil _⟩
  | stopped => exact ⟨List.append_nil _, List.append_nil _, List.append_nil _⟩
  | given | transmitted | noted => cases hd

/-- Where a log that has grown by `more` is cut at a deed that `more` does not hold, the cut is in
the old part. -/
lemma cut_append {log more pre post : Log} {d : Deed} (hd : d ∉ more)
    (h : log ++ more = pre ++ d :: post) :
    ∃ post₀, log = pre ++ d :: post₀ ∧ post = post₀ ++ more := by
  rcases List.append_eq_append_iff.1 h with ⟨before, rfl, hmore⟩ | ⟨behind, rfl, hpost⟩
  · exact absurd (hmore ▸ List.mem_append_right before List.mem_cons_self) hd
  · cases behind with
    | nil => exact absurd (List.mem_of_mem_head? (by rw [← List.nil_append more, ← hpost]; rfl)) hd
    | cons head post₀ =>
        rw [List.cons_append, List.cons.injEq] at hpost
        exact ⟨post₀, by rw [hpost.1], hpost.2⟩

/-- Where a log that has grown by one deed is cut, the cut is at that deed or in the old part. -/
lemma cut_concat {log pre post : Log} {d d' : Deed} (h : log ++ [d'] = pre ++ d :: post) :
    (log = pre ∧ d' = d) ∨ ∃ post₀, log = pre ++ d :: post₀ := by
  rcases List.eq_nil_or_concat post with rfl | ⟨post₀, last, rfl⟩
  · obtain ⟨hlog, hd⟩ := List.append_inj' h rfl
    exact .inl ⟨hlog, (List.cons.inj hd).1⟩
  · have h' : log ++ [d'] = (pre ++ d :: post₀) ++ [last] := by
      rw [h, List.concat_eq_append, List.append_assoc, List.cons_append]
    exact .inr ⟨post₀, (List.append_inj' h' rfl).1⟩

end Log

/-! ## What actions leave in the log -/

/-- A link that only keeps a record.  Whether it takes a packet may depend on all that happened
before. -/
def recorder (time : Int) (takes : Log → Bool) : Link Log where
  transmit p log := (takes log, log ++ [.transmitted time p (takes log)])
  note n log := log ++ [.noted n]

section Recorder

variable (time : Int) (takes : Log → Bool)

/-- What one action adds to the log: a call at most, and a line at most. -/
lemma perform_recorder (action : Action) (log : Log) :
    ∃ more : Log, action.perform (recorder time takes) log = log ++ more ∧
      more.items = [] ∧ more.calls = (action.packet?.map (time, ·)).toList ∧
      more.warnings = action.warning?.toList ∧ more.orders = [] := by
  cases action with
  | transmit p =>
      cases htakes : takes log with
      | true =>
          refine ⟨[.transmitted time p true], ?_, rfl, rfl, rfl, rfl⟩
          simp only [Action.perform, recorder, htakes]
      | false =>
          refine ⟨[.transmitted time p false, .noted (.transmitFailed p.seq)], ?_, rfl, rfl, rfl,
            rfl⟩
          simp only [Action.perform, recorder, htakes, List.append_assoc, List.singleton_append]
  | retransmit p =>
      cases htakes : takes log with
      | true =>
          refine ⟨[.transmitted time p true], ?_, rfl, rfl, rfl, rfl⟩
          simp only [Action.perform, recorder, htakes]
      | false =>
          refine ⟨[.transmitted time p false, .noted (.retransmitFailed p.seq)], ?_, rfl, rfl, rfl,
            rfl⟩
          simp only [Action.perform, recorder, htakes, List.append_assoc, List.singleton_append]
  | giveUp maxRetries seq =>
      exact ⟨[.noted (.retriesExceeded maxRetries seq)], rfl, rfl, rfl, rfl, rfl⟩

/-- What a list of actions adds to the log: its packets as calls and its warnings, whatever the
link does with the packets. -/
lemma performAll_recorder (actions : List Action) (log : Log) :
    ∃ more : Log, performAll (recorder time takes) actions log = log ++ more ∧
      more.items = [] ∧ more.calls = (actions.filterMap Action.packet?).map (time, ·) ∧
      more.warnings = actions.filterMap Action.warning? ∧ more.orders = [] := by
  induction actions generalizing log with
  | nil => exact ⟨[], (List.append_nil log).symm, rfl, rfl, rfl, rfl⟩
  | cons action actions ih =>
      obtain ⟨first, hfirst, hitems, hcalls, hwarnings, horders⟩ :=
        perform_recorder time takes action log
      obtain ⟨rest, hrest, hitems', hcalls', hwarnings', horders'⟩ := ih (log ++ first)
      refine ⟨first ++ rest, ?_, ?_, ?_, ?_, ?_⟩
      · rw [performAll_cons, hfirst, hrest, List.append_assoc]
      · rw [Log.items_append, hitems, hitems', List.append_nil]
      · rw [Log.calls_append, hcalls, hcalls', List.filterMap_cons]
        cases action.packet? <;> rfl
      · rw [Log.warnings_append, hwarnings, hwarnings', List.filterMap_cons]
        cases action.warning? <;> rfl
      · rw [Log.orders_append, horders, horders', List.append_nil]

end Recorder

/-! ## Histories -/

/-- A sender with the log of what happened to it. -/
structure History where
  sender : Sender := {}
  log : Log := []

namespace History

/-- **A send**: the item is on record, and so is what the link made of its packet. -/
def send (takes : Log → Bool) (time : Int) (payload : Bytes) (flags : Flags) (h : History) :
    History :=
  let (sender, actions) := h.sender.send time payload flags
  ⟨sender, performAll (recorder time takes) actions (h.log ++ [.given payload flags])⟩

/-- **An acknowledgement** is on record and moves the window. -/
def acknowledge (number : UInt32) (h : History) : History :=
  ⟨h.sender.acknowledge number, h.log ++ [.acknowledged number]⟩

/-- **A scan**, and what the link made of the packets that were due. -/
def scan (settings : Settings) (takes : Log → Bool) (time : Int) (h : History) : History :=
  let (sender, actions) := h.sender.scan settings time
  ⟨sender, performAll (recorder time takes) actions h.log⟩

/-- **A stop** is on record. -/
def stop (h : History) : History :=
  ⟨h.sender.stop, h.log ++ [.stopped]⟩

/-- **One turn.**  Sending waits for room and is refused after the stop; the timer ends with the
stop; acknowledgements are taken at any time. -/
inductive Step (settings : Settings) : History → History → Prop
  | send {h : History} (takes : Log → Bool) (time : Int) (payload : Bytes) (flags : Flags)
      (running : h.sender.running = true) (room : h.sender.hasRoom settings = true)
      (fits : Sender.refusal? settings payload = none) :
      Step settings h (h.send takes time payload flags)
  | acknowledge {h : History} (number : UInt32) : Step settings h (h.acknowledge number)
  | scan {h : History} (takes : Log → Bool) (time : Int) (running : h.sender.running = true) :
      Step settings h (h.scan settings takes time)
  | stop {h : History} : Step settings h h.stop

/-- **The histories there can be**: a fresh sender, and any number of turns. -/
inductive Reachable (settings : Settings) : History → Prop
  | start {w : Sender} : Sender.create settings = .ok w → Reachable settings ⟨w, []⟩
  | step {h h' : History} : Reachable settings h → Step settings h h' → Reachable settings h'

/-- One history comes after another, by any number of turns. -/
abbrev Later (settings : Settings) : History → History → Prop :=
  Relation.ReflTransGen (Step settings)

variable {settings : Settings} {h h' : History}

lemma Reachable.later (hr : Reachable settings h) (hl : Later settings h h') :
    Reachable settings h' := by
  induction hl with
  | refl => exact hr
  | tail _ hs ih => exact ih.step hs

/-! ### What a turn adds to the log -/

lemma log_send (takes : Log → Bool) (time : Int) (payload : Bytes) (flags : Flags)
    (h : History) :
    ∃ more : Log, (h.send takes time payload flags).log = h.log ++ more ∧
      more.items = [(payload, flags)] ∧ more.calls = [(time, h.sender.packet payload flags)] ∧
      more.warnings = [] ∧ more.orders = [] := by
  obtain ⟨more, hmore, hitems, hcalls, hwarnings, horders⟩ :=
    performAll_recorder time takes [.transmit (h.sender.packet payload flags)]
      (h.log ++ [.given payload flags])
  refine ⟨[.given payload flags] ++ more, ?_, ?_, ?_, ?_, ?_⟩
  · rw [← List.append_assoc, ← hmore]
    rfl
  · rw [Log.items_append, hitems]
    rfl
  · rw [Log.calls_append, hcalls]
    rfl
  · rw [Log.warnings_append, hwarnings]
    rfl
  · rw [Log.orders_append, horders]
    rfl

lemma log_scan (settings : Settings) (takes : Log → Bool) (time : Int) (h : History) :
    ∃ more : Log, (h.scan settings takes time).log = h.log ++ more ∧ more.items = [] ∧
      more.calls
        = ((h.sender.scan settings time).2.filterMap Action.packet?).map (time, ·) ∧
      more.warnings = (h.sender.scan settings time).2.filterMap Action.warning? ∧
      more.orders = [] :=
  performAll_recorder time takes (h.sender.scan settings time).2 h.log

lemma items_send (takes : Log → Bool) (time : Int) (payload : Bytes) (flags : Flags)
    (h : History) :
    (h.send takes time payload flags).log.items = h.log.items ++ [(payload, flags)] := by
  obtain ⟨more, hmore, hitems, _⟩ := log_send takes time payload flags h
  rw [hmore, Log.items_append, hitems]

lemma items_scan (settings : Settings) (takes : Log → Bool) (time : Int) (h : History) :
    (h.scan settings takes time).log.items = h.log.items := by
  obtain ⟨more, hmore, hitems, _⟩ := log_scan settings takes time h
  rw [hmore, Log.items_append, hitems, List.append_nil]

lemma items_acknowledge (number : UInt32) (h : History) :
    (h.acknowledge number).log.items = h.log.items :=
  (Log.append_order h.log rfl).1

lemma items_stop (h : History) : h.stop.log.items = h.log.items :=
  (Log.append_order h.log rfl).1

/-- A turn is an order from outside, or adds no order to the log. -/
lemma Step.log_cases (hs : Step settings h h') :
    (∃ more : Log, h'.log = h.log ++ more ∧ more.orders = []) ∨
      (∃ number, h' = h.acknowledge number) ∨ h' = h.stop := by
  cases hs with
  | send takes time payload flags =>
      obtain ⟨more, hmore, _, _, _, horders⟩ := log_send takes time payload flags h
      exact .inl ⟨more, hmore, horders⟩
  | acknowledge number => exact .inr (.inl ⟨number, rfl⟩)
  | scan takes time =>
      obtain ⟨more, hmore, _, _, _, horders⟩ := log_scan settings takes time h
      exact .inl ⟨more, hmore, horders⟩
  | stop => exact .inr (.inr rfl)

/-- The log only grows. -/
lemma Later.log_append (hl : Later settings h h') : ∃ more, h'.log = h.log ++ more := by
  induction hl with
  | refl => exact ⟨[], (List.append_nil h.log).symm⟩
  | tail _ hs ih =>
      obtain ⟨before, hbefore⟩ := ih
      rcases hs.log_cases with ⟨more, hmore, _⟩ | ⟨number, rfl⟩ | rfl
      · exact ⟨before ++ more, by rw [hmore, hbefore, List.append_assoc]⟩
      · exact ⟨before ++ [.acknowledged number], by
          rw [acknowledge, hbefore, List.append_assoc]⟩
      · exact ⟨before ++ [.stopped], by rw [stop, hbefore, List.append_assoc]⟩

lemma Later.length_items_le (hl : Later settings h h') :
    h.log.items.length ≤ h'.log.items.length := by
  obtain ⟨more, hmore⟩ := hl.log_append
  rw [hmore, Log.items_append, List.length_append]
  exact Nat.le_add_right _ _

/-! ### Going back in a history -/

/-- **An order that is in the log was carried out**, in a history whose log ends there. -/
lemma Reachable.split (hr : Reachable settings h) {pre post : Log} {d : Deed}
    (hd : d.isOrder = true) (hlog : h.log = pre ++ d :: post) :
    ∃ h₀ h₁, Reachable settings h₀ ∧ h₀.log = pre ∧ Later settings h₁ h ∧
      ((∃ number, d = .acknowledged number ∧ h₁ = h₀.acknowledge number) ∨
        (d = .stopped ∧ h₁ = h₀.stop)) := by
  induction hr generalizing post with
  | start _ => exact absurd hlog (by simp)
  | @step g g' hg hs ih =>
      -- the order is the last turn, or the log of `g` holds it already
      have old : ∀ post₀, g.log = pre ++ d :: post₀ →
          ∃ h₀ h₁, Reachable settings h₀ ∧ h₀.log = pre ∧ Later settings h₁ g' ∧
            ((∃ number, d = .acknowledged number ∧ h₁ = h₀.acknowledge number) ∨
              (d = .stopped ∧ h₁ = h₀.stop)) := by
        intro post₀ hpost₀
        obtain ⟨h₀, h₁, hr₀, hlog₀, hl, horder⟩ := ih hpost₀
        exact ⟨h₀, h₁, hr₀, hlog₀, hl.tail hs, horder⟩
      rcases hs.log_cases with ⟨more, hmore, horders⟩ | ⟨number, rfl⟩ | rfl
      · obtain ⟨post₀, hpost₀, _⟩ :=
          Log.cut_append (Log.notMem_of_orders horders hd) (hmore ▸ hlog)
        exact old post₀ hpost₀
      · rcases Log.cut_concat hlog with ⟨rfl, rfl⟩ | ⟨post₀, hpost₀⟩
        · exact ⟨g, _, hg, rfl, .refl, .inl ⟨number, rfl, rfl⟩⟩
        · exact old post₀ hpost₀
      · rcases Log.cut_concat hlog with ⟨rfl, rfl⟩ | ⟨post₀, hpost₀⟩
        · exact ⟨g, _, hg, rfl, .refl, .inr ⟨rfl, rfl⟩⟩
        · exact old post₀ hpost₀

end History

end ReliableTransfer
