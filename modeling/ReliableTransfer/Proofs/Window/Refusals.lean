import ReliableTransfer.Proofs.Window.Calls
import ReliableTransfer.Proofs.Window.Interleaving
import ReliableTransfer.Proofs.Window.Sessions
import ReliableTransfer.Proofs.Window.Tracking

/-!
# What a refused call leaves behind

A call to send is refused if its payload is too long, or if the sender was stopped before it found
room.  That may be long after it was made.  Still the session is the same as if the call had not
been made.  A packet that the link does not take, on the other hand, is in flight like any other.

* `Session.Refusable` — where a call stands that is refused in the end, and its events so far.
* `Session.Spared.weave` — the others go on as if the call were not there.
* `Session.oversized_weave` — a payload that is too long is refused in the call's first turn.
* `Session.Untaken` — what becomes of a packet that the link does not take.
* **`Session.refused_send_leaves_no_trace`** — all this, whatever comes next.
-/

namespace ReliableTransfer

/-- Only a call that has returned has been answered. -/
lemma CallState.eq_of_answer? {a : Answer} :
    ∀ {state : CallState}, state.answer? = some a → state = .returned a
  | .returned _, h => congrArg _ (Option.some.inj h)

namespace Session

variable {s s' : Session} {i number : Nat} {c : Call} {cause : SendError}
  {own : List (Int × SessionEvent)} {payload : Bytes} {flags : Flags}

/-! ## The calls -/

lemma getElem?_setCall (hc : s.calls[i]? = some c) (state : CallState) :
    (s.setCall i state).calls[i]? = some { c with state } := by
  rw [setCall, List.getElem?_modify_eq, hc]
  rfl

lemma getElem?_answer (hc : s.calls[i]? = some c) (a : Answer) :
    (s.answer i a).calls[i]? = some { c with state := .returned a } := by
  rw [answer_eq hc]
  exact getElem?_setCall hc (.returned a)

/-- A call that has returned has no turns any more. -/
lemma resumeCall_of_returned (hc : s.calls[i]? = some c) {a : Answer}
    (hstate : c.state = .returned a) : s.resumeCall i = s := by
  rw [resumeCall, hc]
  dsimp only
  rw [hstate]

/-- A turn of a call that is not there, or has returned, is nothing. -/
lemma resumeCall_cases (s : Session) (j : Nat) : s.resumeCall j = s ∨
    ∃ c state sender timer actions,
      Turned s j c state sender timer actions (s.resumeCall j) := by
  cases hc : s.calls[j]? with
  | none => exact .inl (by rw [resumeCall, hc])
  | some c =>
      cases hstate : c.state.answer? with
      | some a => exact .inl (resumeCall_of_returned hc (CallState.eq_of_answer? hstate))
      | none =>
          obtain ⟨state, sender, timer, actions, _, ht⟩ := resumeCall_eq hc hstate
          exact .inr ⟨c, state, sender, timer, actions, ht⟩

/-- What comes next for the others wakes a call, or leaves it as it is. -/
lemma getElem?_choose (hc : s.calls[i]? = some c) {choice choice' : Choice}
    (hchoice : choice.without? i = some choice') : ∃ c', (s.choose choice).calls[i]? = some c' ∧
      c'.number = c.number ∧ (c'.state = c.state ∨ c'.state = c.state.notify) := by
  cases choice with
  | turn task =>
      cases task with
      | zero =>
          obtain ⟨timer, sender, actions, _, ht⟩ := s.resumeTimer_eq
          exact ⟨c, ht.calls_eq ▸ hc, rfl, .inl rfl⟩
      | succ j =>
          have hj : i ≠ j := by
            rintro rfl
            rw [Choice.without?, if_pos rfl] at hchoice
            cases hchoice
          show ∃ c', (s.resumeCall j).calls[i]? = some c' ∧ _
          rcases s.resumeCall_cases j with hsame | ⟨_, _, _, _, _, ht⟩
          · rw [hsame]
            exact ⟨c, hc, rfl, .inl rfl⟩
          · obtain ⟨c', hc', hnumber, hcases⟩ := ht.exists_getElem? hc
            exact ⟨c', hc', hnumber, (hcases.resolve_left fun h => hj h.1).2⟩
  | clock time => exact ⟨c, hc, rfl, .inl rfl⟩
  | call number op =>
      refine ⟨c, ?_, rfl, .inl rfl⟩
      rw [choose, List.getElem?_append_left (List.getElem?_eq_some_iff.1 hc).1]
      exact hc

/-- A call that has returned stays as it is. -/
lemma returned_weave {a : Answer} (hc : s.calls[i]? = some ⟨number, .returned a⟩)
    (choices : List Choice) : (s.weave choices).calls[i]? = some ⟨number, .returned a⟩ := by
  induction choices generalizing s with
  | nil => exact hc
  | cons choice rest ih =>
      refine ih ?_
      cases hchoice : choice.without? i with
      | none =>
          obtain rfl := Choice.eq_turn_of_without? hchoice
          show (s.resumeCall i).calls[i]? = _
          rw [resumeCall_of_returned hc rfl]
          exact hc
      | some choice' =>
          obtain ⟨⟨number', state⟩, hc', hnumber, hstate⟩ := getElem?_choose hc hchoice
          obtain rfl : number' = number := hnumber
          obtain rfl : state = .returned a := by
            rcases hstate with h | h
            · exact h
            · exact h
          exact hc'

/-! ## Refusals -/

/-- **What a call that looks at the window does**: it is refused, it sends, or it waits. -/
lemma trySend_cases (s : Session) (i : Nat) (payload : Bytes) (flags : Flags) :
    s.trySend i payload flags = s.answer i (.refused .stopped) ∨
    s.trySend i payload flags = s.setCall i (.sending payload flags false) ∨
    s.trySend i payload flags = (performAll link [.transmit (s.sender.packet payload flags)]
      { s with sender := (s.sender.send s.now payload flags).1 }).answer i
        (.sent s.sender.next) := by
  rw [trySend]
  split_ifs
  · exact .inl rfl
  · exact .inr (.inr rfl)
  · exact .inr (.inl rfl)

/-- **A turn of a call that wants to send**: it is refused at once, or looks at the window. -/
lemma resumeCall_of_sends (hc : s.calls[i]? = some c) (hsends : c.state.sends = true) :
    (∃ cause, s.resumeCall i = s.answer i (.refused cause)) ∨
      ∃ payload flags, s.resumeCall i = s.trySend i payload flags := by
  rw [resumeCall, hc]
  dsimp only
  cases hstate : c.state with
  | starting op =>
      rw [hstate] at hsends
      cases op with
      | send payload flags =>
          dsimp only
          rw [begin]
          cases Sender.refusal? s.settings payload with
          | some cause => exact .inl ⟨cause, rfl⟩
          | none => exact .inr ⟨payload, flags, rfl⟩
      | _ => cases hsends
  | sending payload flags notified => exact .inr ⟨payload, flags, rfl⟩
  | _ =>
      rw [hstate] at hsends
      cases hsends

/-- **Where a call stands that is refused in the end**, and its events so far: it still wants to
send, or it was refused. -/
inductive Refusable (cause : SendError) (c : Call) : List (Int × SessionEvent) → Prop
  | wanting (sends : c.state.sends = true) : Refusable cause c []
  | refused (time : Int) (state_eq : c.state = .returned (.refused cause)) :
      Refusable cause c [(time, .returned c.number (.refused cause))]

namespace Spared

/-- A call that waits (again) makes no difference. -/
lemma wait (h : Spared i [] s s') (state : CallState) : Spared i [] (s.setCall i state) s' := by
  obtain ⟨first, second, htimeline, rfl⟩ := h
  refine ⟨first, second, htimeline, ?_⟩
  rw [Session.setCall]
  dsimp only
  rw [List.eraseIdx_modify_of_eq]

/-- A call that returns without having done anything makes none but that. -/
lemma refuse (h : Spared i [] s s') (hc : s.calls[i]? = some c) (a : Answer) :
    Spared i [(s.now, .returned c.number a)] (s.answer i a) s' := by
  obtain ⟨first, second, htimeline, rfl⟩ := h
  refine ⟨first ++ second, [], ?_, ?_⟩
  · rw [answer_eq hc, htimeline]
    simp
  · rw [answer_eq hc]
    dsimp only
    rw [List.eraseIdx_modify_of_eq, List.append_nil]

/-- **What comes next**, if the call is refused in the end: nothing, if it is the turn of that call,
and else the same as with the call. -/
lemma next (h : Spared i own s s') (hc : s.calls[i]? = some c) (hr : Refusable cause c own)
    (choice : Choice) {rest : List Choice}
    (hend : ((s.choose choice).weave rest).calls[i]?
      = some ⟨number, .returned (.refused cause)⟩) :
    ∃ own c', (s.choose choice).calls[i]? = some c' ∧ c'.number = c.number ∧
      Refusable cause c' own ∧
      Spared i own (s.choose choice) (s'.weave (choice.without? i).toList) := by
  have hi := (List.getElem?_eq_some_iff.1 hc).1
  cases hchoice : choice.without? i with
  | some choice' =>
      obtain ⟨c', hc', hnumber, hstate⟩ := getElem?_choose hc hchoice
      refine ⟨own, c', hc', hnumber, ?_, h.choose hi hchoice⟩
      cases hr with
      | wanting hsends =>
          refine .wanting ?_
          rcases hstate with hstate | hstate
          · rw [hstate, hsends]
          · rw [hstate, CallState.sends_notify, hsends]
      | refused time hreturned =>
          rw [← hnumber]
          refine .refused time ?_
          rcases hstate with hstate | hstate
          · rw [hstate, hreturned]
          · rw [hstate, hreturned]
            rfl
  | none =>
      obtain rfl := Choice.eq_turn_of_without? hchoice
      show ∃ own c', (s.resumeCall i).calls[i]? = some c' ∧ c'.number = c.number ∧
        Refusable cause c' own ∧ Spared i own (s.resumeCall i) s'
      have hend : ((s.resumeCall i).weave rest).calls[i]?
        = some ⟨number, .returned (.refused cause)⟩ := hend
      cases hr with
      | refused time hreturned =>
          rw [resumeCall_of_returned hc hreturned]
          exact ⟨_, c, hc, rfl, .refused time hreturned, h⟩
      | wanting hsends =>
          -- once it has returned, that is what it returns in the end
          have refused : ∀ cause', s.resumeCall i = s.answer i (.refused cause') →
              ∃ own c', (s.resumeCall i).calls[i]? = some c' ∧ c'.number = c.number ∧
                Refusable cause c' own ∧ Spared i own (s.resumeCall i) s' := by
            intro cause' hresume
            rw [hresume] at hend ⊢
            have hcall := getElem?_answer hc (.refused cause')
            cases (returned_weave hcall rest).symm.trans hend
            exact ⟨_, _, hcall, rfl, .refused s.now rfl, h.refuse hc _⟩
          rcases resumeCall_of_sends hc hsends with ⟨cause', hresume⟩ | ⟨payload, flags, htry⟩
          · exact refused cause' hresume
          · rcases trySend_cases s i payload flags with hcase | hcase | hcase
            · exact refused .stopped (htry.trans hcase)
            · rw [htry, hcase]
              exact ⟨_, _, getElem?_setCall hc _, rfl, .wanting rfl, h.wait _⟩
            · obtain ⟨timeline, transmissions, hperform, _⟩ :=
                performAll_link [.transmit (s.sender.packet payload flags)]
                  { s with sender := (s.sender.send s.now payload flags).1 }
              rw [htry, hcase, hperform] at hend
              have hcall := getElem?_answer (s := { s with
                sender := (s.sender.send s.now payload flags).1, timeline, transmissions }) hc
                (.sent s.sender.next)
              cases (returned_weave hcall rest).symm.trans hend

/-- **The others go on as if the call were not there**, up to any point before it is refused or
after. -/
lemma weave (h : Spared i own s s') (hc : s.calls[i]? = some c) (hr : Refusable cause c own)
    (part rest : List Choice)
    (hend : (s.weave (part ++ rest)).calls[i]? = some ⟨number, .returned (.refused cause)⟩) :
    ∃ own c', (s.weave part).calls[i]? = some c' ∧ c'.number = c.number ∧ Refusable cause c' own ∧
      Spared i own (s.weave part) (s'.weave (part.filterMap (Choice.without? i))) := by
  induction part generalizing s s' c own with
  | nil => exact ⟨own, c, hc, rfl, hr, h⟩
  | cons choice part ih =>
      obtain ⟨own', c', hc', hnumber, hr', h'⟩ := h.next hc hr choice hend
      obtain ⟨own'', c'', hc'', hnumber', hr'', h''⟩ := ih h' hc' hr' hend
      refine ⟨own'', c'', hc'', hnumber'.trans hnumber, hr'', ?_⟩
      have hsplit : (choice :: part).filterMap (Choice.without? i)
          = (choice.without? i).toList ++ part.filterMap (Choice.without? i) := by
        rw [List.filterMap_cons]
        cases choice.without? i <;> rfl
      rw [hsplit, weave_append]
      exact h''

end Spared

/-! ## Payloads that are too long -/

lemma settings_choose (s : Session) (choice : Choice) :
    (s.choose choice).settings = s.settings := by
  cases choice with
  | turn task =>
      cases task with
      | zero =>
          obtain ⟨timer, sender, actions, _, ht⟩ := s.resumeTimer_eq
          exact ht.settings_eq
      | succ j =>
          show (s.resumeCall j).settings = s.settings
          rcases s.resumeCall_cases j with hsame | ⟨_, _, _, _, _, ht⟩
          · rw [hsame]
          · exact ht.settings_eq
  | clock time => rfl
  | call number op => rfl

lemma settings_weave (s : Session) (choices : List Choice) :
    (s.weave choices).settings = s.settings := by
  induction choices generalizing s with
  | nil => rfl
  | cons choice rest ih => exact (ih (s.choose choice)).trans (settings_choose s choice)

/-- **A payload that is too long** is refused in the first turn of the call, whatever the sender. -/
lemma oversized_weave (hc : s.calls[i]? = some ⟨number, .starting (.send payload flags)⟩)
    (hsize : s.settings.maxPayload < payload.length) {choices : List Choice}
    (hturn : .turn (i + 1) ∈ choices) :
    (s.weave choices).calls[i]?
      = some ⟨number, .returned (.refused (.oversized payload.length s.settings.maxPayload))⟩ := by
  induction choices generalizing s with
  | nil => cases hturn
  | cons choice rest ih =>
      cases hchoice : choice.without? i with
      | none =>
          obtain rfl := Choice.eq_turn_of_without? hchoice
          have hrefused : s.resumeCall i = s.answer i
              (.refused (.oversized payload.length s.settings.maxPayload)) := by
            rw [resumeCall, hc]
            dsimp only
            rw [begin, Sender.refusal?, if_pos hsize]
          refine returned_weave ?_ rest
          show (s.resumeCall i).calls[i]? = _
          rw [hrefused]
          exact getElem?_answer hc _
      | some choice' =>
          obtain ⟨⟨number', state⟩, hc', hnumber, hstate⟩ := getElem?_choose hc hchoice
          obtain rfl : number' = number := hnumber
          obtain rfl : state = .starting (.send payload flags) := by
            rcases hstate with h | h
            · exact h
            · exact h
          have hrest : .turn (i + 1) ∈ rest := by
            refine (List.mem_cons.1 hturn).resolve_left ?_
            rintro rfl
            rw [Choice.without?, if_pos rfl] at hchoice
            cases hchoice
          have hrefused := ih hc' (by rwa [settings_choose]) hrest
          rw [settings_choose] at hrefused
          exact hrefused

/-! ## Packets that are not taken -/

/-- **A call that finds room** sends, whether or not the link takes the packet. -/
lemma resumeCall_of_room (hc : s.calls[i]? = some c) (hasks : c.state.Asks s.settings payload flags)
    (hrunning : s.sender.running = true) (hroom : s.sender.hasRoom s.settings = true) :
    ∃ timeline, s.resumeCall i = { s with
        sender := (s.sender.send s.now payload flags).1
        calls := s.calls.modify i fun c => { c with state := .returned (.sent s.sender.next) }
        transmissions := s.transmissions + 1
        timeline } ∧
      (s.now, .transmitted (s.sender.packet payload flags)
        (!s.failing.contains s.transmissions)) ∈ timeline := by
  have htry : s.resumeCall i = s.trySend i payload flags := by
    rw [resumeCall, hc]
    dsimp only
    cases hstate : c.state with
    | starting op =>
        rw [hstate] at hasks
        cases op with
        | send payload' flags' =>
            obtain ⟨rfl, rfl, hrefusal⟩ := hasks
            dsimp only
            rw [begin, hrefusal]
        | _ => exact hasks.elim
    | sending payload' flags' notified =>
        rw [hstate] at hasks
        obtain ⟨rfl, rfl⟩ := hasks
        rfl
    | _ =>
        rw [hstate] at hasks
        exact hasks.elim
  obtain ⟨timeline, hperform, hmem⟩ : ∃ timeline,
      performAll link [.transmit (s.sender.packet payload flags)]
          { s with sender := (s.sender.send s.now payload flags).1 }
        = { s with
            sender := (s.sender.send s.now payload flags).1
            transmissions := s.transmissions + 1
            timeline } ∧
      (s.now, .transmitted (s.sender.packet payload flags)
        (!s.failing.contains s.transmissions)) ∈ timeline := by
    rw [performAll_cons, performAll_nil, Action.perform, link]
    dsimp only
    cases !s.failing.contains s.transmissions with
    | true => exact ⟨_, rfl, List.mem_append_right _ (List.mem_singleton_self _)⟩
    | false =>
        exact ⟨_, rfl, List.mem_append_left _ (List.mem_append_right _ (List.mem_singleton_self _))⟩
  refine ⟨timeline ++ [(s.now, .returned c.number (.sent s.sender.next))], ?_,
    List.mem_append_left _ hmem⟩
  rw [htry, trySend, hrunning, hroom]
  show (performAll link [.transmit (s.sender.packet payload flags)]
    { s with sender := (s.sender.send s.now payload flags).1 }).answer i _ = _
  rw [hperform]
  exact answer_eq (s := { s with
    sender := (s.sender.send s.now payload flags).1
    transmissions := s.transmissions + 1
    timeline }) hc (.sent s.sender.next)

/-- **A packet that the link does not take** was sent like any other: the call returns its number,
and it is in flight, to be sent again. -/
structure Untaken (s : Session) (i : Nat) (c : Call) (payload : Bytes) (flags : Flags)
    (s' : Session) : Prop where
  not_taken : (s.now, .transmitted (s.sender.packet payload flags) false) ∈ s'.timeline
  returned : s'.calls[i]? = some { c with state := .returned (.sent s.sender.next) }
  /-- The sender is as it would be with any other link, and so are the calls. -/
  as_taken : ∀ failing, (({ s with failing } : Session).resumeCall i).sender = s'.sender ∧
    (({ s with failing } : Session).resumeCall i).calls = s'.calls
  sender_eq : s'.sender = { s.sender with
    inFlight := Unacked.insert ⟨s.sender.packet payload flags, s.now, 0, false⟩ s.sender.inFlight
    next := s.sender.next + 1
    packetsSent := s.sender.packetsSent + 1 }
  kept : ∀ r ∈ s.sender.inFlight, r ∈ s'.sender.inFlight
  in_flight : s.sender.next ∈ s'.sender.numbers
  /-- No two packets in flight have the same number, as long as numbers last. -/
  fresh : s.sender.packetsSent < 4294967296 → s.sender.next ∉ s.sender.numbers
  held : s.sender.next ∉ s.sender.numbers →
    ⟨s.sender.packet payload flags, s.now, 0, false⟩ ∈ s'.sender.inFlight ∧
    ∀ time, s.settings.timeout < time - s.now → 0 < s.settings.maxRetries →
      .retransmit (s.sender.packet payload flags) ∈ (s'.sender.scan s.settings time).2

/-- A session in any order has a history. -/
lemma exists_traced_weave {settings : Settings} (hwindow : settings.window ≠ 0)
    (failing : List Nat) (choices : List Choice) :
    ∃ h, (weave { settings, failing } choices).Traced settings h := by
  have hcreate : Sender.create settings = .ok {} := if_neg hwindow
  have hstart : ∃ h, ({ settings, failing } : Session).Traced settings h :=
    ⟨⟨{}, []⟩, ⟨rfl, rfl⟩, rfl, .start hcreate, rfl, nofun⟩
  revert hstart
  generalize ({ settings, failing } : Session) = s
  intro hstart
  induction choices generalizing s with
  | nil => exact hstart
  | cons choice rest ih =>
      refine ih _ ?_
      obtain ⟨h, ht⟩ := hstart
      cases choice with
      | turn task =>
          obtain ⟨h', _, ht'⟩ := ht.resume task
          exact ⟨h', ht'⟩
      | clock time => exact ⟨h, ht.of_eq rfl rfl rfl rfl ht.fits⟩
      | call number op => exact ⟨h, ht.call number op⟩

/-- As long as numbers last, the next one is not in flight. -/
lemma next_notMem_numbers {settings : Settings} (hwindow : settings.window ≠ 0)
    {failing : List Nat} {choices : List Choice} (hs : s = weave { settings, failing } choices)
    (hcount : s.sender.packetsSent < 4294967296) : s.sender.next ∉ s.sender.numbers := by
  obtain ⟨h, ht⟩ := exists_traced_weave hwindow failing choices
  rw [← hs] at ht
  have hdrawn := ht.reachable.drawn
  rw [ht.sender_eq] at hcount ⊢
  intro hmem
  obtain ⟨r, hr, hseq⟩ := List.mem_map.1 hmem
  obtain ⟨n, item, hitem, hpacket⟩ := mem_numbered.1 (hdrawn.draws.mem r hr)
  have hlt : n < h.log.items.length := (List.getElem?_eq_some_iff.1 hitem).1
  have hcounted := hdrawn.length_items
  refine ofNat_ne_ofNat hlt (by omega) ?_
  rw [← hdrawn.draws.next_eq, ← hseq, Unacked.seq, hpacket]

lemma untaken {settings : Settings} {failing : List Nat} {choices : List Choice}
    (hs : s = weave { settings, failing } choices) (hc : s.calls[i]? = some c)
    (hasks : c.state.Asks s.settings payload flags) (hrunning : s.sender.running = true)
    (hroom : s.sender.hasRoom s.settings = true)
    (hlink : s.failing.contains s.transmissions = true) :
    s.Untaken i c payload flags (s.resumeCall i) := by
  obtain ⟨timeline, hresume, hmem⟩ := resumeCall_of_room hc hasks hrunning hroom
  rw [hlink] at hmem
  rw [hresume]
  refine ⟨hmem, getElem?_setCall hc _, fun failing => ?_, rfl,
    fun r hr => Unacked.mem_insert_of_mem _ hr,
    (Sender.mem_numbers_send _ _ _ _ _).2 (.inl rfl), ?_, fun hfresh => ?_⟩
  · obtain ⟨timeline', hresume', _⟩ :=
      resumeCall_of_room (s := { s with failing }) hc hasks hrunning hroom
    rw [hresume']
    exact ⟨rfl, rfl⟩
  · have hsettings : s.settings = settings := by rw [hs, settings_weave]
    rw [hsettings] at hroom
    refine next_notMem_numbers (fun hzero => ?_) hs
    rw [Sender.hasRoom, hzero, decide_eq_true_iff] at hroom
    exact UInt32.not_lt_zero hroom
  · have hheld := Unacked.mem_insert_self
      (r := ⟨s.sender.packet payload flags, s.now, 0, false⟩) hfresh
    refine ⟨hheld, fun time hlate hretries => ?_⟩
    rw [Sender.scan]
    refine List.mem_flatMap.2 ⟨_, List.mem_map_of_mem hheld, ?_⟩
    have hleft : ¬ ((0 : Nat) : Int) ≥ s.settings.maxRetries := Int.not_le.2 hretries
    rw [Unacked.scan, if_neg (Int.not_le.2 hlate), if_neg hleft]
    exact List.mem_singleton_self _

/-- **A refused call to send leaves no trace**, and a packet that the link does not take is not
lost.  Take a session in any order, and let a call to send come.  If the call is refused in the end,
the session is at every point the same as if the call had not been made, but for its own return.
It is refused in its first turn if its payload is too long, whatever the sender.  And whenever a
call finds room and the link does not take its packet, the call has sent the packet all the same. -/
theorem refused_send_leaves_no_trace (settings : Settings) (failing : List Nat)
    (before : List Choice) {s : Session} (hs : s = weave { settings, failing } before) :
    (∀ number payload flags behind cause,
      (s.weave (.call number (.send payload flags) :: behind)).calls[s.calls.length]?
        = some ⟨number, .returned (.refused cause)⟩ →
      ∀ part, part <+: behind → ∃ own,
        (own = [] ∨ ∃ time, own = [(time, .returned number (.refused cause))]) ∧
        Spared s.calls.length own (s.weave (.call number (.send payload flags) :: part))
          (s.weave (part.filterMap (Choice.without? s.calls.length)))) ∧
    (∀ number payload flags behind, settings.maxPayload < payload.length →
      .turn (s.calls.length + 1) ∈ behind →
      (s.weave (.call number (.send payload flags) :: behind)).calls[s.calls.length]?
        = some ⟨number, .returned (.refused (.oversized payload.length settings.maxPayload))⟩) ∧
    ∀ i c payload flags, s.calls[i]? = some c → c.state.Asks settings payload flags →
      s.sender.running = true → s.sender.hasRoom settings = true →
      s.failing.contains s.transmissions = true →
      s.Untaken i c payload flags (s.choose (.turn (i + 1))) := by
  have hsettings : s.settings = settings := by rw [hs, settings_weave]
  have hcall : ∀ number op, (s.choose (.call number op)).calls[s.calls.length]?
      = some ⟨number, .starting op⟩ := fun number op => List.getElem?_concat_length
  refine ⟨fun number payload flags behind cause hend part hpart => ?_,
    fun number payload flags behind hsize hturn => ?_,
    fun i c payload flags hc hasks hrunning hroom hlink => ?_⟩
  · -- before its first turn the call has done nothing
    have hfirst : Spared s.calls.length [] (s.choose (.call number (.send payload flags))) s := by
      refine ⟨s.timeline, [], ?_, ?_⟩
      · rw [List.append_nil, List.append_nil]
        rfl
      · rw [choose, List.append_nil]
        dsimp only
        rw [List.eraseIdx_append_of_length_le (Nat.le_refl _), Nat.sub_self]
        simp
    obtain ⟨rest, rfl⟩ := hpart
    obtain ⟨own, ⟨number', state⟩, _, hnumber, hrefusable, hspared⟩ :=
      hfirst.weave (hcall number _) (.wanting rfl) part rest hend
    obtain rfl : number' = number := hnumber
    refine ⟨own, ?_, hspared⟩
    cases hrefusable with
    | wanting => exact .inl rfl
    | refused time => exact .inr ⟨time, rfl⟩
  · subst hsettings
    exact oversized_weave (hcall number _) hsize hturn
  · subst hsettings
    exact untaken hs hc hasks hrunning hroom hlink

/-- A session with a window of one packet and a link that does not take the first, when a call to
send has come. -/
def begunSession : Session :=
  weave { settings := { window := 1, maxPayload := 2 }, failing := [0] }
    [.call 0 (.send [1] Flags.data)]

/-- The same when the packet is in flight. -/
def fullSession : Session :=
  begunSession.choose (.turn 1)

/-- The packet that the link did not take stays in flight.  A payload that is too long is refused at
once, and a call that waits for room is refused by the stop and leaves the sender as the stop alone
does. -/
theorem refused_send_leaves_no_trace_blocked :
    (0, .transmitted ⟨0, 0, Flags.data, [1]⟩ false) ∈ fullSession.timeline ∧
    fullSession.calls[0]? = some ⟨0, .returned (.sent 0)⟩ ∧
    ⟨⟨0, 0, Flags.data, [1]⟩, 0, 0, false⟩ ∈ fullSession.sender.inFlight ∧
    (fullSession.weave [.call 1 (.send [1, 2, 3] Flags.data), .turn 2]).calls[1]?
      = some ⟨1, .returned (.refused (.oversized 3 2))⟩ ∧
    (fullSession.weave [.call 1 (.send [2] Flags.data), .turn 2, .call 2 .stop, .turn 3,
        .turn 2]).calls[1]? = some ⟨1, .returned (.refused .stopped)⟩ ∧
    (fullSession.weave [.call 1 (.send [2] Flags.data), .turn 2, .call 2 .stop, .turn 3,
        .turn 2]).sender = (fullSession.weave [.call 2 .stop, .turn 2]).sender := by
  have hstopped : (fullSession.weave [.call 1 (.send [2] Flags.data), .turn 2, .call 2 .stop,
      .turn 3, .turn 2]).calls[1]? = some ⟨1, .returned (.refused .stopped)⟩ := by decide +kernel
  obtain ⟨_, _, huntaken⟩ := refused_send_leaves_no_trace { window := 1, maxPayload := 2 } [0]
    [.call 0 (.send [1] Flags.data)] (s := begunSession) rfl
  obtain ⟨hrefused, hoversized, _⟩ :=
    refused_send_leaves_no_trace { window := 1, maxPayload := 2 } [0]
      [.call 0 (.send [1] Flags.data), .turn 1] (s := fullSession) rfl
  have hpacket := huntaken 0 ⟨0, .starting (.send [1] Flags.data)⟩ [1] Flags.data
    (by decide +kernel) ⟨rfl, rfl, by decide⟩ (by decide +kernel) (by decide +kernel)
    (by decide +kernel)
  obtain ⟨own, _, first, second, _, hsame⟩ := hrefused 1 [2] Flags.data
    [.turn 2, .call 2 .stop, .turn 3, .turn 2] .stopped hstopped _ List.prefix_rfl
  have hfresh := hpacket.fresh (by decide +kernel)
  refine ⟨hpacket.not_taken, hpacket.returned, (hpacket.held hfresh).1, ?_, hstopped, ?_⟩
  · exact hoversized 1 [1, 2, 3] Flags.data [.turn 2] (by decide) (List.mem_singleton_self _)
  · exact (congrArg Session.sender hsame).symm

end Session

end ReliableTransfer
