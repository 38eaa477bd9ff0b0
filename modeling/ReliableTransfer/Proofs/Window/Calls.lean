import ReliableTransfer.Proofs.Window.History

/-!
# What the link is called with

However long a history is, and even where numbers begin anew: the link is only ever called with
packets of what was given, and every call was counted as a packet sent or sent again.

* `History.Drawn` — the invariant.
* **`History.Reachable.drawn`** — it holds in every history.
-/

namespace ReliableTransfer.History

variable {settings : Settings} {h h' : History}

/-- What is in flight, and all the link was called with, are packets of what was given, all of these
were called with, and the calls are counted. -/
structure Drawn (h : History) : Prop where
  draws : h.sender.Draws h.log.items
  packet_mem : ∀ c ∈ h.log.calls, c.2 ∈ numbered h.log.items
  called : ∀ p ∈ numbered h.log.items, ∃ c ∈ h.log.calls, c.2 = p
  length_items : h.sender.packetsSent = h.log.items.length
  length_calls : h.log.calls.length = h.sender.packetsSent + h.sender.retransmissions

namespace Drawn

lemma start {w : Sender} (hw : Sender.create settings = .ok w) : Drawn ⟨w, []⟩ := by
  refine ⟨.create hw, fun c hc => absurd hc List.not_mem_nil,
    fun p hp => absurd hp List.not_mem_nil, ?_, ?_⟩
  · rw [Sender.eq_of_create hw]
    rfl
  · rw [Sender.eq_of_create hw]
    rfl

lemma send (hd : Drawn h) (takes : Log → Bool) (time : Int) (payload : Bytes) (flags : Flags) :
    Drawn (h.send takes time payload flags) := by
  obtain ⟨more, hmore, hitems, hcalls, _⟩ := log_send takes time payload flags h
  refine ⟨?_, ?_, ?_, ?_, ?_⟩
  · rw [items_send]
    exact hd.draws.send time payload flags
  · intro c hc
    rw [items_send]
    rw [hmore, Log.calls_append, hcalls] at hc
    rcases List.mem_append.1 hc with hc | hc
    · exact numbered_subset_append _ _ (hd.packet_mem c hc)
    · rw [List.mem_singleton.1 hc, hd.draws.packet_eq, numbered_concat]
      exact List.mem_append_right _ (List.mem_singleton_self _)
  · intro p hp
    rw [items_send, numbered_concat, ← hd.draws.packet_eq] at hp
    rw [hmore, Log.calls_append, hcalls]
    rcases List.mem_append.1 hp with hp | hp
    · obtain ⟨c, hc, hcp⟩ := hd.called p hp
      exact ⟨c, List.mem_append_left _ hc, hcp⟩
    · exact ⟨_, List.mem_append_right _ (List.mem_singleton_self _), (List.mem_singleton.1 hp).symm⟩
  · rw [items_send, List.length_append, ← hd.length_items]
    rfl
  · rw [hmore, Log.calls_append, hcalls, List.length_append, hd.length_calls]
    show _ = h.sender.packetsSent + 1 + h.sender.retransmissions
    rw [List.length_singleton]
    omega

lemma scan (hd : Drawn h) (takes : Log → Bool) (time : Int) :
    Drawn (h.scan settings takes time) := by
  obtain ⟨more, hmore, _, hcalls, _⟩ := log_scan settings takes time h
  refine ⟨?_, ?_, ?_, ?_, ?_⟩
  · rw [items_scan]
    exact hd.draws.scan time
  · intro c hc
    rw [items_scan]
    rw [hmore, Log.calls_append, hcalls] at hc
    rcases List.mem_append.1 hc with hc | hc
    · exact hd.packet_mem c hc
    · obtain ⟨p, hp, rfl⟩ := List.mem_map.1 hc
      obtain ⟨r, hr, rfl⟩ := List.mem_map.1 (Sender.packet_mem_of_mem_scan hp)
      exact hd.draws.mem r hr
  · intro p hp
    rw [items_scan] at hp
    obtain ⟨c, hc, hcp⟩ := hd.called p hp
    exact ⟨c, by rw [hmore, Log.calls_append]; exact List.mem_append_left _ hc, hcp⟩
  · rw [items_scan]
    exact hd.length_items
  · rw [hmore, Log.calls_append, hcalls, List.length_append, List.length_map,
      Sender.length_packets_scan, hd.length_calls, Nat.add_assoc]
    rfl

/-- An order from outside gives nothing and calls for nothing. -/
lemma order (hd : Drawn h) {d : Deed} (horder : d.isOrder = true) {w : Sender}
    (hw : w.Draws h.log.items)
    (hcounts : w.packetsSent = h.sender.packetsSent ∧
      w.retransmissions = h.sender.retransmissions) :
    Drawn ⟨w, h.log ++ [d]⟩ := by
  obtain ⟨hitems, hcalls, _⟩ := Log.append_order h.log horder
  refine ⟨?_, ?_, ?_, ?_, ?_⟩
  · rw [hitems]
    exact hw
  · rw [hitems, hcalls]
    exact hd.packet_mem
  · rw [hitems, hcalls]
    exact hd.called
  · rw [hitems, hcounts.1, hd.length_items]
  · rw [hcalls, hd.length_calls, hcounts.1, hcounts.2]

lemma step (hd : Drawn h) (hs : Step settings h h') : Drawn h' := by
  cases hs with
  | send takes time payload flags => exact hd.send takes time payload flags
  | acknowledge number => exact hd.order rfl (hd.draws.acknowledge number) ⟨rfl, rfl⟩
  | scan takes time => exact hd.scan takes time
  | stop => exact hd.order rfl hd.draws.stop ⟨rfl, rfl⟩

end Drawn

/-- **The link is called with packets of what was given**, in every history whatever. -/
lemma Reachable.drawn (hr : Reachable settings h) : Drawn h := by
  induction hr with
  | start hw => exact .start hw
  | step _ hs ih => exact ih.step hs

end ReliableTransfer.History
