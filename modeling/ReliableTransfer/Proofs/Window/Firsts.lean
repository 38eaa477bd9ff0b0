import ReliableTransfer.Proofs.Window.Calls

/-!
# First calls of the link

However often packets are sent again, and whatever is acknowledged in between: the first calls of
the link with each of the numbers come in the order of the numbers, and none is left out.

* `History.Climbs` — the numbers the link was called with, each where it comes first.
* **`History.Reachable.climbs`** — as long as numbers last.
-/

namespace ReliableTransfer.History

variable {settings : Settings} {h h' : History}

lemma eraseDups_append_of_mem {l more : List Nat} (hmore : ∀ n ∈ more, n ∈ l) :
    (l ++ more).eraseDups = l.eraseDups := by
  have hnone : more.removeAll l = [] := by
    rw [List.removeAll, List.filter_eq_nil_iff]
    intro n hn
    simp [hmore n hn]
  rw [List.eraseDups_append, hnone, List.eraseDups_nil, List.append_nil]

lemma eraseDups_concat_of_notMem {l : List Nat} {n : Nat} (hn : n ∉ l) :
    (l ++ [n]).eraseDups = l.eraseDups ++ [n] := by
  have hkept : [n].removeAll l = [n] := by simp [List.removeAll, hn]
  rw [List.eraseDups_append, hkept]
  rfl

/-- The numbers the link was called with. -/
def called (h : History) : List Nat :=
  h.log.calls.map (·.2.seq.toNat)

/-- The link was first called with zero, then with one, and so on for all that was given. -/
def Climbs (h : History) : Prop :=
  h.called.eraseDups = List.range h.log.items.length

namespace Climbs

lemma mem_called (hc : Climbs h) {n : Nat} : n ∈ h.called ↔ n < h.log.items.length := by
  rw [← List.mem_eraseDups, hc, List.mem_range]

/-- Giving one item more calls the link with a number it was never called with. -/
lemma send (hc : Climbs h) (hd : Drawn h) (hlength : h.log.items.length < 4294967296)
    (takes : Log → Bool) (time : Int) (payload : Bytes) (flags : Flags) :
    Climbs (h.send takes time payload flags) := by
  obtain ⟨more, hmore, _, hcalls, _⟩ := log_send takes time payload flags h
  have hcalled : (h.send takes time payload flags).called = h.called ++ [h.log.items.length] := by
    rw [called, hmore, Log.calls_append, hcalls, hd.draws.packet_eq, List.map_append,
      List.map_singleton, toNat_ofNat_of_lt hlength]
    rfl
  rw [Climbs, hcalled, items_send, List.length_append, List.length_singleton, List.range_succ,
    eraseDups_concat_of_notMem fun h => Nat.lt_irrefl _ (hc.mem_called.1 h), hc]

/-- A scan calls the link with numbers in flight only. -/
lemma scan (hc : Climbs h) (hd : Drawn h) (hlength : h.log.items.length ≤ 4294967296)
    (takes : Log → Bool) (time : Int) : Climbs (h.scan settings takes time) := by
  obtain ⟨more, hmore, _, hcalls, _⟩ := log_scan settings takes time h
  have hcalled : (h.scan settings takes time).called
      = h.called ++ more.calls.map (·.2.seq.toNat) := by
    rw [called, hmore, Log.calls_append, List.map_append]
    rfl
  rw [Climbs, hcalled, items_scan, eraseDups_append_of_mem, hc]
  intro n hn
  rw [hcalls, List.map_map] at hn
  obtain ⟨p, hp, rfl⟩ := List.mem_map.1 hn
  obtain ⟨r, hr, rfl⟩ := List.mem_map.1 (Sender.packet_mem_of_mem_scan hp)
  obtain ⟨i, item, hitem, hpacket⟩ := mem_numbered.1 (hd.draws.mem r hr)
  have hi : i < h.log.items.length := (List.getElem?_eq_some_iff.1 hitem).1
  rw [hc.mem_called, Function.comp_apply, hpacket, toNat_ofNat_of_lt (by omega)]
  exact hi

end Climbs

/-- **The first calls of the link** come in order and without gaps. -/
lemma Reachable.climbs (hr : Reachable settings h) (hlength : h.log.items.length ≤ 4294967296) :
    Climbs h := by
  induction hr with
  | start hw => rfl
  | @step h h' hr hs ih =>
      have hle : h.log.items.length ≤ h'.log.items.length :=
        Later.length_items_le (.single hs)
      have hc := ih (by omega)
      cases hs with
      | send takes time payload flags =>
          rw [items_send, List.length_append, List.length_singleton] at hlength
          exact hc.send hr.drawn (by omega) takes time payload flags
      | acknowledge number =>
          obtain ⟨hitems, hcalls, _⟩ := Log.append_order h.log (d := .acknowledged number) rfl
          rw [Climbs, called, acknowledge, hcalls, hitems]
          exact hc
      | scan takes time => exact hc.scan hr.drawn (by omega) takes time
      | stop =>
          obtain ⟨hitems, hcalls, _⟩ := Log.append_order h.log (d := .stopped) rfl
          rw [Climbs, called, stop, hcalls, hitems]
          exact hc

end ReliableTransfer.History
