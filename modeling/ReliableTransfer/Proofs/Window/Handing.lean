import ReliableTransfer.Proofs.Window.Delivery

/-!
# What a receiver hands on, and what it acknowledges

Whatever packets a receiver is given: those it hands on are numbered from zero without a gap, its
output is what they carry, and it acknowledges a number only once all packets up to it were handed
on.  So the acknowledgements never go back.

* `Receiver.handed` — the packets that were handed on.
* `Receiver.acks` — the acknowledgements, in order.
* **`Receiver.Tally`** — how the two go together.
* `Receiver.tally_fresh` — they do for a fresh receiver, as long as numbers last.
-/

namespace ReliableTransfer.Receiver

/-- The packets a receiver hands on out of those it is given. -/
def handed (r : Receiver) : List Packet → List Packet
  | [] => []
  | p :: rest =>
    let next := (r.accept p).1
    if next.delivered = r.delivered then next.handed rest else p :: next.handed rest

/-- The acknowledgements it gives, in order. -/
def acks (r : Receiver) (packets : List Packet) : List UInt32 :=
  (r.acceptAll packets).2.filterMap Receipt.ack

lemma acks_append (r : Receiver) (first second : List Packet) :
    r.acks (first ++ second) = r.acks first ++ (r.acceptAll first).1.acks second := by
  simp only [acks, acceptAll_append, List.filterMap_append]

/-- The bytes a receiver counts are those it writes. -/
lemma bytesWritten_acceptAll (r : Receiver) (packets : List Packet) :
    (r.acceptAll packets).1.bytesWritten
      = r.bytesWritten + ((r.acceptAll packets).2.map Receipt.output).flatten.length := by
  induction packets generalizing r with
  | nil => rfl
  | cons p rest ih =>
      have haccept : (r.accept p).1.bytesWritten
          = r.bytesWritten + (r.accept p).2.output.length := by
        rcases accept_cases r p with ⟨_, _, hr⟩ | ⟨_, _, _, hr⟩ | ⟨_, _, hr⟩ | ⟨_, _, _, hr⟩ <;>
          rw [hr] <;> rfl
      simp only [acceptAll, List.map_cons, List.flatten_cons, List.length_append]
      rw [ih, haccept, Nat.add_assoc]

/-- **How the acknowledgements of a receiver go with what it has handed on.** -/
structure Tally (r : Receiver) (done : List Packet) (given : List UInt32) (output : Bytes) :
    Prop where
  delivered_eq : r.delivered = done.length
  expected_eq : r.expected.toNat = done.length
  seqs_eq : done.map (·.seq.toNat) = List.range done.length
  output_eq : output = done.flatMap contribution
  covered : ∀ n ∈ given, n.toNat < done.length
  sorted : (given.map UInt32.toNat).Pairwise (· ≤ ·)

namespace Tally

variable {r : Receiver} {done : List Packet} {given : List UInt32} {output : Bytes}

lemma fresh : Tally {} [] [] [] :=
  ⟨rfl, rfl, rfl, rfl, fun _ h => absurd h List.not_mem_nil, .nil⟩

/-- An acknowledgement of the last packet that was handed on goes with all that were given before,
even if that packet is new. -/
lemma acknowledge {n : UInt32} (hcovered : ∀ m ∈ given, m.toNat < done.length)
    (hsorted : (given.map UInt32.toNat).Pairwise (· ≤ ·)) (hn : n.toNat + 1 = done.length) :
    (∀ m ∈ given ++ [n], m.toNat < done.length) ∧
      ((given ++ [n]).map UInt32.toNat).Pairwise (· ≤ ·) := by
  constructor
  · intro m hm
    rcases List.mem_append.1 hm with hm | hm
    · exact hcovered m hm
    · rw [List.mem_singleton.1 hm]
      omega
  · rw [List.map_append, List.pairwise_append]
    refine ⟨hsorted, List.pairwise_singleton _ _, ?_⟩
    intro a ha b hb
    obtain ⟨m, hm, rfl⟩ := List.mem_map.1 ha
    obtain rfl : b = n.toNat := by simpa using hb
    have hlt := hcovered m hm
    omega

/-- **One packet more.** -/
lemma accept (ht : Tally r done given output) (hlength : done.length + 1 < 4294967296)
    (p : Packet) :
    Tally (r.accept p).1 (done ++ if (r.accept p).1.delivered = r.delivered then [] else [p])
      (given ++ (r.accept p).2.ack.toList) (output ++ (r.accept p).2.output) := by
  have hexpected : r.expected.toNat = r.delivered := ht.expected_eq.trans ht.delivered_eq.symm
  rcases accept_cases r p with ⟨_, _, hr⟩ | ⟨_, hseq, _, hr⟩ | ⟨_, _, hr⟩ | ⟨_, _, _, hr⟩
  · rw [hr, if_pos rfl]
    simpa using ht
  · -- the packet that was expected is handed on
    rw [hr, if_neg (Nat.succ_ne_self r.delivered)]
    have hcovered : ∀ m ∈ given, m.toNat < (done ++ [p]).length := by
      intro m hm
      rw [List.length_append]
      exact Nat.lt_add_right 1 (ht.covered m hm)
    have hn : r.expected.toNat + 1 = (done ++ [p]).length := by
      rw [ht.expected_eq, List.length_append, List.length_singleton]
    obtain ⟨hcovered', hsorted'⟩ := acknowledge hcovered ht.sorted hn
    refine ⟨?_, ?_, ?_, ?_, hcovered', hsorted'⟩
    · rw [List.length_append, List.length_singleton, ht.delivered_eq]
    · rw [← hn, UInt32.toNat_add, UInt32.toNat_one, ht.expected_eq]
      omega
    · rw [List.map_append, ht.seqs_eq, List.length_append, List.length_singleton,
        List.range_succ, List.map_singleton, hseq, ht.expected_eq]
    · rw [List.flatMap_append, ← ht.output_eq, List.flatMap_singleton]
  · -- a packet from before is acknowledged with the last that was handed on
    have hn : (r.expected - 1).toNat + 1 = (r.accept p).1.delivered :=
      toNat_ack_accept hexpected (by rw [hr])
    rw [hr] at hn ⊢
    obtain ⟨hcovered', hsorted'⟩ :=
      acknowledge ht.covered ht.sorted (hn.trans ht.delivered_eq)
    rw [if_pos rfl, List.append_nil, List.append_nil]
    exact ⟨ht.delivered_eq, ht.expected_eq, ht.seqs_eq, ht.output_eq, hcovered', hsorted'⟩
  · rw [hr, if_pos rfl]
    simpa using ⟨ht.delivered_eq, ht.expected_eq, ht.seqs_eq, ht.output_eq, ht.covered, ht.sorted⟩

lemma acceptAll (ht : Tally r done given output) {packets : List Packet}
    (hlength : done.length + packets.length < 4294967296) :
    Tally (r.acceptAll packets).1 (done ++ r.handed packets) (given ++ r.acks packets)
      (output ++ ((r.acceptAll packets).2.map Receipt.output).flatten) := by
  induction packets generalizing r done given output with
  | nil => simpa [Receiver.acceptAll, handed, acks] using ht
  | cons p rest ih =>
      rw [List.length_cons] at hlength
      have hone := ht.accept (by omega) p
      have hrest := ih hone (by
        rw [List.length_append]
        split_ifs
        · rw [List.length_nil]
          omega
        · rw [List.length_singleton]
          omega)
      have hhanded : done ++ r.handed (p :: rest)
          = (done ++ if (r.accept p).1.delivered = r.delivered then [] else [p])
            ++ (r.accept p).1.handed rest := by
        rw [handed, List.append_assoc]
        split_ifs <;> rfl
      have hacks : given ++ r.acks (p :: rest)
          = (given ++ (r.accept p).2.ack.toList) ++ (r.accept p).1.acks rest := by
        rw [acks, Receiver.acceptAll, List.filterMap_cons, List.append_assoc]
        cases (r.accept p).2.ack <;> rfl
      rw [hhanded, hacks]
      simpa [Receiver.acceptAll, List.append_assoc] using hrest

end Tally

/-- **A fresh receiver** keeps the tally, as long as numbers last. -/
lemma tally_fresh {packets : List Packet} (hlength : packets.length < 4294967296) :
    Tally (({} : Receiver).acceptAll packets).1 (({} : Receiver).handed packets)
      (({} : Receiver).acks packets)
      ((({} : Receiver).acceptAll packets).2.map Receipt.output).flatten := by
  have hcount : ([] : List Packet).length + packets.length < 4294967296 := by simpa using hlength
  simpa using Tally.fresh.acceptAll hcount

end ReliableTransfer.Receiver
