import ReliableTransfer.Proofs.Window.Numbering
import ReliableTransfer.Window.Receiver

/-!
# What a receiver makes of a file's packets

A file travels as its pieces, each in a packet of its own, and one more packet without bytes that
ends it.  A receiver that is only ever handed packets of the file, in whatever order and however
often, has written a front part of the file at any time, and knows when it has all of it.

* `script` — the items a file is sent as.
* `Receiver.accept_cases` — what one packet brings about, whatever it is.
* **`Receiver.Follows`** — what the receiver has delivered is a front part of the file.
* `Receiver.Follows.accept` — one more packet of the file.
* `Receiver.Follows.acceptAll` — any number of them.

The last packet may have the last number there is, 4294967295.
-/

namespace ReliableTransfer

/-- The items a file with these pieces is sent as: each piece as data, and then the end. -/
def script (pieces : List Bytes) : List Item :=
  pieces.map (·, Flags.data) ++ [([], Flags.fin)]

@[simp] lemma length_script (pieces : List Bytes) :
    (script pieces).length = pieces.length + 1 := by
  simp [script]

/-- An item of a file is a piece, or the end. -/
lemma script_cases {pieces : List Bytes} {i : Nat} {item : Item}
    (h : (script pieces)[i]? = some item) :
    (∃ piece, pieces[i]? = some piece ∧ item = (piece, Flags.data)) ∨
      (i = pieces.length ∧ item = ([], Flags.fin)) := by
  have hi : i < (script pieces).length := (List.getElem?_eq_some_iff.1 h).1
  rw [length_script] at hi
  rw [script] at h
  rcases Nat.lt_or_ge i pieces.length with hlt | hge
  · rw [List.getElem?_append_left (by simpa using hlt), List.getElem?_map] at h
    obtain ⟨piece, hpiece, rfl⟩ := Option.map_eq_some_iff.1 h
    exact .inl ⟨piece, hpiece, rfl⟩
  · have heq : i = pieces.length := by omega
    subst heq
    rw [List.getElem?_append_right (by simp)] at h
    simp only [List.length_map, Nat.sub_self, List.getElem?_cons_zero, Option.some.injEq] at h
    exact .inr ⟨rfl, h.symm⟩

/-- The first pieces make up a front part of the whole. -/
lemma flatten_take_prefix (n : Nat) (pieces : List Bytes) :
    (pieces.take n).flatten <+: pieces.flatten :=
  ⟨(pieces.drop n).flatten, by rw [← List.flatten_append, List.take_append_drop]⟩

/-- A piece of the file travels as data and does not end the file. -/
lemma kind_data (seq ack : UInt32) (payload : Bytes) :
    (⟨seq, ack, Flags.data, payload⟩ : Packet).isFin = false ∧
      Receiver.contribution ⟨seq, ack, Flags.data, payload⟩ = payload :=
  ⟨(by decide : Flags.data.has Flags.fin = false),
    if_pos (by decide : Flags.data.has Flags.data = true)⟩

/-- The end of the file carries nothing. -/
lemma kind_fin (seq ack : UInt32) :
    (⟨seq, ack, Flags.fin, []⟩ : Packet).isFin = true ∧
      Receiver.contribution ⟨seq, ack, Flags.fin, []⟩ = [] :=
  ⟨(by decide : Flags.fin.has Flags.fin = true),
    if_neg (by decide : ¬ Flags.fin.has Flags.data = true)⟩

namespace Receiver

variable {pieces : List Bytes} {r : Receiver} {output : Bytes} {p : Packet}

/-- What a packet brings about for the receiver: it is of no concern, the one that is expected,
one that was expected before, or one ahead of its turn. -/
lemma accept_cases (r : Receiver) (p : Packet) :
    (p.isData = false ∧ p.isFin = false ∧ r.accept p = (r, {})) ∨
    ((p.isData = true ∨ p.isFin = true) ∧ p.seq = r.expected ∧ r.finished = false ∧
      r.accept p =
        ({ r with
            expected := r.expected + 1
            finished := p.isFin
            delivered := r.delivered + 1
            bytesWritten := r.bytesWritten + (contribution p).length },
         { ack := some r.expected, output := contribution p })) ∨
    ((p.isData = true ∨ p.isFin = true) ∧ p.seq < r.expected ∧
      r.accept p = ({ r with duplicates := r.duplicates + 1 }, { ack := some (r.expected - 1) })) ∨
    ((p.isData = true ∨ p.isFin = true) ∧ r.expected ≤ p.seq ∧
      (p.seq = r.expected → r.finished = true) ∧
      r.accept p = ({ r with outOfOrder := r.outOfOrder + 1 }, {})) := by
  by_cases hkind : (!p.isData && !p.isFin) = true
  · refine .inl ?_
    rw [Bool.and_eq_true, Bool.not_eq_true', Bool.not_eq_true'] at hkind
    exact ⟨hkind.1, hkind.2, by rw [accept, if_pos (by simp [hkind])]⟩
  · have hkind' : p.isData = true ∨ p.isFin = true := by
      cases hdata : p.isData <;> cases hfin : p.isFin <;> simp_all
    by_cases hseq : p.seq = r.expected
    · cases hfinished : r.finished with
      | false =>
          exact .inr (.inl ⟨hkind', hseq, rfl, by
            rw [accept, if_neg hkind, if_pos hseq, if_neg (by simp [hfinished])]⟩)
      | true =>
          exact .inr (.inr (.inr ⟨hkind', by rw [hseq]; exact UInt32.le_refl _, fun _ => rfl, by
            rw [accept, if_neg hkind, if_pos hseq, if_pos hfinished, hfinished]⟩))
    · by_cases hlt : p.seq < r.expected
      · exact .inr (.inr (.inl ⟨hkind', hlt, by
          rw [accept, if_neg hkind, if_neg hseq, if_pos hlt]⟩))
      · exact .inr (.inr (.inr ⟨hkind', UInt32.not_lt.1 hlt, fun h => absurd h hseq, by
          rw [accept, if_neg hkind, if_neg hseq, if_neg hlt]⟩))

/-- Only the packet that is expected is delivered. -/
lemma delivered_accept (r : Receiver) (p : Packet) :
    (r.accept p).1.delivered = r.delivered ∨
      (p.seq = r.expected ∧ (r.accept p).1.delivered = r.delivered + 1) := by
  rcases accept_cases r p with ⟨_, _, hr⟩ | ⟨_, hseq, _, hr⟩ | ⟨_, _, hr⟩ | ⟨_, _, _, hr⟩
  · exact .inl (by rw [hr])
  · exact .inr ⟨hseq, by rw [hr]⟩
  · exact .inl (by rw [hr])
  · exact .inl (by rw [hr])

/-- An acknowledgement is of the number that was delivered last. -/
lemma toNat_ack_accept (hexpected : r.expected.toNat = r.delivered) {number : UInt32}
    (hack : (r.accept p).2.ack = some number) :
    number.toNat + 1 = (r.accept p).1.delivered := by
  rcases accept_cases r p with ⟨_, _, hr⟩ | ⟨_, _, _, hr⟩ | ⟨_, hlt, hr⟩ | ⟨_, _, _, hr⟩
  · rw [hr] at hack
    cases hack
  · rw [hr] at hack ⊢
    rw [← Option.some.inj hack, hexpected]
  · rw [hr] at hack ⊢
    rw [UInt32.lt_iff_toNat_lt] at hlt
    have hlt' := r.expected.toNat_lt
    rw [← Option.some.inj hack, UInt32.toNat_sub, UInt32.toNat_one]
    show _ = r.delivered
    omega
  · rw [hr] at hack
    cases hack

/-! ## A front part of the file -/

/-- **What the receiver has delivered is a front part of the file**: its output is the first
pieces, as many as it has delivered, and it is finished exactly if it has delivered all of the
file and its end. -/
structure Follows (pieces : List Bytes) (r : Receiver) (output : Bytes) : Prop where
  delivered_le : r.delivered ≤ pieces.length + 1
  expected_eq : r.expected = UInt32.ofNat r.delivered
  finished_iff : r.finished = true ↔ r.delivered = pieces.length + 1
  output_eq : output = (pieces.take r.delivered).flatten

namespace Follows

lemma start (pieces : List Bytes) : Follows pieces {} [] :=
  ⟨Nat.zero_le _, rfl, by simp, by simp⟩

/-- A finished receiver has written the whole file. -/
lemma output_of_finished (h : Follows pieces r output) (hfinished : r.finished = true) :
    output = pieces.flatten := by
  rw [h.output_eq, h.finished_iff.1 hfinished, List.take_of_length_le (Nat.le_succ _)]

lemma output_prefix (h : Follows pieces r output) : output <+: pieces.flatten :=
  h.output_eq ▸ flatten_take_prefix r.delivered pieces

/-- **One more packet of the file** keeps the receiver following it. -/
lemma accept (h : Follows pieces r output) (hlength : pieces.length < 4294967296)
    (hp : p ∈ numbered (script pieces)) :
    Follows pieces (r.accept p).1 (output ++ (r.accept p).2.output) := by
  rcases accept_cases r p with ⟨_, _, hr⟩ | ⟨_, hseq, hunfinished, hr⟩ | ⟨_, _, hr⟩ | ⟨_, _, _, hr⟩
  · rw [hr, List.append_nil]
    exact h
  · -- the packet that is expected is the one behind those delivered
    have hdelivered : r.delivered < pieces.length + 1 := by
      refine Nat.lt_of_le_of_ne h.delivered_le fun heq => ?_
      rw [h.finished_iff.2 heq] at hunfinished
      cases hunfinished
    obtain ⟨i, item, hitem, rfl⟩ := mem_numbered.1 hp
    have hi : i < pieces.length + 1 := by
      rw [← length_script]
      exact (List.getElem?_eq_some_iff.1 hitem).1
    have heq : i = r.delivered := by
      have htoNat := congrArg UInt32.toNat (hseq.trans h.expected_eq)
      rwa [toNat_ofNat_of_lt (by omega), toNat_ofNat_of_lt (by omega)] at htoNat
    subst heq
    have hexpected : r.expected + 1 = UInt32.ofNat (r.delivered + 1) := by
      rw [h.expected_eq, UInt32.ofNat_add]
      rfl
    rcases script_cases hitem with ⟨piece, hpiece, rfl⟩ | ⟨hend, rfl⟩
    · have hlt : r.delivered < pieces.length := (List.getElem?_eq_some_iff.1 hpiece).1
      obtain ⟨hfin, hcontribution⟩ := kind_data (UInt32.ofNat r.delivered) 0 piece
      rw [hr, hfin, hcontribution]
      refine ⟨hdelivered, hexpected, ?_, ?_⟩
      · simp only [Bool.false_eq_true, false_iff]
        omega
      · rw [h.output_eq, List.take_add_one, hpiece, List.flatten_append]
        simp
    · obtain ⟨hfin, hcontribution⟩ := kind_fin (UInt32.ofNat r.delivered) 0
      rw [hr, hfin, hcontribution]
      refine ⟨hdelivered, hexpected, ?_, ?_⟩
      · simp only [true_iff]
        omega
      · rw [List.append_nil, h.output_eq, hend, List.take_of_length_le (Nat.le_succ _),
          List.take_length]
  · rw [hr, List.append_nil]
    exact ⟨h.delivered_le, h.expected_eq, h.finished_iff, h.output_eq⟩
  · rw [hr, List.append_nil]
    exact ⟨h.delivered_le, h.expected_eq, h.finished_iff, h.output_eq⟩

/-- The packet behind those delivered is delivered and acknowledged. -/
lemma accept_next (h : Follows pieces r output)
    (hp : (numbered (script pieces))[r.delivered]? = some p) :
    (r.accept p).1.delivered = r.delivered + 1 ∧
      (r.accept p).2.ack = some (UInt32.ofNat r.delivered) := by
  rw [numbered, getElem?_numberedFrom, Nat.zero_add, Option.map_eq_some_iff] at hp
  obtain ⟨item, hitem, rfl⟩ := hp
  have hdelivered : r.delivered < pieces.length + 1 := by
    rw [← length_script]
    exact (List.getElem?_eq_some_iff.1 hitem).1
  have hkind : item.2.has Flags.data = true ∨ item.2.has Flags.fin = true := by
    rcases script_cases hitem with ⟨piece, _, rfl⟩ | ⟨_, rfl⟩
    · exact .inl (by decide : Flags.data.has Flags.data = true)
    · exact .inr (by decide : Flags.fin.has Flags.fin = true)
  rcases accept_cases r ⟨UInt32.ofNat r.delivered, 0, item.2, item.1⟩ with
    ⟨hdata, hfin, _⟩ | ⟨_, _, _, hr⟩ | ⟨_, hlt, _⟩ | ⟨_, _, hfinished, _⟩
  · rcases hkind with hkind | hkind
    · exact absurd (hdata.symm.trans hkind) Bool.false_ne_true
    · exact absurd (hfin.symm.trans hkind) Bool.false_ne_true
  · rw [hr]
    exact ⟨rfl, congrArg some h.expected_eq⟩
  · rw [h.expected_eq] at hlt
    exact absurd hlt (UInt32.lt_irrefl _)
  · have hall := h.finished_iff.1 (hfinished h.expected_eq.symm)
    omega

/-- **Any number of packets of the file** keeps the receiver following it. -/
lemma acceptAll (h : Follows pieces r output) (hlength : pieces.length < 4294967296)
    {packets : List Packet} (hpackets : packets ⊆ numbered (script pieces)) :
    Follows pieces (r.acceptAll packets).1
      (output ++ ((r.acceptAll packets).2.map Receipt.output).flatten) := by
  induction packets generalizing r output with
  | nil =>
      show Follows pieces r (output ++ [])
      rw [List.append_nil]
      exact h
  | cons p rest ih =>
      have hp : p ∈ numbered (script pieces) := hpackets List.mem_cons_self
      have hrest := ih (h.accept hlength hp) fun q hq => hpackets (List.mem_cons_of_mem p hq)
      rw [List.append_assoc] at hrest
      exact hrest

end Follows

end Receiver

end ReliableTransfer
