import ReliableTransfer.Proofs.Window.Handing

/-!
# The packets that come in their turn

Whatever comes to a receiver, in whatever order and with whatever flags: it delivers the first
packet with number zero, the first after it with number one, and so on, up to the first of these
that ends the file.  Everything else it only counts, and whatever it has delivered it acknowledges.

* `inTurn` — the packets that come in their turn.
* `Receiver.Takes` — what a receiver has made of the packets that came in their turn.
* `Receiver.takes_acceptAll` — it takes no others, whatever else it is given.
* `Receiver.count_accept`, `Receiver.ack_accept` — what one packet counts as, and its answer.
* **`Receiver.delivers_in_turn`** — the whole, for a fresh receiver.
-/

namespace ReliableTransfer

/-- Whether a packet concerns a receiver. -/
def Packet.concerns (p : Packet) : Bool :=
  p.isData || p.isFin

/-- **The packets that come in their turn**: the first that concerns the receiver and has the number
`n`, the first after it with the number `n + 1`, and so on, up to the first that ends the file. -/
def inTurn (n : Nat) : List Packet → List Packet
  | [] => []
  | p :: rest =>
    if p.concerns ∧ p.seq.toNat = n then
      if p.isFin then [p] else p :: inTurn (n + 1) rest
    else inTurn n rest

namespace Receiver

variable {r : Receiver} {p : Packet} {packets : List Packet}

/-- A packet of no concern has no turn, nor has one with another number. -/
lemma inTurn_cons_of_not {n : Nat} (h : p.concerns = true → p.seq.toNat ≠ n) :
    inTurn n (p :: packets) = inTurn n packets := by
  rw [inTurn, if_neg]
  exact fun hturn => h hturn.1 hturn.2

lemma inTurn_cons {n : Nat} (hconcerns : p.concerns = true) (hseq : p.seq.toNat = n) :
    inTurn n (p :: packets) = if p.isFin then [p] else p :: inTurn (n + 1) packets := by
  rw [inTurn, if_pos ⟨hconcerns, hseq⟩]

lemma concerns_iff : p.concerns = true ↔ p.isData = true ∨ p.isFin = true := by
  rw [Packet.concerns, Bool.or_eq_true]

/-- A delivered packet stays delivered. -/
lemma delivered_le_acceptAll (r : Receiver) (packets : List Packet) :
    r.delivered ≤ (r.acceptAll packets).1.delivered := by
  induction packets generalizing r with
  | nil => exact Nat.le_refl _
  | cons p rest ih =>
      refine Nat.le_trans ?_ (ih (r.accept p).1)
      rcases delivered_accept r p with h | ⟨_, h⟩ <;> omega

/-- Nothing is delivered behind the end of the file. -/
lemma acceptAll_of_finished (hfinished : r.finished = true) (packets : List Packet) :
    (r.acceptAll packets).1.delivered = r.delivered ∧
      (r.acceptAll packets).1.expected = r.expected ∧
      (r.acceptAll packets).1.finished = true ∧
      ((r.acceptAll packets).2.map Receipt.output).flatten = [] := by
  induction packets generalizing r with
  | nil => exact ⟨rfl, rfl, hfinished, rfl⟩
  | cons p rest ih =>
      have hone : (r.accept p).1.delivered = r.delivered ∧
          (r.accept p).1.expected = r.expected ∧ (r.accept p).1.finished = true ∧
          (r.accept p).2.output = [] := by
        rcases accept_cases r p with ⟨_, _, hr⟩ | ⟨_, _, hunfinished, _⟩ | ⟨_, _, hr⟩ |
          ⟨_, _, _, hr⟩
        · rw [hr]
          exact ⟨rfl, rfl, hfinished, rfl⟩
        · rw [hfinished] at hunfinished
          cases hunfinished
        · rw [hr]
          exact ⟨rfl, rfl, hfinished, rfl⟩
        · rw [hr]
          exact ⟨rfl, rfl, hfinished, rfl⟩
      obtain ⟨hdelivered, hexpected, hfinished', houtput⟩ := hone
      obtain ⟨hdelivered', hexpected', hfinished'', houtput'⟩ := ih hfinished'
      refine ⟨hdelivered'.trans hdelivered, hexpected'.trans hexpected, hfinished'', ?_⟩
      rw [acceptAll, List.map_cons, List.flatten_cons, houtput, houtput']
      rfl

/-! ## What is delivered -/

/-- **What a receiver has made of the packets it has taken**: it has delivered them and expects the
next, has written what they carry, and is finished if the last of them ends the file. -/
structure Takes (r : Receiver) (taken : List Packet) (r' : Receiver) (output : Bytes) : Prop where
  delivered_eq : r'.delivered = r.delivered + taken.length
  expected_eq : r'.expected.toNat = r'.delivered
  output_eq : output = taken.flatMap contribution
  finished_iff : r'.finished = true ↔ ∃ p, taken.getLast? = some p ∧ p.isFin = true

/-- A receiver that has taken nothing. -/
lemma Takes.nothing (hexpected : r.expected.toNat = r.delivered) (hfinished : r.finished = false) :
    Takes r [] r [] :=
  ⟨rfl, hexpected, rfl, by rw [hfinished]; simp⟩

/-- The first packet that is taken does not end the file, and the others follow. -/
lemma Takes.cons {r₁ r' : Receiver} {taken : List Packet} {output : Bytes}
    (ht : Takes r₁ taken r' output) (hdelivered : r₁.delivered = r.delivered + 1)
    (hfin : p.isFin = false) :
    Takes r (p :: taken) r' (contribution p ++ output) := by
  refine ⟨?_, ht.expected_eq, ?_, ?_⟩
  · rw [ht.delivered_eq, hdelivered, List.length_cons]
    omega
  · rw [ht.output_eq, List.flatMap_cons]
  · rw [ht.finished_iff]
    cases taken with
    | nil => simp [hfin]
    | cons q rest => rw [List.getLast?_cons_cons]

/-- **Only what comes in its turn is taken**, whatever else there is between, as long as the numbers
last. -/
lemma takes_acceptAll (hexpected : r.expected.toNat = r.delivered)
    (hunfinished : r.finished = false) (hcount : (r.acceptAll packets).1.delivered < 4294967296) :
    Takes r (inTurn r.delivered packets) (r.acceptAll packets).1
      ((r.acceptAll packets).2.map Receipt.output).flatten := by
  induction packets generalizing r with
  | nil => exact .nothing hexpected hunfinished
  | cons p rest ih =>
      have hle : (r.accept p).1.delivered < 4294967296 :=
        Nat.lt_of_le_of_lt (delivered_le_acceptAll (r.accept p).1 rest) hcount
      rw [acceptAll, List.map_cons, List.flatten_cons]
      -- a packet that is passed over is counted, and the rest is taken as without it
      have skip : (p.concerns = true → p.seq.toNat ≠ r.delivered) →
          ∀ duplicates outOfOrder ack,
            r.accept p = ({ r with duplicates, outOfOrder }, { ack, output := [] }) →
            Takes r (inTurn r.delivered (p :: rest)) ((r.accept p).1.acceptAll rest).1
              ((r.accept p).2.output
                ++ (((r.accept p).1.acceptAll rest).2.map Receipt.output).flatten) := by
        intro hnot duplicates outOfOrder ack hr
        rw [acceptAll] at hcount
        rw [inTurn_cons_of_not hnot]
        rw [hr] at hcount ⊢
        have ht := ih (r := { r with duplicates, outOfOrder }) hexpected hunfinished hcount
        exact ⟨ht.delivered_eq, ht.expected_eq, ht.output_eq, ht.finished_iff⟩
      rcases accept_cases r p with
        ⟨hdata, hfin, hr⟩ | ⟨hkind, hseq, _, hr⟩ | ⟨_, hlt, hr⟩ | ⟨_, hle', hseq, hr⟩
      · refine skip (fun hconcerns => ?_) r.duplicates r.outOfOrder none hr
        rcases concerns_iff.1 hconcerns with h | h
        · rw [hdata] at h
          cases h
        · rw [hfin] at h
          cases h
      · have hturn : p.seq.toNat = r.delivered := by rw [hseq, hexpected]
        have hnext : (r.accept p).1.expected.toNat = (r.accept p).1.delivered := by
          rw [hr] at hle ⊢
          rw [UInt32.toNat_add, UInt32.toNat_one, hexpected]
          exact Nat.mod_eq_of_lt hle
        rw [inTurn_cons (concerns_iff.2 hkind) hturn]
        have houtput : (r.accept p).2.output = contribution p := by rw [hr]
        have hdelivered : (r.accept p).1.delivered = r.delivered + 1 := by rw [hr]
        have hfinished : (r.accept p).1.finished = p.isFin := by rw [hr]
        cases hfin : p.isFin with
        | true =>
            -- nothing follows the end of the file
            obtain ⟨hsame, hsame', hend, hempty⟩ :=
              acceptAll_of_finished (hfinished.trans hfin) rest
            rw [houtput, hempty, List.append_nil, if_pos rfl]
            refine ⟨?_, ?_, ?_, ?_⟩
            · rw [hsame, hdelivered]
              rfl
            · rw [hsame, hsame', hnext]
            · rw [List.flatMap_singleton]
            · rw [hend]
              simp [hfin]
        | false =>
            have ht := ih (r := (r.accept p).1) hnext (hfinished.trans hfin) hcount
            rw [houtput, if_neg Bool.false_ne_true, ← hdelivered]
            exact ht.cons hdelivered hfin
      · rw [UInt32.lt_iff_toNat_lt] at hlt
        exact skip (fun _ => by omega) _ r.outOfOrder _ hr
      · refine skip (fun _ hsame => ?_) r.duplicates _ none hr
        have hfinished := hseq (UInt32.toNat_inj.1 (hsame.trans hexpected.symm))
        rw [hunfinished] at hfinished
        cases hfinished

/-! ## What one packet brings about -/

/-- **A packet that concerns the receiver counts once**, as delivered, as a duplicate or as out of
order; any other leaves everything as it is. -/
lemma count_accept (r : Receiver) (p : Packet) :
    (p.concerns = true → (((r.accept p).1.delivered, (r.accept p).1.duplicates,
      (r.accept p).1.outOfOrder) ∈ [(r.delivered + 1, r.duplicates, r.outOfOrder),
        (r.delivered, r.duplicates + 1, r.outOfOrder),
        (r.delivered, r.duplicates, r.outOfOrder + 1)])) ∧
    (p.concerns = false → r.accept p = (r, {})) := by
  have hnot : p.concerns = false → ¬(p.isData = true ∨ p.isFin = true) := fun h h' => by
    rw [concerns_iff.2 h'] at h
    cases h
  rcases accept_cases r p with ⟨hdata, hfin, hr⟩ | ⟨hkind, _, _, hr⟩ | ⟨hkind, _, hr⟩ |
    ⟨hkind, _, _, hr⟩
  · refine ⟨fun h => ?_, fun _ => hr⟩
    rw [Packet.concerns, hdata, hfin] at h
    cases h
  · refine ⟨fun _ => ?_, fun h => absurd hkind (hnot h)⟩
    rw [hr]
    exact List.mem_cons_self
  · refine ⟨fun _ => ?_, fun h => absurd hkind (hnot h)⟩
    rw [hr]
    exact List.mem_cons_of_mem _ List.mem_cons_self
  · refine ⟨fun _ => ?_, fun h => absurd hkind (hnot h)⟩
    rw [hr]
    exact List.mem_cons_of_mem _ (List.mem_cons_of_mem _ List.mem_cons_self)

/-- **A packet is acknowledged** if it concerns the receiver and has been delivered by then, now or
before, and the acknowledgement is of the last that was. -/
lemma ack_accept (hexpected : r.expected.toNat = r.delivered)
    (hcount : (r.accept p).1.delivered < 4294967296) :
    (r.accept p).2.ack
      = if p.concerns = true ∧ p.seq < (r.accept p).1.expected
        then some ((r.accept p).1.expected - 1) else none := by
  rcases accept_cases r p with ⟨hdata, hfin, hr⟩ | ⟨hkind, hseq, _, hr⟩ | ⟨hkind, hlt, hr⟩ |
    ⟨_, hle, _, hr⟩
  · rw [hr, if_neg]
    rintro ⟨hconcerns, _⟩
    rw [Packet.concerns, hdata, hfin] at hconcerns
    cases hconcerns
  · rw [hr] at hcount ⊢
    have hlt : p.seq < r.expected + 1 := by
      rw [hseq, UInt32.lt_iff_toNat_lt, UInt32.toNat_add, UInt32.toNat_one]
      dsimp only at hcount
      omega
    rw [if_pos ⟨concerns_iff.2 hkind, hlt⟩]
    exact congrArg some (UInt32.add_sub_cancel _ _).symm
  · rw [hr, if_pos ⟨concerns_iff.2 hkind, hlt⟩]
  · rw [hr, if_neg]
    exact fun h => absurd h.2 (UInt32.not_lt.2 hle)

/-! ## A fresh receiver -/

/-- What is taken is written as far as it carries data. -/
lemma flatMap_contribution (taken : List Packet) :
    taken.flatMap contribution = (taken.filter Packet.isData).flatMap Packet.payload := by
  induction taken with
  | nil => rfl
  | cons p rest ih =>
      rw [List.flatMap_cons, ih, contribution]
      cases hdata : p.isData with
      | true => rw [List.filter_cons_of_pos hdata, List.flatMap_cons, if_pos rfl]
      | false =>
          rw [List.filter_cons_of_neg (by rw [hdata]; exact Bool.false_ne_true),
            if_neg Bool.false_ne_true, List.nil_append]

/-- **A fresh receiver delivers what comes in its turn**, whatever packets it is given, as long as
fewer than 4294967296 are delivered.  It has delivered these packets and no others, expects the
next, has written what those of them that carry data carry, and has finished if and only if the last
of them ends the file.  Each packet that concerns it counts once, and any other leaves everything as
it is.  A packet is acknowledged if and only if it concerns the receiver and its number is below the
one that is expected then, and what is acknowledged is the number before that. -/
theorem delivers_in_turn (hcount : (({} : Receiver).acceptAll packets).1.delivered < 4294967296) :
    (({} : Receiver).acceptAll packets).1.expected.toNat = (inTurn 0 packets).length ∧
    (({} : Receiver).acceptAll packets).1.delivered = (inTurn 0 packets).length ∧
    ((({} : Receiver).acceptAll packets).2.map Receipt.output).flatten
      = ((inTurn 0 packets).filter Packet.isData).flatMap Packet.payload ∧
    (({} : Receiver).acceptAll packets).1.bytesWritten
      = (((inTurn 0 packets).filter Packet.isData).flatMap Packet.payload).length ∧
    ((({} : Receiver).acceptAll packets).1.finished = true ↔
      ∃ p, (inTurn 0 packets).getLast? = some p ∧ p.isFin = true) ∧
    ∀ before p after, packets = before ++ p :: after →
      ∃ r r' receipt, r = (({} : Receiver).acceptAll before).1 ∧
        r' = (({} : Receiver).acceptAll (before ++ [p])).1 ∧
        (({} : Receiver).acceptAll packets).2[before.length]? = some receipt ∧
        (p.concerns = true → (r'.delivered, r'.duplicates, r'.outOfOrder)
          ∈ [(r.delivered + 1, r.duplicates, r.outOfOrder),
            (r.delivered, r.duplicates + 1, r.outOfOrder),
            (r.delivered, r.duplicates, r.outOfOrder + 1)]) ∧
        (p.concerns = false → r' = r ∧ receipt = {}) ∧
        receipt.ack = if p.concerns = true ∧ p.seq < r'.expected then some (r'.expected - 1)
          else none := by
  have ht := takes_acceptAll (r := {}) rfl rfl hcount
  have hdelivered := ht.delivered_eq.trans (Nat.zero_add _)
  have houtput := ht.output_eq.trans (flatMap_contribution _)
  refine ⟨ht.expected_eq.trans hdelivered, hdelivered, houtput, ?_, ht.finished_iff, ?_⟩
  · rw [bytesWritten_acceptAll, houtput]
    exact Nat.zero_add _
  · rintro before p after rfl
    have hall := acceptAll_append {} before (p :: after)
    rw [hall] at hcount
    have hmiddle : ((({} : Receiver).acceptAll before).1.accept p).1.delivered < 4294967296 :=
      Nat.lt_of_le_of_lt (delivered_le_acceptAll _ after) hcount
    have hbefore : (({} : Receiver).acceptAll before).1.delivered < 4294967296 :=
      Nat.lt_of_le_of_lt (delivered_le_acceptAll _ (p :: after)) hcount
    have hexpected := (takes_acceptAll (r := {}) rfl rfl hbefore).expected_eq
    obtain ⟨hcounts, hnothing⟩ := count_accept (({} : Receiver).acceptAll before).1 p
    refine ⟨_, ((({} : Receiver).acceptAll before).1.accept p).1,
      ((({} : Receiver).acceptAll before).1.accept p).2, rfl,
      (congrArg Prod.fst (acceptAll_append {} before [p])).symm, ?_, hcounts, fun h => ?_,
      ack_accept hexpected hmiddle⟩
    · rw [hall, List.getElem?_append_right (Nat.le_of_eq (length_acceptAll _ _)),
        length_acceptAll, Nat.sub_self]
      rfl
    · rw [hnothing h]
      exact ⟨rfl, rfl⟩

/-- A packet ahead of its turn, one that also acknowledges, a duplicate, an acknowledgement, the end
of the file with a payload of its own, and more behind it. -/
def unrulyPackets : List Packet :=
  [⟨1, 0, Flags.data, [9]⟩, ⟨0, 7, Flags.data ||| Flags.ack, [1, 2]⟩, ⟨0, 0, Flags.data, [5]⟩,
    ⟨1, 0, Flags.ack, []⟩, ⟨1, 0, Flags.fin, [8]⟩, ⟨2, 0, Flags.data, [3]⟩, ⟨1, 0, Flags.fin, []⟩]

/-- Two of them are in turn, and only the payload of the first is kept. -/
theorem delivers_in_turn_unruly :
    (({} : Receiver).acceptAll unrulyPackets).1.delivered < 4294967296 ∧
    inTurn 0 unrulyPackets = [⟨0, 7, Flags.data ||| Flags.ack, [1, 2]⟩, ⟨1, 0, Flags.fin, [8]⟩] ∧
    (({} : Receiver).acceptAll unrulyPackets).1.expected.toNat = 2 ∧
    ((({} : Receiver).acceptAll unrulyPackets).2.map Receipt.output).flatten = [1, 2] ∧
    (({} : Receiver).acceptAll unrulyPackets).1.finished = true := by
  have hcount : (({} : Receiver).acceptAll unrulyPackets).1.delivered < 4294967296 := by decide
  have hturn : inTurn 0 unrulyPackets
      = [⟨0, 7, Flags.data ||| Flags.ack, [1, 2]⟩, ⟨1, 0, Flags.fin, [8]⟩] := by decide
  obtain ⟨hexpected, _, houtput, _, hfinished, _⟩ := delivers_in_turn hcount
  rw [hturn] at hexpected houtput hfinished
  exact ⟨hcount, hturn, hexpected, houtput, hfinished.2 ⟨⟨1, 0, Flags.fin, [8]⟩, rfl, by decide⟩⟩

end Receiver

end ReliableTransfer
