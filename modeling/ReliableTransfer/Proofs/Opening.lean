import ReliableTransfer.Proofs.Posting

/-!
# Opening and closing an endpoint

Opening and closing touch the sockets of a machine and the records it keeps, and nothing else.

* `Host.Rewired` — a machine that differs from another only in that.
* **`Endpoint.attach_eq`** — what opening does; if it works, the endpoint has an open socket.
* **`Endpoint.receiveTimeout_attach`** — how long the reads of that socket wait.
* **`Endpoint.detach_eq`** — what closing does.
* **`Endpoint.attach_of_arrivals`** — opening does not depend on what is still to arrive.
-/

namespace ReliableTransfer

/-- The second machine is the first with other sockets and other records of opening and closing. -/
def Host.Rewired (h h' : Host) : Prop :=
  ∃ nextDescriptor sockets calls notices, h' = { h with nextDescriptor, sockets, calls, notices }

/-- The descriptors of the open sockets. -/
def Host.descriptors (h : Host) : List Nat :=
  h.sockets.map Socket.descriptor

lemma Host.isSome_socket? {h : Host} {descriptor : Nat} :
    (h.socket? descriptor).isSome = true ↔ descriptor ∈ h.descriptors := by
  rw [Host.socket?, List.find?_isSome, Host.descriptors, List.mem_map]
  simp only [beq_iff_eq]

/-! ## The steps -/

namespace Host.Rewired

variable {h h' h'' : Host}

lemma refl (h : Host) : Rewired h h :=
  ⟨_, _, _, _, rfl⟩

lemma trans (first : Rewired h h') (second : Rewired h' h'') : Rewired h h'' := by
  obtain ⟨_, _, _, _, rfl⟩ := first
  obtain ⟨nextDescriptor, sockets, calls, notices, rfl⟩ := second
  exact ⟨nextDescriptor, sockets, calls, notices, rfl⟩

lemma note (h : Host) (n : Notice) : Rewired h (h.note n) :=
  ⟨_, _, _, _, rfl⟩

lemma noteIf (h : Host) (condition : Bool) (n : Notice) : Rewired h (h.noteIf condition n) := by
  rw [Host.noteIf]
  split_ifs
  · exact note h n
  · exact refl h

lemma close (h : Host) (descriptor : Nat) : Rewired h (h.close descriptor) := by
  rw [Host.close]
  split
  · exact ⟨_, _, _, _, rfl⟩
  · exact refl h

lemma now_eq (hr : Rewired h h') : h'.now = h.now := by
  obtain ⟨_, _, _, _, rfl⟩ := hr
  rfl

lemma printed_eq (hr : Rewired h h') : h'.printed = h.printed := by
  obtain ⟨_, _, _, _, rfl⟩ := hr
  rfl

lemma sent_eq (hr : Rewired h h') : h'.sent = h.sent := by
  obtain ⟨_, _, _, _, rfl⟩ := hr
  rfl

lemma files_eq (hr : Rewired h h') : h'.files = h.files := by
  obtain ⟨_, _, _, _, rfl⟩ := hr
  rfl

lemma arrivals_eq (hr : Rewired h h') : h'.arrivals = h.arrivals := by
  obtain ⟨_, _, _, _, rfl⟩ := hr
  rfl

end Host.Rewired

namespace Host

variable (h : Host) (descriptor : Nat)

lemma setHeaderIncluded_eq : ∃ outcome h', h.setHeaderIncluded descriptor = (outcome, h') ∧
    h.Rewired h' ∧ h'.descriptors = h.descriptors := by
  rw [setHeaderIncluded]
  split
  · exact ⟨_, _, rfl, ⟨_, _, _, _, rfl⟩, rfl⟩
  · exact ⟨_, _, rfl, ⟨_, _, _, _, rfl⟩, rfl⟩

lemma bind_eq (address : Ipv4.Address) (port : UInt16) :
    ∃ outcome h', h.bind descriptor address port = (outcome, h') ∧
      h.Rewired h' ∧ h'.descriptors = h.descriptors := by
  rw [bind]
  split
  · exact ⟨_, _, rfl, ⟨_, _, _, _, rfl⟩, rfl⟩
  · exact ⟨_, _, rfl, ⟨_, _, _, _, rfl⟩, rfl⟩

lemma setReceiveTimeout_eq (timeout : Int) :
    ∃ outcome h', h.setReceiveTimeout descriptor timeout = (outcome, h') ∧
      h.Rewired h' ∧ h'.descriptors = h.descriptors := by
  rw [setReceiveTimeout]
  dsimp only
  split
  · exact ⟨_, _, rfl, ⟨_, _, _, _, rfl⟩, rfl⟩
  · refine ⟨_, _, rfl, ⟨_, _, _, _, rfl⟩, ?_⟩
    show List.map _ (List.map _ h.sockets) = h.sockets.map Socket.descriptor
    rw [List.map_map]
    refine List.map_congr_left fun s _ => ?_
    rw [Function.comp_apply]
    split_ifs <;> rfl

end Host

/-! ## The whole -/

namespace Endpoint

/-- Preparing a socket, whether or not it works, leaves it open. -/
lemma prepare_eq (e : Endpoint) (descriptor : Nat) (timeout : Int) (h : Host) :
    ∃ ok h', e.prepare descriptor timeout h = (ok, h') ∧ h.Rewired h' ∧
      h'.descriptors = h.descriptors := by
  rw [prepare]
  obtain ⟨outcome, h₁, hset, hrewired, hsame⟩ := h.setHeaderIncluded_eq descriptor
  rw [hset]
  rcases outcome with cause | _
  · exact ⟨_, _, rfl, hrewired.trans (.note h₁ _), hsame⟩
  · cases Ipv4.Address.parse? e.address with
    | none => exact ⟨_, _, rfl, hrewired.trans (.note h₁ _), hsame⟩
    | some address =>
        obtain ⟨outcome, h₂, hbind, hrewired', hsame'⟩ := h₁.bind_eq descriptor address e.port
        simp only [hbind]
        rcases outcome with cause | _
        · exact ⟨_, _, rfl, (hrewired.trans hrewired').trans (.note h₂ _), hsame'.trans hsame⟩
        · obtain ⟨outcome, h₃, htimeout, hrewired'', hsame''⟩ :=
            h₂.setReceiveTimeout_eq descriptor timeout
          have hall := (hrewired.trans hrewired').trans hrewired''
          have hsames := (hsame''.trans hsame').trans hsame
          simp only [htimeout]
          rcases outcome with cause | _
          · exact ⟨_, _, rfl, hall.trans (.note h₃ _), hsames⟩
          · exact ⟨_, _, rfl, hall, hsames⟩

/-- **Opening**: if it works, the endpoint has a socket that is open. -/
lemma attach_eq (e : Endpoint) (timeout : Int) (h : Host) :
    ∃ ok descriptor h', e.attach timeout h = (ok, { e with descriptor }, h') ∧ h.Rewired h' ∧
      (ok = true → ({ e with descriptor } : Endpoint).Open h') := by
  rw [attach, Host.socket]
  cases h.stepFault? .socket with
  | some cause =>
      exact ⟨false, none, _, rfl, Host.Rewired.trans ⟨_, _, _, _, rfl⟩ (.noteIf _ _ _),
        Bool.noConfusion⟩
  | none =>
      obtain ⟨ok, h', hprepare, hrewired, hsame⟩ := e.prepare_eq h.nextDescriptor timeout
        { h.record (.opened h.nextDescriptor) with
          nextDescriptor := h.nextDescriptor + 1
          sockets := h.sockets ++ [⟨h.nextDescriptor, none⟩] }
      dsimp only
      rw [hprepare]
      refine ⟨ok, _, h', rfl, Host.Rewired.trans ⟨_, _, _, _, rfl⟩ hrewired, fun _ => ?_⟩
      show (h'.socket? h.nextDescriptor).isSome = true
      rw [Host.isSome_socket?, hsame, Host.descriptors, List.map_append]
      exact List.mem_append_right _ (List.mem_singleton_self _)

/-- An endpoint that could be opened has a local address. -/
lemma exists_address_of_attach {e : Endpoint} {timeout : Int} {h : Host}
    (hattach : (e.attach timeout h).1 = true) : ∃ a, Ipv4.Address.parse? e.address = some a := by
  cases haddress : Ipv4.Address.parse? e.address with
  | some a => exact ⟨a, rfl⟩
  | none =>
      have hfails : ∀ descriptor h', (e.prepare descriptor timeout h').1 = false := by
        intro descriptor h'
        rw [prepare]
        split
        · rfl
        · simp only [haddress]
      rw [attach] at hattach
      split at hattach
      · cases hattach
      · rw [hfails] at hattach
        cases hattach

/-- Preparing a socket works only if its timeout could be set. -/
lemma exists_setReceiveTimeout_of_prepare {e : Endpoint} {descriptor : Nat} {timeout : Int}
    {h h' : Host} (hprepare : e.prepare descriptor timeout h = (true, h')) :
    ∃ h₁ : Host, h₁.setReceiveTimeout descriptor timeout = (.ok (), h') := by
  rw [prepare] at hprepare
  split at hprepare
  · cases hprepare
  · split at hprepare
    · cases hprepare
    · split at hprepare
      · cases hprepare
      · split at hprepare
        · cases hprepare
        · rename_i hset
          obtain rfl := congrArg Prod.snd hprepare
          exact ⟨_, hset⟩

/-- All sockets with the descriptor have the timeout then. -/
lemma receiveTimeout_of_setReceiveTimeout {h h' : Host} {descriptor : Nat} {timeout : Int}
    (hset : h.setReceiveTimeout descriptor timeout = (.ok (), h')) {s : Socket}
    (hs : s ∈ h'.sockets) (hdescriptor : (s.descriptor == descriptor) = true) :
    s.receiveTimeout = if timeout = 0 then none else some timeout := by
  rw [Host.setReceiveTimeout] at hset
  dsimp only at hset
  split at hset
  · cases hset
  · obtain rfl := congrArg Prod.snd hset
    obtain ⟨s₀, _, rfl⟩ := List.mem_map.1 hs
    by_cases hsame : (s₀.descriptor == descriptor) = true
    · rw [if_pos hsame]
    · rw [if_neg hsame] at hdescriptor
      exact absurd hdescriptor hsame

/-- **How long reads wait** at an endpoint that could be opened. -/
lemma receiveTimeout_attach {e e' : Endpoint} {timeout : Int} {h h' : Host}
    (hattach : e.attach timeout h = (true, e', h')) :
    (e'.descriptor.bind h'.socket?).map Socket.receiveTimeout
      = some (if timeout = 0 then none else some timeout) := by
  obtain ⟨ok, descriptor, h'', hattach', _, hopen⟩ := e.attach_eq timeout h
  rw [hattach] at hattach'
  obtain ⟨rfl, rfl, rfl⟩ : true = ok ∧ e' = { e with descriptor } ∧ h' = h'' := by
    simpa only [Prod.mk.injEq] using hattach'
  obtain ⟨socket, hsocket⟩ := Option.isSome_iff_exists.1 (hopen rfl)
  rw [attach] at hattach
  split at hattach
  · cases hattach
  · rename_i descriptor' h₀ _
    obtain ⟨hprepare, rfl⟩ : e.prepare descriptor' timeout h₀ = (true, h') ∧
        some descriptor' = descriptor := by
      simp only [Prod.mk.injEq, mk.injEq] at hattach
      exact ⟨Prod.ext hattach.1 hattach.2.2, hattach.2.1.2.2.1⟩
    obtain ⟨h₁, hset⟩ := exists_setReceiveTimeout_of_prepare hprepare
    rw [hsocket, Option.map_some]
    exact congrArg some (receiveTimeout_of_setReceiveTimeout hset
      (List.mem_of_find?_eq_some hsocket)
      (List.find?_some (p := fun s : Socket => s.descriptor == descriptor') hsocket))

/-- **Closing** leaves the endpoint without a socket. -/
lemma detach_eq (e : Endpoint) (h : Host) :
    ∃ h', e.detach h = ({ e with descriptor := none }, h') ∧ h.Rewired h' := by
  obtain ⟨address, port, descriptor, corrupted⟩ := e
  cases descriptor with
  | none => exact ⟨h, rfl, .refl h⟩
  | some descriptor => exact ⟨_, rfl, .close h descriptor⟩

end Endpoint

/-! ## What is still to arrive

Opening does not depend on it and leaves it alone. -/

section Arrivals

variable (arrivals : List Arrival) (h : Host) (descriptor : Nat)

lemma Host.setHeaderIncluded_of_arrivals :
    ∃ outcome h', h.setHeaderIncluded descriptor = (outcome, h') ∧
      ({ h with arrivals } : Host).setHeaderIncluded descriptor
        = (outcome, { h' with arrivals }) := by
  rw [setHeaderIncluded, setHeaderIncluded]
  rw [show ({ h with arrivals } : Host).stepFault? = h.stepFault? from rfl]
  cases h.stepFault? .headerIncluded <;> exact ⟨_, _, rfl, rfl⟩

lemma Host.bind_of_arrivals (address : Ipv4.Address) (port : UInt16) :
    ∃ outcome h', h.bind descriptor address port = (outcome, h') ∧
      ({ h with arrivals } : Host).bind descriptor address port
        = (outcome, { h' with arrivals }) := by
  rw [bind, bind]
  rw [show ({ h with arrivals } : Host).stepFault? = h.stepFault? from rfl]
  cases h.stepFault? .bind <;> exact ⟨_, _, rfl, rfl⟩

lemma Host.setReceiveTimeout_of_arrivals (timeout : Int) :
    ∃ outcome h', h.setReceiveTimeout descriptor timeout = (outcome, h') ∧
      ({ h with arrivals } : Host).setReceiveTimeout descriptor timeout
        = (outcome, { h' with arrivals }) := by
  rw [setReceiveTimeout, setReceiveTimeout]
  rw [show ({ h with arrivals } : Host).stepFault? = h.stepFault? from rfl]
  cases h.stepFault? .receiveTimeout <;> exact ⟨_, _, rfl, rfl⟩

lemma Endpoint.prepare_of_arrivals (e : Endpoint) (timeout : Int) :
    ∃ ok h', e.prepare descriptor timeout h = (ok, h') ∧
      e.prepare descriptor timeout { h with arrivals } = (ok, { h' with arrivals }) := by
  rw [prepare, prepare]
  obtain ⟨outcome, h₁, hset, hset'⟩ := h.setHeaderIncluded_of_arrivals arrivals descriptor
  rw [hset, hset']
  rcases outcome with cause | _
  · exact ⟨_, _, rfl, rfl⟩
  · dsimp only
    cases Ipv4.Address.parse? e.address with
    | none => exact ⟨_, _, rfl, rfl⟩
    | some address =>
        obtain ⟨outcome, h₂, hbind, hbind'⟩ :=
          h₁.bind_of_arrivals arrivals descriptor address e.port
        dsimp only
        rw [hbind, hbind']
        rcases outcome with cause | _
        · exact ⟨_, _, rfl, rfl⟩
        · obtain ⟨outcome, h₃, htimeout, htimeout'⟩ :=
            h₂.setReceiveTimeout_of_arrivals arrivals descriptor timeout
          dsimp only
          rw [htimeout, htimeout']
          rcases outcome with cause | _ <;> exact ⟨_, _, rfl, rfl⟩

/-- **Opening** does not depend on what is still to arrive. -/
lemma Endpoint.attach_of_arrivals (e : Endpoint) (timeout : Int) :
    ∃ ok e' h', e.attach timeout h = (ok, e', h') ∧
      e.attach timeout { h with arrivals } = (ok, e', { h' with arrivals }) := by
  rw [attach, attach, Host.socket, Host.socket]
  rw [show ({ h with arrivals } : Host).stepFault? = h.stepFault? from rfl]
  cases h.stepFault? .socket with
  | some cause =>
      dsimp only
      rw [Host.noteIf, Host.noteIf]
      split_ifs <;> exact ⟨_, _, _, rfl, rfl⟩
  | none =>
      obtain ⟨ok, h', hprepare, hprepare'⟩ := e.prepare_of_arrivals arrivals
        { h.record (.opened h.nextDescriptor) with
          nextDescriptor := h.nextDescriptor + 1
          sockets := h.sockets ++ [⟨h.nextDescriptor, none⟩] } h.nextDescriptor timeout
      dsimp only
      rw [hprepare]
      refine ⟨ok, { e with descriptor := some h.nextDescriptor }, h', rfl, ?_⟩
      exact congrArg (fun x : Bool × Host =>
        (x.1, ({ e with descriptor := some h.nextDescriptor } : Endpoint), x.2)) hprepare'

end Arrivals

end ReliableTransfer
