import Mathlib.Data.List.Nodup
import ReliableTransfer.Endpoint.Calls
import ReliableTransfer.Proofs.Opening
import ReliableTransfer.Proofs.Posting
import ReliableTransfer.Proofs.Reading

/-!
# Who closes a socket

An endpoint closes the socket it has, when it is told to and at the latest when it goes away.  But
when it is opened again while it has a socket it takes the new one for its own and forgets the old
one, which then nobody closes.

* `SocketCall.follow`, `SocketCall.openAfter` — which sockets are open by the record of the calls; a
  record that uses or closes a socket that is not open makes no sense.
* `Endpoint.Course` — calls on an endpoint from its construction on, in whatever order, with what
  they made it forget.
* `Endpoint.Kept` — the account of a course; one lemma for each of the calls says that it is kept.
* **`Endpoint.descriptors_accounted`** — each socket is closed once, unless it was forgotten.
* **`Endpoint.forgotten_descriptor_stays_open`** — opening twice is enough for that.
-/

namespace ReliableTransfer

/-! ## The record of the calls -/

namespace SocketCall

/-- **Which sockets are open after a call**, given those that were.  A new socket is none of them,
and any other call is made with one of them. -/
def follow (opened : List Nat) : SocketCall → Option (List Nat)
  | .opened d => if d ∈ opened then none else some (opened ++ [d])
  | .closed d => if d ∈ opened then some (opened.erase d) else none
  | .headerIncluded d | .bound d _ _ | .receiveTimeout d _ _ =>
    if d ∈ opened then some opened else none
  | .failed _ => some opened

/-- Which sockets are open after calls. -/
def openAfter (opened : List Nat) (calls : List SocketCall) : Option (List Nat) :=
  calls.foldlM follow opened

/-- Whether a call is part of preparing a socket; one that failed may be that of any. -/
def Prepares (d : Nat) : SocketCall → Prop
  | .headerIncluded d' | .bound d' _ _ | .receiveTimeout d' _ _ => d' = d
  | .failed _ => True
  | .opened _ | .closed _ => False

variable {opened opened' : List Nat} {calls more : List SocketCall} {c : SocketCall} {d n : Nat}

lemma openAfter_cons (opened : List Nat) (c : SocketCall) (calls : List SocketCall) :
    openAfter opened (c :: calls) = (c.follow opened).bind (openAfter · calls) :=
  List.foldlM_cons

lemma openAfter_append (h : openAfter opened calls = some opened') (more : List SocketCall) :
    openAfter opened (calls ++ more) = openAfter opened' more := by
  rw [openAfter, List.foldlM_append, ← openAfter, h]
  rfl

lemma openAfter_of_prepares (h : ∀ c ∈ calls, Prepares d c) (hd : d ∈ opened) :
    openAfter opened calls = some opened := by
  induction calls with
  | nil => rfl
  | cons c calls ih =>
      have hc : c.follow opened = some opened := by
        have hprepares := h c List.mem_cons_self
        cases c with
        | opened d' => exact hprepares.elim
        | closed d' => exact hprepares.elim
        | failed step => rfl
        | _ =>
            obtain rfl := hprepares
            exact if_pos hd
      rw [openAfter_cons, hc, Option.bind_some]
      exact ih fun c' hc' => h c' (List.mem_cons_of_mem c hc')

/-! ### Every socket is opened and closed in turn -/

lemma nodup_follow (hn : opened.Nodup) (h : c.follow opened = some opened') : opened'.Nodup := by
  cases c with
  | opened d =>
      rw [follow] at h
      split_ifs at h with hd
      obtain rfl := Option.some.inj h
      rw [← List.concat_eq_append]
      exact hn.concat hd
  | closed d =>
      rw [follow] at h
      split_ifs at h
      obtain rfl := Option.some.inj h
      exact hn.erase d
  | failed step =>
      obtain rfl := Option.some.inj h
      exact hn
  | _ =>
      rw [follow] at h
      split_ifs at h
      obtain rfl := Option.some.inj h
      exact hn

lemma nodup_openAfter (hn : opened.Nodup) (h : openAfter opened calls = some opened') :
    opened'.Nodup := by
  induction calls generalizing opened with
  | nil => exact Option.some.inj h ▸ hn
  | cons c calls ih =>
      rw [openAfter_cons] at h
      obtain ⟨opened₁, hc, hrest⟩ := Option.bind_eq_some_iff.1 h
      exact ih (nodup_follow hn hc) hrest

/-- What is opened is closed or stays open. -/
lemma count_follow (h : c.follow opened = some opened') (d : Nat) :
    [c].count (.opened d) + opened.count d = [c].count (.closed d) + opened'.count d := by
  cases c with
  | opened d' =>
      rw [follow] at h
      split_ifs at h
      obtain rfl := Option.some.inj h
      simp [List.count_singleton, Nat.add_comm]
  | closed d' =>
      rw [follow] at h
      split_ifs at h with hd
      obtain rfl := Option.some.inj h
      by_cases hsame : d' = d
      · subst hsame
        have hpos := List.count_pos_iff.2 hd
        simp
        omega
      · simp [hsame, Ne.symm hsame]
  | failed step =>
      obtain rfl := Option.some.inj h
      simp
  | _ =>
      rw [follow] at h
      split_ifs at h
      obtain rfl := Option.some.inj h
      simp

/-- **The sockets of a record**: each was closed as often as it was opened, but for those that are
open at its end. -/
lemma count_openAfter (h : openAfter opened calls = some opened') (d : Nat) :
    calls.count (.opened d) + opened.count d = calls.count (.closed d) + opened'.count d := by
  induction calls generalizing opened with
  | nil =>
      obtain rfl := Option.some.inj h
      rfl
  | cons c calls ih =>
      rw [openAfter_cons] at h
      obtain ⟨opened₁, hc, hrest⟩ := Option.bind_eq_some_iff.1 h
      have hfirst := count_follow hc d
      have hlater := ih hrest
      rw [← List.singleton_append, List.count_append, List.count_append]
      omega

lemma mem_of_openAfter (h : openAfter [] calls = some opened) (hd : d ∈ opened) :
    SocketCall.opened d ∈ calls := by
  have hcount := count_openAfter h d
  have hpos := List.count_pos_iff.2 hd
  rw [List.count_nil] at hcount
  exact List.count_pos_iff.1 (by omega)

/-! ### How many are open at once -/

/-- **At no time are more sockets open** than this. -/
def AtMost (n : Nat) (opened : List Nat) (calls : List SocketCall) : Prop :=
  ∀ k, ∃ opened', openAfter opened (calls.take k) = some opened' ∧ opened'.length ≤ n

lemma AtMost.nil (h : opened.length ≤ n) : AtMost n opened [] :=
  fun _ => ⟨opened, by rw [List.take_nil]; rfl, h⟩

lemma AtMost.cons (h : opened.length ≤ n) (hc : c.follow opened = some opened')
    (hcalls : AtMost n opened' calls) : AtMost n opened (c :: calls) := by
  intro k
  cases k with
  | zero => exact ⟨opened, rfl, h⟩
  | succ k =>
      rw [List.take_succ_cons, openAfter_cons, hc]
      exact hcalls k

lemma AtMost.of_prepares (h : ∀ c ∈ calls, Prepares d c) (hd : d ∈ opened)
    (hlength : opened.length ≤ n) : AtMost n opened calls :=
  fun _ => ⟨opened, openAfter_of_prepares (fun c hc => h c (List.mem_of_mem_take hc)) hd, hlength⟩

lemma AtMost.append {m : Nat} (hmn : m ≤ n) (hcalls : AtMost m opened calls)
    (hafter : openAfter opened calls = some opened') (hmore : AtMost n opened' more) :
    AtMost n opened (calls ++ more) := by
  intro k
  rw [List.take_append]
  by_cases hk : k ≤ calls.length
  · obtain ⟨opened₁, hfront, hlength⟩ := hcalls k
    rw [Nat.sub_eq_zero_of_le hk, List.take_zero, List.append_nil]
    exact ⟨opened₁, hfront, Nat.le_trans hlength hmn⟩
  · rw [List.take_of_length_le (by omega), openAfter_append hafter]
    exact hmore _

end SocketCall

open SocketCall

lemma filter_bne_of_notMem {l : List Nat} {d : Nat} (hd : d ∉ l) : l.filter (· != d) = l :=
  List.filter_eq_self.2 fun _ hd' => bne_iff_ne.2 fun hsame => hd (hsame ▸ hd')

/-! ## What the calls of an endpoint do -/

/-- All of a machine that opening and closing depend on and that they change, apart from which step
of opening fails. -/
def Host.wiring (h : Host) : Nat × List Socket × List SocketCall :=
  (h.nextDescriptor, h.sockets, h.calls)

/-- Closing an open socket. -/
lemma Host.close_of_mem {h : Host} {d : Nat} (hd : d ∈ h.descriptors) :
    (h.close d).calls = h.calls ++ [.closed d] ∧
      (h.close d).nextDescriptor = h.nextDescriptor ∧
      (h.close d).descriptors = h.descriptors.filter (· != d) := by
  obtain ⟨socket, hsocket⟩ := Option.isSome_iff_exists.1 (Host.isSome_socket?.2 hd)
  rw [close, hsocket]
  refine ⟨rfl, rfl, ?_⟩
  rw [Host.descriptors, Host.descriptors, List.filter_map]
  rfl

/-- Waiting for a read opens and closes nothing. -/
lemma Host.wiring_awaitRead {h h' : Host} {limit : Int} {descriptor : Option Nat}
    (hawait : h.awaitRead limit descriptor = some h') : h'.wiring = h.wiring := by
  rw [awaitRead] at hawait
  split at hawait
  · split_ifs at hawait
    obtain rfl := Option.some.inj hawait
    rfl
  · cases hawait

/-- The second machine is the first after a socket was prepared, or was to be. -/
structure Host.Prepared (d : Nat) (h h' : Host) : Prop where
  next_eq : h'.nextDescriptor = h.nextDescriptor
  descriptors_eq : h'.descriptors = h.descriptors
  calls : ∃ new, h'.calls = h.calls ++ new ∧ ∀ c ∈ new, Prepares d c

namespace Host.Prepared

variable {d : Nat} {h h' h'' : Host}

lemma note (h : Host) (n : Notice) : Prepared d h (h.note n) :=
  ⟨rfl, rfl, [], (List.append_nil _).symm, fun _ hc => absurd hc List.not_mem_nil⟩

lemma one {c : SocketCall} (hnext : h'.nextDescriptor = h.nextDescriptor)
    (hdescriptors : h'.descriptors = h.descriptors) (hcalls : h'.calls = h.calls ++ [c])
    (hc : Prepares d c) : Prepared d h h' :=
  ⟨hnext, hdescriptors, [c], hcalls, fun _ hc' => List.mem_singleton.1 hc' ▸ hc⟩

lemma trans (first : Prepared d h h') (second : Prepared d h' h'') : Prepared d h h'' := by
  obtain ⟨new, hcalls, hnew⟩ := first.calls
  obtain ⟨new', hcalls', hnew'⟩ := second.calls
  refine ⟨second.next_eq.trans first.next_eq, second.descriptors_eq.trans first.descriptors_eq,
    new ++ new', by rw [hcalls', hcalls, List.append_assoc], fun c hc => ?_⟩
  rcases List.mem_append.1 hc with hc | hc
  · exact hnew c hc
  · exact hnew' c hc

lemma setHeaderIncluded (d : Nat) (h : Host) : Prepared d h (h.setHeaderIncluded d).2 := by
  rw [Host.setHeaderIncluded]
  split
  · exact one rfl rfl rfl trivial
  · exact one rfl rfl rfl rfl

lemma bind (d : Nat) (address : Ipv4.Address) (port : UInt16) (h : Host) :
    Prepared d h (h.bind d address port).2 := by
  rw [Host.bind]
  split
  · exact one rfl rfl rfl trivial
  · exact one rfl rfl rfl rfl

lemma setReceiveTimeout (d : Nat) (timeout : Int) (h : Host) :
    Prepared d h (h.setReceiveTimeout d timeout).2 := by
  obtain ⟨outcome, h', hset, _, hsame⟩ := h.setReceiveTimeout_eq d timeout
  have hdescriptors : (h.setReceiveTimeout d timeout).2.descriptors = h.descriptors := by
    rw [hset]
    exact hsame
  rw [Host.setReceiveTimeout] at hdescriptors ⊢
  dsimp only at hdescriptors ⊢
  split
  · exact one rfl rfl rfl trivial
  · rename_i hnone
    rw [hnone] at hdescriptors
    exact one rfl hdescriptors rfl rfl

end Host.Prepared

namespace Endpoint

lemma prepared_prepare (e : Endpoint) (d : Nat) (timeout : Int) (h : Host) :
    h.Prepared d (e.prepare d timeout h).2 := by
  have hheader := Host.Prepared.setHeaderIncluded d h
  rw [prepare]
  generalize h.setHeaderIncluded d = outcome at hheader ⊢
  rcases outcome with ⟨cause | _, h₁⟩
  · exact hheader.trans (.note h₁ _)
  · cases Ipv4.Address.parse? e.address with
    | none => exact hheader.trans (.note h₁ _)
    | some address =>
        have hbind := hheader.trans (.bind d address e.port h₁)
        dsimp only
        generalize h₁.bind d address e.port = outcome at hbind ⊢
        rcases outcome with ⟨cause | _, h₂⟩
        · exact hbind.trans (.note h₂ _)
        · have htimeout := hbind.trans (.setReceiveTimeout d timeout h₂)
          dsimp only
          generalize h₂.setReceiveTimeout d timeout = outcome at htimeout ⊢
          rcases outcome with ⟨cause | _, h₃⟩
          · exact htimeout.trans (.note h₃ _)
          · exact htimeout

/-- **Opening**, as far as sockets go: there is none, or there is a new one, prepared or not.  The
endpoint has that one then, and no other. -/
lemma attach_cases (e : Endpoint) (timeout : Int) (h : Host) :
    (∃ ok h', e.attach timeout h = (ok, { e with descriptor := none }, h') ∧
      h'.nextDescriptor = h.nextDescriptor ∧ h'.descriptors = h.descriptors ∧
      h'.calls = h.calls ++ [.failed .socket]) ∨
    ∃ ok h' new, e.attach timeout h
        = (ok, { e with descriptor := some h.nextDescriptor }, h') ∧
      h'.nextDescriptor = h.nextDescriptor + 1 ∧
      h'.descriptors = h.descriptors ++ [h.nextDescriptor] ∧
      h'.calls = h.calls ++ .opened h.nextDescriptor :: new ∧
      ∀ c ∈ new, Prepares h.nextDescriptor c := by
  cases hfault : h.stepFault? .socket with
  | some cause =>
      obtain ⟨notices, hnotices⟩ := ((h.record (.failed .socket)).note
        (.callFailed (.opening .socket) cause)).noteIf_eq (needsPrivilege cause) .privilegeNeeded
      refine .inl ⟨false, { h.record (.failed .socket) with notices }, ?_, rfl, rfl, rfl⟩
      rw [attach, Host.socket, hfault]
      exact congrArg (false, ({ e with descriptor := none } : Endpoint), ·) hnotices
  | none =>
      let h₀ : Host := { h.record (.opened h.nextDescriptor) with
        nextDescriptor := h.nextDescriptor + 1
        sockets := h.sockets ++ [⟨h.nextDescriptor, none⟩] }
      have hprepared := e.prepared_prepare h.nextDescriptor timeout h₀
      obtain ⟨new, hcalls, hnew⟩ := hprepared.calls
      refine .inr ⟨(e.prepare h.nextDescriptor timeout h₀).1,
        (e.prepare h.nextDescriptor timeout h₀).2, new, ?_, hprepared.next_eq, ?_, ?_, hnew⟩
      · rw [attach, Host.socket, hfault]
      · rw [hprepared.descriptors_eq]
        exact List.map_append
      · rw [hcalls]
        exact List.append_assoc _ _ _

/-! ## The account -/

/-- The socket that a call makes an endpoint forget. -/
def forgets (e : Endpoint) : EndpointCall → List Nat
  | .attach _ => e.descriptor.toList
  | .send _ _ _ | .receive | .detach => []

/-- **Calls on an endpoint**, one after the other, from its construction on: the endpoint and the
machine after them, and the sockets it was made to forget.  Between two calls anything may happen to
the machine, as long as nobody else opens or closes a socket; so any step of opening may fail, once
or again. -/
inductive Course (address : Bytes) (port : UInt16) (host : Host) :
    Endpoint → Host → List Nat → Prop
  | start : Course address port host { address, port } host []
  | call {e : Endpoint} {h h' : Host} {lost : List Nat} {limit : Int} {c : EndpointCall}
      {step : EndpointStep} (course : Course address port host e h lost)
      (meanwhile : h'.wiring = h.wiring) (returns : e.call? limit h' c = some step) :
      Course address port host step.endpoint step.host (lost ++ e.forgets c)

/-- **The account of a course**: the calls on record since its beginning open and close only what
they may, and what is open are the socket of the endpoint and those it has forgotten. -/
structure Kept (host : Host) (e : Endpoint) (h : Host) (lost : List Nat)
    (record : List SocketCall) : Prop where
  calls_eq : h.calls = host.calls ++ record
  open_eq : openAfter [] record = some (lost ++ e.descriptor.toList)
  at_most : AtMost (lost.length + 1) [] record
  descriptors_eq : h.descriptors = host.descriptors ++ (lost ++ e.descriptor.toList)
  next_le : host.nextDescriptor ≤ h.nextDescriptor
  range : ∀ d, .opened d ∈ record → host.nextDescriptor ≤ d ∧ d < h.nextDescriptor
  once : ∀ d, record.count (.opened d) ≤ 1

namespace Kept

variable {host : Host} {e e' : Endpoint} {h h' : Host} {lost : List Nat}
  {record : List SocketCall}

lemma start (host : Host) (address : Bytes) (port : UInt16) :
    Kept host { address, port } host [] [] :=
  ⟨(List.append_nil _).symm, rfl, .nil (Nat.zero_le 1), (List.append_nil _).symm, Nat.le_refl _,
    fun _ hd => absurd hd List.not_mem_nil, fun _ => Nat.zero_le 1⟩

/-- What leaves the sockets alone leaves the account alone. -/
lemma of_wiring (hk : Kept host e h lost record) (hwiring : h'.wiring = h.wiring)
    (hdescriptor : e'.descriptor = e.descriptor) : Kept host e' h' lost record := by
  simp only [Host.wiring, Prod.mk.injEq] at hwiring
  obtain ⟨hnext, hsockets, hcalls⟩ := hwiring
  have hdescriptors : h'.descriptors = h.descriptors := by rw [Host.descriptors, hsockets]; rfl
  refine ⟨?_, ?_, hk.at_most, ?_, ?_, ?_, hk.once⟩
  · rw [hcalls, hk.calls_eq]
  · rw [hdescriptor, hk.open_eq]
  · rw [hdescriptors, hdescriptor, hk.descriptors_eq]
  · rw [hnext]
    exact hk.next_le
  · rw [hnext]
    exact hk.range

lemma lt_next (hk : Kept host e h lost record) {d : Nat} (hd : d ∈ lost ++ e.descriptor.toList) :
    host.nextDescriptor ≤ d ∧ d < h.nextDescriptor :=
  hk.range d (mem_of_openAfter hk.open_eq hd)

lemma nodup (hk : Kept host e h lost record) : (lost ++ e.descriptor.toList).Nodup :=
  nodup_openAfter List.nodup_nil hk.open_eq

/-- The socket that the endpoint has is open. -/
lemma opened (hk : Kept host e h lost record) (hsome : e.descriptor.isSome = true) : e.Open h := by
  obtain ⟨d, hd⟩ := Option.isSome_iff_exists.1 hsome
  rw [Open, hd, Option.bind_some, Host.isSome_socket?, hk.descriptors_eq, hd]
  exact List.mem_append_right _ (List.mem_append_right _ (List.mem_singleton_self d))

/-- Calls on record that make sense after those before them. -/
lemma extend (hk : Kept host e h lost record) {lost' : List Nat} {new : List SocketCall}
    (hcalls : h'.calls = h.calls ++ new)
    (hopen : openAfter (lost ++ e.descriptor.toList) new = some (lost' ++ e'.descriptor.toList))
    (hlost : lost.length ≤ lost'.length)
    (hmost : AtMost (lost'.length + 1) (lost ++ e.descriptor.toList) new)
    (hdescriptors : h'.descriptors = host.descriptors ++ (lost' ++ e'.descriptor.toList))
    (hnext : h.nextDescriptor ≤ h'.nextDescriptor)
    (hrange : ∀ d, .opened d ∈ new → h.nextDescriptor ≤ d ∧ d < h'.nextDescriptor)
    (honce : ∀ d, new.count (.opened d) ≤ 1) : Kept host e' h' lost' (record ++ new) := by
  refine ⟨?_, ?_, hk.at_most.append (Nat.succ_le_succ hlost) hk.open_eq hmost, hdescriptors,
    Nat.le_trans hk.next_le hnext, fun d hd => ?_, fun d => ?_⟩
  · rw [hcalls, hk.calls_eq, List.append_assoc]
  · rw [openAfter_append hk.open_eq, hopen]
  · rcases List.mem_append.1 hd with hd | hd
    · exact ⟨(hk.range d hd).1, Nat.lt_of_lt_of_le (hk.range d hd).2 hnext⟩
    · exact ⟨Nat.le_trans hk.next_le (hrange d hd).1, (hrange d hd).2⟩
  · rw [List.count_append]
    by_cases hd : SocketCall.opened d ∈ new
    · -- a descriptor that is given out is greater than all before
      have hnever : record.count (.opened d) = 0 := List.count_eq_zero.2 fun hd' =>
        Nat.lt_irrefl d (Nat.lt_of_lt_of_le (hk.range d hd').2 (hrange d hd).1)
      rw [hnever, Nat.zero_add]
      exact honce d
    · rw [List.count_eq_zero.2 hd]
      exact hk.once d

/-- **Opening** forgets the socket that the endpoint had. -/
lemma attach (hk : Kept host e h lost record) (timeout : Int) :
    ∃ record', Kept host (e.attach timeout h).2.1 (e.attach timeout h).2.2
      (lost ++ e.descriptor.toList) record' := by
  have hlost : lost.length ≤ (lost ++ e.descriptor.toList).length := by simp
  rcases e.attach_cases timeout h with
    ⟨ok, h', hattach, hnext, hdescriptors, hcalls⟩ |
    ⟨ok, h', new, hattach, hnext, hdescriptors, hcalls, hnew⟩
  · rw [hattach]
    dsimp only
    refine ⟨_, hk.extend hcalls ?_ hlost ?_ ?_ (Nat.le_of_eq hnext.symm) ?_ ?_⟩
    · exact congrArg some (List.append_nil _).symm
    · exact .cons (Nat.le_succ _) rfl (.nil (Nat.le_succ _))
    · rw [hdescriptors, hk.descriptors_eq]
      exact congrArg (host.descriptors ++ ·) (List.append_nil _).symm
    · exact fun d hd => by cases List.mem_singleton.1 hd
    · exact fun d => Nat.zero_le 1
  · rw [hattach]
    dsimp only
    have hfollow : (SocketCall.opened h.nextDescriptor).follow (lost ++ e.descriptor.toList)
        = some (lost ++ e.descriptor.toList ++ [h.nextDescriptor]) :=
      if_neg fun hd => Nat.lt_irrefl _ (hk.lt_next hd).2
    have hmem : h.nextDescriptor ∈ lost ++ e.descriptor.toList ++ [h.nextDescriptor] :=
      List.mem_append_right _ (List.mem_singleton_self _)
    refine ⟨_, hk.extend hcalls ?_ hlost (.cons (Nat.le_succ _) hfollow
      (.of_prepares hnew hmem (Nat.le_of_eq List.length_append))) ?_ (by omega) ?_ ?_⟩
    · rw [openAfter_cons, hfollow, Option.bind_some, openAfter_of_prepares hnew hmem]
      rfl
    · rw [hdescriptors, hk.descriptors_eq, List.append_assoc]
      rfl
    · intro d hd
      rcases List.mem_cons.1 hd with hd | hd
      · obtain rfl := SocketCall.opened.inj hd
        exact ⟨Nat.le_refl _, by omega⟩
      · exact (hnew _ hd).elim
    · intro d
      have hnone : new.count (.opened d) = 0 := List.count_eq_zero.2 fun hd => hnew _ hd
      rw [List.count_cons, hnone, Nat.zero_add]
      split_ifs <;> omega

/-- **Closing** closes the socket that the endpoint has, and no other. -/
lemma detach (hk : Kept host e h lost record)
    (hfresh : ∀ d ∈ host.descriptors, d < host.nextDescriptor) :
    ∃ last, Kept host (e.detach h).1 (e.detach h).2 lost (record ++ last) := by
  cases hdescriptor : e.descriptor with
  | none =>
      refine ⟨[], ?_⟩
      rw [List.append_nil, Endpoint.detach, hdescriptor]
      exact hk
  | some d =>
      have hmine : lost ++ e.descriptor.toList = lost ++ [d] := by rw [hdescriptor]; rfl
      have hlast : d ∈ lost ++ [d] := List.mem_append_right _ (List.mem_singleton_self d)
      have hge := (hk.lt_next (hmine ▸ hlast)).1
      have hnotMem : d ∉ lost := fun hd =>
        (List.nodup_append.1 (hmine ▸ hk.nodup)).2.2 d hd d (List.mem_singleton_self d) rfl
      have hhost : d ∉ host.descriptors := fun hd =>
        Nat.lt_irrefl d (Nat.lt_of_lt_of_le (hfresh d hd) hge)
      have hfollow : (SocketCall.closed d).follow (lost ++ [d]) = some lost := by
        rw [follow, if_pos hlast, List.erase_append_right _ hnotMem, List.erase_cons_head,
          List.append_nil]
      have hdescriptors : h.descriptors = host.descriptors ++ (lost ++ [d]) := by
        rw [hk.descriptors_eq, hmine]
      have hdetach : e.detach h = ({ e with descriptor := none }, h.close d) := by
        rw [Endpoint.detach, hdescriptor]
      obtain ⟨hcalls, hnext, hclosed⟩ := Host.close_of_mem
        (hdescriptors ▸ List.mem_append_right _ hlast)
      rw [hdetach]
      refine ⟨_, hk.extend hcalls ?_ (Nat.le_refl _) ?_ ?_ (Nat.le_of_eq hnext.symm) ?_ ?_⟩
      · rw [hmine, openAfter_cons, hfollow]
        exact congrArg some (List.append_nil _).symm
      · rw [hmine]
        exact .cons (Nat.le_of_eq List.length_append) hfollow (.nil (Nat.le_succ _))
      · rw [hclosed, hdescriptors, List.filter_append, List.filter_append,
          filter_bne_of_notMem hhost, filter_bne_of_notMem hnotMem,
          List.filter_cons_of_neg (by simp)]
        rfl
      · exact fun d' hd' => by cases List.mem_singleton.1 hd'
      · exact fun d' => Nat.zero_le 1

/-- **Any call** keeps the account. -/
lemma call (hk : Kept host e h lost record)
    (hfresh : ∀ d ∈ host.descriptors, d < host.nextDescriptor) {limit : Int} {c : EndpointCall}
    {step : EndpointStep} (hcall : e.call? limit h c = some step) :
    ∃ record', Kept host step.endpoint step.host (lost ++ e.forgets c) record' := by
  cases c with
  | attach timeout =>
      obtain rfl := Option.some.inj hcall
      exact hk.attach timeout
  | send p dst port =>
      obtain ⟨more, hposted⟩ := e.exists_posted_send h dst port p
      rw [call?] at hcall
      generalize e.send p dst port h = outcome at hcall hposted
      obtain ⟨ok, h₁⟩ := outcome
      obtain rfl := Option.some.inj hcall
      obtain ⟨sent, notices, rfl, _⟩ := hposted
      rw [forgets, List.append_nil]
      exact ⟨record, hk.of_wiring rfl rfl⟩
  | receive =>
      obtain ⟨h₁, hawait, hstep⟩ := Option.bind_eq_some_iff.1 hcall
      obtain ⟨received, corrupted, arrivals, notices, hreceive, _⟩ := e.receive_eq h₁
      rw [hreceive] at hstep
      obtain rfl := Option.some.inj hstep
      have hwiring := Host.wiring_awaitRead hawait
      rw [forgets, List.append_nil]
      exact ⟨record, hk.of_wiring hwiring rfl⟩
  | detach =>
      obtain rfl := Option.some.inj hcall
      obtain ⟨last, hdetached⟩ := hk.detach hfresh
      refine ⟨record ++ last, ?_⟩
      rw [forgets, List.append_nil]
      exact hdetached

end Kept

/-- **A whole course.** -/
lemma Course.kept {address : Bytes} {port : UInt16} {host : Host} {e : Endpoint} {h : Host}
    {lost : List Nat} (hcourse : Course address port host e h lost)
    (hfresh : ∀ d ∈ host.descriptors, d < host.nextDescriptor) :
    ∃ record, Kept host e h lost record := by
  induction hcourse with
  | start => exact ⟨[], .start host address port⟩
  | call course meanwhile returns ih =>
      obtain ⟨record, hk⟩ := ih
      exact (hk.of_wiring meanwhile rfl).call hfresh returns

/-- **Each socket is closed once, unless it was forgotten.**  On a machine that does not give out a
descriptor twice, after any calls on an endpoint, in whatever order and whichever steps of opening
failed: the sockets on record are opened, used and closed only as they may be; at no time were more
of them open than one and those that opening again has made the endpoint forget; the endpoint's own
socket, if it has one, is open; and when the endpoint goes away, what is left open are those it has
forgotten, while every other socket that it opened has been closed once. -/
theorem descriptors_accounted {address : Bytes} {port : UInt16} {host : Host}
    (hfresh : ∀ d ∈ host.descriptors, d < host.nextDescriptor) {e : Endpoint} {h : Host}
    {lost : List Nat} (hcourse : Course address port host e h lost) :
    ∃ record, h.calls = host.calls ++ record ∧
      (∀ k, ∃ opened, openAfter [] (record.take k) = some opened ∧
        opened.length ≤ lost.length + 1) ∧
      (e.descriptor.isSome = true → e.Open h) ∧
      ∃ last, (e.detach h).2.calls = host.calls ++ (record ++ last) ∧
        openAfter [] (record ++ last) = some lost ∧
        (e.detach h).2.descriptors = host.descriptors ++ lost ∧
        ∀ d, .opened d ∈ record → (record ++ last).count (.opened d) = 1 ∧
          (record ++ last).count (.closed d) = if d ∈ lost then 0 else 1 := by
  obtain ⟨record, hk⟩ := hcourse.kept hfresh
  obtain ⟨last, hdetached⟩ := hk.detach hfresh
  have hnone : (e.detach h).1.descriptor.toList = [] := by
    obtain ⟨h', hdetach, _⟩ := e.detach_eq h
    rw [hdetach]
    rfl
  have hopen := hdetached.open_eq
  have hdescriptors := hdetached.descriptors_eq
  rw [hnone, List.append_nil] at hopen hdescriptors
  refine ⟨record, hk.calls_eq, hk.at_most, hk.opened, last, hdetached.calls_eq, hopen, hdescriptors,
    fun d hd => ?_⟩
  have honce : (record ++ last).count (.opened d) = 1 :=
    Nat.le_antisymm (hdetached.once d) (List.count_pos_iff.2 (List.mem_append_left _ hd))
  have hcount := count_openAfter hopen d
  rw [List.count_nil, (nodup_openAfter List.nodup_nil hopen).count] at hcount
  refine ⟨honce, ?_⟩
  split_ifs at hcount ⊢ <;> omega

/-- A machine on which binding fails. -/
def unboundHost : Host where
  openFault := some (.bind, .addressNotAvailable)

/-- An endpoint that has not been opened. -/
def closedEndpoint : Endpoint where
  address := text "10.0.0.1"
  port := 12345

/-- Opening it on that machine, -/
def failedOpening : EndpointStep :=
  (closedEndpoint.call? 0 unboundHost (.attach 200)).get (by decide +kernel)

/-- and opening it again when binding works. -/
def secondOpening : EndpointStep :=
  (failedOpening.endpoint.call? 0 { failedOpening.host with openFault := none } (.attach 200)).get
    (by decide +kernel)

/-- After both, the first socket is forgotten and never closed, and the second is closed once. -/
theorem descriptors_accounted_reopened :
    Course (text "10.0.0.1") 12345 unboundHost secondOpening.endpoint secondOpening.host [3] ∧
    ∃ calls, (secondOpening.endpoint.detach secondOpening.host).2.calls = calls ∧
      openAfter [] calls = some [3] ∧ calls.count (.closed 3) = 0 ∧
      calls.count (.closed 4) = 1 := by
  have hfirst : closedEndpoint.call? 0 unboundHost (.attach 200) = some failedOpening :=
    (Option.some_get _).symm
  have hsecond : failedOpening.endpoint.call? 0 { failedOpening.host with openFault := none }
      (.attach 200) = some secondOpening := (Option.some_get _).symm
  have hlost : [] ++ closedEndpoint.forgets (.attach 200) ++
      failedOpening.endpoint.forgets (.attach 200) = [3] := by decide +kernel
  have hmeanwhile : ({ failedOpening.host with openFault := none } : Host).wiring
      = failedOpening.host.wiring := rfl
  have hcourse : Course (text "10.0.0.1") 12345 unboundHost secondOpening.endpoint
      secondOpening.host [3] := by
    rw [← hlost]
    exact (Course.start.call rfl hfirst).call hmeanwhile hsecond
  have hcalls : secondOpening.host.calls = [.opened 3, .headerIncluded 3, .failed .bind, .opened 4,
      .headerIncluded 4, .bound 4 ⟨10, 0, 0, 1⟩ 12345, .receiveTimeout 4 0 200000] := by
    decide +kernel
  obtain ⟨record, hrecord, _, _, last, hlast, hopen, _, hall⟩ :=
    descriptors_accounted (by decide) hcourse
  obtain rfl : record = secondOpening.host.calls := hrecord.symm
  refine ⟨hcourse, _, hlast, hopen, (hall 3 ?_).2, (hall 4 ?_).2⟩
  · rw [hcalls]
    decide
  · rw [hcalls]
    decide

/-- **A socket that is forgotten stays open.**  The endpoint is opened twice and then closed, and
the first of the two sockets is still open; nor does it matter whether opening worked. -/
theorem forgotten_descriptor_stays_open :
    (closedEndpoint.callAll 0 {} [.attach 200, .attach 200, .detach]).map
        (fun step => (step.answer, step.endpoint.descriptor, step.host.descriptors))
      = [(.worked true, some 3, [3]), (.worked true, some 4, [3, 4]), (.done, none, [3])] ∧
    (closedEndpoint.callAll 0 unboundHost [.attach 200, .attach 200, .detach]).map
        (fun step => (step.answer, step.endpoint.descriptor, step.host.descriptors))
      = [(.worked false, some 3, [3]), (.worked false, some 4, [3, 4]), (.done, none, [3])] := by
  decide +kernel

end Endpoint

end ReliableTransfer
