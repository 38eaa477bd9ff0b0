import ReliableTransfer.Proofs.Client.Hearing
import ReliableTransfer.Proofs.Files

/-!
# What a run of the client leaves in its output file

* `Client.written` — what the server's packets among some arrivals come to, handed over in order.
* `Client.Leaves` — what an outcome says about what was read and about the output file.
* **`Client.leaves_run`** — a run that gets as far as its output file leaves it so.

The output is an ordinary file, which may have room for a part of what is handed to it only.  What
was handed to it is in the file for certain only once the file was closed, so a run that is still
going on is not credited with any of it.
-/

namespace ReliableTransfer.Client

/-- What the server's packets among some arrivals come to. -/
def written (o : ClientOptions) (read : List Arrival) : Bytes :=
  ((({} : Receiver).acceptAll (packets o read)).2.map Receipt.output).flatten

/-- **What an outcome leaves in the output file**: a front part of what the arrivals that were read
come to.  After a success that is all of it, and all of a file: its end is among them. -/
structure Leaves (o : ClientOptions) (arrivals read : List Arrival) (content : Bytes)
    (outcome : Outcome) : Prop where
  arrivals_eq : arrivals = read ++ outcome.host.arrivals
  content_eq : outcome.host.files.content? o.output = some content
  content_prefix : content <+: written o read
  complete : outcome.conclusion = .finished true →
    content = written o read ∧ (({} : Receiver).acceptAll (packets o read)).1.finished = true

variable {o : ClientOptions} {c : Client} {place : Location} {files : Files}
  {arrivals : List Arrival}

/-- A client that leaves with success has received the end of the file, and all that it wrote got
to its output. -/
lemma finished_of_loop {limit : Int} {fuel : Nat} (h : (c.loop limit fuel).1 = .finished true) :
    (c.loop limit fuel).2.receiver.finished = true ∧
      (c.loop limit fuel).2.host.files.accepts (c.loop limit fuel).2.place
        (c.loop limit fuel).2.output = true := by
  induction fuel generalizing c with
  | zero => cases h
  | succ fuel ih =>
      rw [Client.loop] at h ⊢
      cases hdecision : c.decide with
      | leave c' =>
          rw [hdecision] at h
          have hcompleted : c'.conclude.report.completed = true := Conclusion.finished.inj h
          exact Bool.and_eq_true_iff.1 hcompleted
      | breakOff c' =>
          rw [hdecision] at h
          cases Conclusion.finished.inj h
      | read c' =>
          rw [hdecision] at h
          dsimp only at h ⊢
          split at h
          · cases h
          · exact ih h

/-- Closing puts into the output what was kept, and leaves the network alone. -/
lemma close_eq (hh : c.Hears o place files arrivals) :
    c.close.host.files = files.put place c.output ∧ c.close.host.arrivals = c.host.arrivals := by
  obtain ⟨host, hdetach, hrewired⟩ := c.endpoint.detach_eq
    { c.host with files := c.host.files.put c.place c.output }
  rw [close]
  dsimp only
  rw [hdetach]
  refine ⟨hrewired.files_eq.trans ?_, hrewired.arrivals_eq⟩
  rw [hh.files_eq, hh.place_eq]

/-- **Coming out**: a client that is still at work has left its output file as it found it; one that
has ended has put into it what it has kept. -/
lemma leaves_outcome {ended : Conclusion × Client} (hh : ended.2.Hears o place files arrivals)
    (hempty : files.content? o.output = some [])
    (hput : ∀ content, (files.put place content).content? o.output
      = some (files.kept place content))
    (hfinished : ended.1 = .finished true → ended.2.receiver.finished = true ∧
      ended.2.host.files.accepts ended.2.place ended.2.output = true) :
    ∃ read content, Leaves o arrivals read content (outcome ended) := by
  obtain ⟨conclusion, c⟩ := ended
  obtain ⟨read, harrivals, hreceiver, houtput⟩ := hh.kept
  have hclosed := close_eq hh
  have hended : ∀ conclusion' report, (conclusion' = .finished true →
      c.receiver.finished = true ∧ c.host.files.accepts c.place c.output = true) →
      Leaves o arrivals read (files.kept place c.output) ⟨conclusion', report, c.close.host⟩ := by
    intro conclusion' report hfinished'
    refine ⟨harrivals.trans (by rw [hclosed.2]), ?_, ?_, fun h => ?_⟩
    · rw [hclosed.1]
      exact hput c.output
    · rw [written, ← houtput]
      exact files.kept_prefix place c.output
    · obtain ⟨hend, haccepts⟩ := hfinished' h
      rw [hh.files_eq, hh.place_eq] at haccepts
      refine ⟨(Files.kept_eq_of_accepts haccepts).trans houtput, ?_⟩
      rw [← hreceiver]
      exact hend
  cases conclusion with
  | unfinished =>
      refine ⟨read, [], harrivals, ?_, List.nil_prefix, nofun⟩
      show c.host.files.content? o.output = some []
      rw [hh.files_eq]
      exact hempty
  | notStarted => exact ⟨read, _, hended _ _ hfinished⟩
  | broken cause => exact ⟨read, _, hended _ _ hfinished⟩
  | finished ok => exact ⟨read, _, hended _ _ hfinished⟩

lemma leaves_work {e : Endpoint} {h : Host} (haddress : e.address = o.clientAddress)
    (hport : e.port = o.settings.clientPort) (hopen : e.Open h)
    (hordinary : h.files.Ordinary o.output) (limit : Int) :
    ∃ read content, Leaves o h.arrivals read content (work o limit e h) := by
  obtain ⟨place, files, hcreate, hempty, hput⟩ := Files.exists_create? hordinary
  have hh : (create o e place { h with files }).Hears o place files h.arrivals :=
    ⟨⟨rfl, haddress, hport⟩, hopen, rfl, rfl, [], rfl, rfl, rfl⟩
  have hasked := hh.ask
  rw [work, hcreate]
  dsimp only
  split
  · rename_i c hask
    rw [hask] at hasked
    exact leaves_outcome hasked hempty hput nofun
  · rename_i c hask
    rw [hask] at hasked
    exact leaves_outcome (hasked.loop limit (fuel limit h)) hempty hput finished_of_loop

/-- **A run of the client** that gets as far as its output file, and that file is an ordinary one,
leaves there what it has read, or nothing. -/
lemma leaves_run (o : ClientOptions) (limit : Int) (h : Host)
    (hordinary : h.files.Ordinary o.output)
    (hstarted : (run o limit h).conclusion ≠ .notStarted) :
    ∃ read content, Leaves o h.arrivals read content (run o limit h) := by
  obtain ⟨ok, descriptor, h', hattach, hrewired, hopen⟩ :=
    ({ address := o.clientAddress, port := o.settings.clientPort } : Endpoint).attach_eq
      o.settings.receiveTimeout h
  rw [run] at hstarted ⊢
  dsimp only at hattach hstarted ⊢
  rw [hattach] at hstarted ⊢
  cases ok with
  | false => exact absurd rfl hstarted
  | true =>
      have hwork := leaves_work (o := o) (e := {
          address := o.clientAddress, port := o.settings.clientPort, descriptor })
        (h := h'.note (.clientStarted o.clientAddress o.fileName o.serverAddress o.output
          o.settings)) rfl rfl (hopen rfl) (hrewired.files_eq.symm ▸ hordinary) limit
      rw [← hrewired.arrivals_eq]
      exact hwork

end ReliableTransfer.Client
