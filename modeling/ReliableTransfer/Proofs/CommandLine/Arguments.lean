import Mathlib.Logic.Function.Basic
import ReliableTransfer.CommandLine.Client
import ReliableTransfer.CommandLine.Server
import ReliableTransfer.Proofs.Numerals

/-!
# What the arguments say

Both command lines are read from left to right, and an option that is given again overrides what was
said before.  So a setting has what the last occurrence of its option says, as far as there is room
for it in the setting.

* `Grammar` — what the two command lines differ in; `Grammar.given` and `Grammar.last?` are the
  options that a list of arguments gives, and the last value given for one of them.
* `Grammar.Reads` — how arguments are read; `reads_of_readServer` and `reads_of_readClient` say that
  they are.
* `Grammar.Lawful` — an option changes no number but its own.
* `Setting` — the numbers an option takes; `Setting.wrap` brings a number into their range.
* `Setting.Obeys` — what becomes of the number an option is given, and `Setting.obeys` that it does.
* **`settings_obey`** — accepted arguments, and what the settings hold.
* **`reduced_number_accepted`** — a number for which there is no room is not turned down.
-/

namespace ReliableTransfer.CommandLine

/-- What the two command lines differ in: the options that take a value, what an option does with
it, and how it is noted that every packet is to be written about. -/
structure Grammar (σ α : Type) where
  /-- The option an argument names. -/
  named? : Bytes → Option α
  /-- What an option does with its value. -/
  set? : σ → Bytes → α → Option σ
  /-- Every packet is to be written about. -/
  verbose : σ → σ
  /-- The number that is held for an option; of no meaning for one that takes a text. -/
  number : σ → α → Int

/-- The number that the server holds for an option. -/
def serverNumber (o : ServerOptions) : ServerOption → Int
  | .serverPort => o.settings.serverPort.toNat
  | .clientPort => o.settings.clientPort.toNat
  | .window => o.settings.window.toNat
  | .rto => o.settings.timeout
  | .retries => o.settings.maxRetries
  | .chunk => o.settings.maxPayload
  | .wait => o.settings.completionTimeout
  | .ip | .dir | .report => 0

/-- The number that the client holds for an option. -/
def clientNumber (o : ClientOptions) : ClientOption → Int
  | .serverPort => o.settings.serverPort.toNat
  | .clientPort => o.settings.clientPort.toNat
  | .rto => o.settings.timeout
  | .retries => o.settings.maxRetries
  | .linger => o.linger
  | .idle => o.idleTimeout
  | .ip | .server | .file | .out => 0

/-- The server's command line. -/
def serverGrammar : Grammar ServerOptions ServerOption where
  named? := ServerOption.named?
  set? := ServerOption.set?
  verbose o := { o with verbose := true }
  number := serverNumber

/-- The client's command line. -/
def clientGrammar : Grammar ClientOptions ClientOption where
  named? := ClientOption.named?
  set? := ClientOption.set?
  verbose o := { o with verbose := true }
  number := clientNumber

/-! ## Reading arguments -/

namespace Grammar

variable {σ α : Type} (g : Grammar σ α)

/-- **The options that are given**, each with its value, in order.  What is the value of an option
names none itself. -/
def given : List Bytes → List (α × Bytes)
  | [] => []
  | argument :: rest =>
    match g.named? argument, rest with
    | some option, value :: rest => (option, value) :: given rest
    | _, rest => given rest

/-- The last value that is given for an option. -/
def last? [DecidableEq α] (option : α) (arguments : List Bytes) : Option Bytes :=
  (g.given arguments).reverse.lookup option

/-- **How arguments are read**, from some options to others. -/
inductive Reads : σ → List Bytes → σ → Prop
  | done (o : σ) : Reads o [] o
  | option {o o₁ o' : σ} {name value : Bytes} {rest : List Bytes} {option : α}
      (named : g.named? name = some option) (set : g.set? o value option = some o₁)
      (reads : Reads o₁ rest o') : Reads o (name :: value :: rest) o'
  | verbose {o o' : σ} {argument : Bytes} {rest : List Bytes}
      (unnamed : g.named? argument = none) (reads : Reads (g.verbose o) rest o') :
      Reads o (argument :: rest) o'

/-- **An option changes no number but its own**, and writing about packets changes none. -/
structure Lawful [DecidableEq α] : Prop where
  number_set : ∀ {o o' : σ} {value : Bytes} {option : α}, g.set? o value option = some o' →
    g.number o' = Function.update (g.number o) option (g.number o' option)
  number_verbose : ∀ o : σ, g.number (g.verbose o) = g.number o

variable {g}

lemma given_option {name value : Bytes} {option : α} (h : g.named? name = some option)
    (rest : List Bytes) : g.given (name :: value :: rest) = (option, value) :: g.given rest := by
  rw [given.eq_def]
  simp only [h]

lemma given_verbose {argument : Bytes} (h : g.named? argument = none) (rest : List Bytes) :
    g.given (argument :: rest) = g.given rest := by
  rw [given.eq_def]
  simp only [h]

variable [DecidableEq α]

/-- What is given later comes first. -/
lemma last?_option {name value : Bytes} {option : α} (h : g.named? name = some option)
    (rest : List Bytes) (wanted : α) : g.last? wanted (name :: value :: rest)
      = (g.last? wanted rest).or (if wanted = option then some value else none) := by
  rw [last?, given_option h, List.reverse_cons, List.lookup_append, last?]
  refine congrArg _ ?_
  rw [List.lookup_cons]
  by_cases hsame : wanted = option
  · rw [if_pos hsame, beq_iff_eq.2 hsame]
  · rw [if_neg hsame, beq_false_of_ne hsame]
    rfl

lemma last?_verbose {argument : Bytes} (h : g.named? argument = none) (rest : List Bytes)
    (wanted : α) : g.last? wanted (argument :: rest) = g.last? wanted rest := by
  rw [last?, given_verbose h, last?]

end Grammar

/-- **The server's arguments** that are accepted are read, and pass the check at the end. -/
lemma reads_of_readServer {o o' : ServerOptions} {arguments : List Bytes}
    (h : readServer o arguments = .ok o') :
    serverGrammar.Reads o arguments o' ∧ checkServer o' = .ok o' := by
  fun_induction readServer o arguments with
  | case1 o =>
      have hsame : o = o' := by
        rw [checkServer] at h
        split_ifs at h
        exact Except.ok.inj h
      exact ⟨hsame ▸ .done o, hsame ▸ h⟩
  | case2 o argument option value rest hnamed o₁ hset ih =>
      obtain ⟨hreads, hcheck⟩ := ih h
      exact ⟨.option hnamed hset hreads, hcheck⟩
  | case3 => cases h
  | case4 => cases h
  | case5 o argument rest hnamed hverbose ih =>
      obtain ⟨hreads, hcheck⟩ := ih h
      exact ⟨.verbose hnamed hreads, hcheck⟩
  | case6 => cases h
  | case7 => cases h

/-- **The client's arguments** that are accepted are read. -/
lemma reads_of_readClient {o o' : ClientOptions} {arguments : List Bytes}
    (h : readClient o arguments = .ok o') : clientGrammar.Reads o arguments o' := by
  fun_induction readClient o arguments with
  | case1 o =>
      rw [checkClient] at h
      split_ifs at h
      obtain rfl := Except.ok.inj h
      exact .done o
  | case2 o argument option value rest hnamed o₁ hset ih => exact .option hnamed hset (ih h)
  | case3 => cases h
  | case4 => cases h
  | case5 o argument rest hnamed hverbose ih => exact .verbose hnamed (ih h)
  | case6 => cases h
  | case7 => cases h

/-- The length of a piece that the server accepts lies within the limit. -/
lemma maxPayload_of_parseServer {o : ServerOptions} {arguments : List Bytes}
    (h : parseServer arguments = .ok o) :
    1 ≤ o.settings.maxPayload ∧ o.settings.maxPayload ≤ maxChunk := by
  have hcheck := (reads_of_readServer h).2
  rw [checkServer] at hcheck
  split_ifs at hcheck with _ _ hchunk
  omega

/-! ## The numbers an option takes -/

/-- **The numbers an option takes.** -/
structure Setting (α : Type) where
  /-- The option. -/
  option : α
  /-- What is held if it is not given. -/
  default : Int
  /-- The least number there is room for. -/
  least : Int
  /-- The greatest number there is room for. -/
  greatest : Int
  /-- The least number that can be read. -/
  leastRead : Int
  /-- The greatest number that can be read. -/
  greatestRead : Int
deriving DecidableEq

namespace Setting

variable {σ α : Type}

/-- A number of thirty-two bits with a sign. -/
def signed (option : α) (default : Int) : Setting α :=
  ⟨option, default, -2147483648, 2147483647, -2147483648, 2147483647⟩

/-- A port, which is read as a number of thirty-two bits with a sign. -/
def port (option : α) (default : Int) : Setting α :=
  ⟨option, default, 0, 65535, -2147483648, 2147483647⟩

/-- A number without a sign, which is read into sixty-four bits with its sign obeyed. -/
def unsigned (option : α) (default greatest : Int) : Setting α :=
  ⟨option, default, 0, greatest, -18446744073709551615, 18446744073709551615⟩

/-- Whether a number can be read. -/
def Admits (x : Setting α) (n : Int) : Prop :=
  x.leastRead ≤ n ∧ n ≤ x.greatestRead

/-- **A number brought into the range** for which there is room, by whole widths of it. -/
def wrap (x : Setting α) (n : Int) : Int :=
  x.least + (n - x.least) % (x.greatest - x.least + 1)

/-- A number for which there is room stays what it is. -/
lemma wrap_of_mem {x : Setting α} {n : Int} (hleast : x.least ≤ n) (hgreatest : n ≤ x.greatest) :
    x.wrap n = n := by
  rw [wrap, Int.emod_eq_of_lt (by omega) (by omega)]
  omega

/-- **What an option does with its number**: it must be one that can be read, and it is held as far
as there is room. -/
def Wraps (g : Grammar σ α) (x : Setting α) : Prop :=
  ∀ {o o' : σ} {value : Bytes}, g.set? o value x.option = some o' →
    ∃ n, leadingInt? value = some n ∧ x.Admits n ∧ g.number o' x.option = x.wrap n

/-- **What is held when arguments were accepted.**  For every occurrence of the option a number
could be read.  Without one the default is held, and otherwise the number that the last one gives:
that number itself if there is room for it, and else what wrapping leaves of it. -/
structure Obeys (g : Grammar σ α) [DecidableEq α] (x : Setting α) (arguments : List Bytes)
    (o : σ) : Prop where
  readable : ∀ value, (x.option, value) ∈ g.given arguments → ∃ n, Denotes value n ∧ x.Admits n
  absent : g.last? x.option arguments = none → g.number o x.option = x.default
  exact : ∀ value n, g.last? x.option arguments = some value → Denotes value n → x.least ≤ n →
    n ≤ x.greatest → g.number o x.option = n
  wrapped : ∀ value n, g.last? x.option arguments = some value → Denotes value n →
    g.number o x.option = x.wrap n

variable {g : Grammar σ α} {x : Setting α} {o o' : σ} {arguments : List Bytes}

/-- For every occurrence of the option a number could be read. -/
lemma readable (hx : x.Wraps g) (h : g.Reads o arguments o') {value : Bytes}
    (hvalue : (x.option, value) ∈ g.given arguments) : ∃ n, Denotes value n ∧ x.Admits n := by
  induction h with
  | done o => cases hvalue
  | @option o o₁ o' name value' rest option named set reads ih =>
      rw [Grammar.given_option named] at hvalue
      rcases List.mem_cons.1 hvalue with hfirst | hlater
      · obtain ⟨rfl, rfl⟩ := Prod.mk.inj hfirst
        obtain ⟨n, hn, hadmits, _⟩ := hx set
        exact ⟨n, leadingInt?_eq_some_iff.1 hn, hadmits⟩
      · exact ih hlater
  | verbose unnamed reads ih =>
      rw [Grammar.given_verbose unnamed] at hvalue
      exact ih hvalue

variable [DecidableEq α]

/-- The last occurrence of the option decides, and without one its number stays what it was. -/
lemma number_of_last? (hg : g.Lawful) (hx : x.Wraps g) (h : g.Reads o arguments o') :
    (g.last? x.option arguments = none → g.number o' x.option = g.number o x.option) ∧
    ∀ value, g.last? x.option arguments = some value →
      ∃ n, leadingInt? value = some n ∧ g.number o' x.option = x.wrap n := by
  induction h with
  | done o => exact ⟨fun _ => rfl, nofun⟩
  | @option o o₁ o' name value' rest option named set reads ih =>
      obtain ⟨hnone, hsome⟩ := ih
      rw [Grammar.last?_option named]
      cases hlast : g.last? x.option rest with
      | some value =>
          -- it is given again further on
          rw [Option.some_or]
          exact ⟨nofun, fun _ h => hsome _ (hlast.trans h)⟩
      | none =>
          rw [Option.none_or, hnone hlast]
          by_cases hsame : x.option = option
          · rw [if_pos hsame]
            subst hsame
            obtain ⟨n, hn, _, hnumber⟩ := hx set
            refine ⟨nofun, fun value h => ?_⟩
            obtain rfl := Option.some.inj h
            exact ⟨n, hn, hnumber⟩
          · rw [if_neg hsame, hg.number_set set, Function.update_of_ne hsame]
            exact ⟨fun _ => rfl, nofun⟩
  | @verbose o o' argument rest unnamed reads ih =>
      rw [Grammar.last?_verbose unnamed, ← hg.number_verbose o]
      exact ih

/-- **What is held** after reading arguments. -/
lemma obeys (hg : g.Lawful) (hx : x.Wraps g) (h : g.Reads o arguments o')
    (hdefault : g.number o x.option = x.default) : x.Obeys g arguments o' := by
  obtain ⟨hnone, hsome⟩ := number_of_last? hg hx h
  have hwrapped : ∀ value n, g.last? x.option arguments = some value → Denotes value n →
      g.number o' x.option = x.wrap n := by
    intro value n hlast hn
    obtain ⟨m, hm, hnumber⟩ := hsome value hlast
    rw [hnumber, (leadingInt?_eq_some_iff.1 hm).unique hn]
  exact ⟨fun value => readable hx h, fun hlast => (hnone hlast).trans hdefault,
    fun value n hlast hn hleast hgreatest =>
      (hwrapped value n hlast hn).trans (wrap_of_mem hleast hgreatest),
    hwrapped⟩

end Setting

/-! ## The options of the two programs -/

/-- The server's options that take a number. -/
def serverSettings : List (Setting ServerOption) :=
  [.port .serverPort 12345, .port .clientPort 12346, .unsigned .window 4 4294967295,
   .signed .rto 500, .signed .retries 10, .unsigned .chunk 1024 18446744073709551615,
   .signed .wait 60000]

/-- The client's options that take a number. -/
def clientSettings : List (Setting ClientOption) :=
  [.port .serverPort 12345, .port .clientPort 12346, .signed .rto 500, .signed .retries 10,
   .signed .linger 2000, .signed .idle 30000]

lemma lawful_serverGrammar : serverGrammar.Lawful := by
  refine ⟨fun {o o' value option} h => ?_, fun o => rfl⟩
  cases option with
  | ip | dir | report =>
      obtain rfl := Option.some.inj h
      funext option'
      cases option' <;> rfl
  | _ =>
      obtain ⟨n, _, rfl⟩ := Option.map_eq_some_iff.1 h
      funext option'
      cases option' <;> rfl

lemma lawful_clientGrammar : clientGrammar.Lawful := by
  refine ⟨fun {o o' value option} h => ?_, fun o => rfl⟩
  cases option with
  | ip | server | file | out =>
      obtain rfl := Option.some.inj h
      funext option'
      cases option' <;> rfl
  | _ =>
      obtain ⟨n, _, rfl⟩ := Option.map_eq_some_iff.1 h
      funext option'
      cases option' <;> rfl

section Kinds

variable {α : Type} {option : α} {default : Int} {value : Bytes}

lemma signed32?_eq_some_iff {n : Int} : signed32? value = some n ↔
    leadingInt? value = some n ∧ -2147483648 ≤ n ∧ n ≤ 2147483647 := by
  simp only [signed32?, Option.bind_eq_bind, Option.bind_eq_some_iff, Option.ite_none_right_eq_some,
    Option.some.injEq]
  constructor
  · rintro ⟨m, hm, hrange, rfl⟩
    exact ⟨hm, hrange⟩
  · rintro ⟨hn, hrange⟩
    exact ⟨n, hn, hrange, rfl⟩

/-- A number that is read into sixty-four bits is what they leave of the one that is denoted. -/
lemma exists_of_unsigned64? {m : Nat} (h : unsigned64? value = some m) :
    ∃ n, leadingInt? value = some n ∧ -18446744073709551615 ≤ n ∧ n ≤ 18446744073709551615 ∧
      (m : Int) = n % 18446744073709551616 := by
  obtain ⟨n, hn, h⟩ := Option.bind_eq_some_iff.1 h
  rw [wordSize] at h
  split_ifs at h with hrange
  obtain rfl := Option.some.inj h
  exact ⟨n, hn, by omega, by omega, by omega⟩

lemma wrap_signed {n : Int} (h : signed32? value = some n) :
    ∃ m, leadingInt? value = some m ∧ (Setting.signed option default).Admits m ∧
      n = (Setting.signed option default).wrap m := by
  obtain ⟨hn, hleast, hgreatest⟩ := signed32?_eq_some_iff.1 h
  exact ⟨n, hn, ⟨hleast, hgreatest⟩, (Setting.wrap_of_mem hleast hgreatest).symm⟩

lemma wrap_port {n : Int} (h : signed32? value = some n) :
    ∃ m, leadingInt? value = some m ∧ (Setting.port option default).Admits m ∧
      ((toPort n).toNat : Int) = (Setting.port option default).wrap m := by
  obtain ⟨hn, hrange⟩ := signed32?_eq_some_iff.1 h
  refine ⟨n, hn, hrange, ?_⟩
  show ((toPort n).toNat : Int) = 0 + (n - 0) % (65535 - 0 + 1)
  rw [toPort, UInt16.toNat_ofNat']
  omega

lemma wrap_window {m : Nat} (h : unsigned64? value = some m) :
    ∃ n, leadingInt? value = some n ∧
      (Setting.unsigned option default 4294967295).Admits n ∧
      ((toWindow m).toNat : Int) = (Setting.unsigned option default 4294967295).wrap n := by
  obtain ⟨n, hn, hleast, hgreatest, hm⟩ := exists_of_unsigned64? h
  refine ⟨n, hn, ⟨hleast, hgreatest⟩, ?_⟩
  show ((toWindow m).toNat : Int) = 0 + (n - 0) % (4294967295 - 0 + 1)
  rw [toWindow, UInt32.toNat_ofNat']
  omega

lemma wrap_chunk {m : Nat} (h : unsigned64? value = some m) :
    ∃ n, leadingInt? value = some n ∧
      (Setting.unsigned option default 18446744073709551615).Admits n ∧
      (m : Int) = (Setting.unsigned option default 18446744073709551615).wrap n := by
  obtain ⟨n, hn, hleast, hgreatest, hm⟩ := exists_of_unsigned64? h
  refine ⟨n, hn, ⟨hleast, hgreatest⟩, ?_⟩
  show (m : Int) = 0 + (n - 0) % (18446744073709551615 - 0 + 1)
  rw [hm]
  omega

end Kinds

lemma wraps_of_mem_serverSettings {x : Setting ServerOption} (hx : x ∈ serverSettings) :
    x.Wraps serverGrammar := by
  intro o o' value h
  simp only [serverSettings, List.mem_cons, List.not_mem_nil, or_false] at hx
  rcases hx with rfl | rfl | rfl | rfl | rfl | rfl | rfl
  all_goals obtain ⟨n, hn, rfl⟩ := Option.map_eq_some_iff.1 h
  · exact wrap_port hn
  · exact wrap_port hn
  · exact wrap_window hn
  · exact wrap_signed hn
  · exact wrap_signed hn
  · exact wrap_chunk hn
  · exact wrap_signed hn

lemma wraps_of_mem_clientSettings {x : Setting ClientOption} (hx : x ∈ clientSettings) :
    x.Wraps clientGrammar := by
  intro o o' value h
  simp only [clientSettings, List.mem_cons, List.not_mem_nil, or_false] at hx
  rcases hx with rfl | rfl | rfl | rfl | rfl | rfl
  all_goals obtain ⟨n, hn, rfl⟩ := Option.map_eq_some_iff.1 h
  · exact wrap_port hn
  · exact wrap_port hn
  · exact wrap_signed hn
  · exact wrap_signed hn
  · exact wrap_signed hn
  · exact wrap_signed hn

/-- Every default passes for what is held at first. -/
lemma number_default_server : ∀ x ∈ serverSettings, serverNumber {} x.option = x.default := by
  decide

lemma number_default_client : ∀ x ∈ clientSettings, clientNumber {} x.option = x.default := by
  decide

/-- **Accepted arguments and what the settings hold.**  Whatever the arguments, in whatever order:
if they are accepted, each setting holds the number that the last occurrence of its option denotes,
or its default without one.  A number for which the setting has no room is turned down only if it
cannot even be read; otherwise it is brought into the setting's range by whole widths of it. -/
theorem settings_obey (arguments : List Bytes) :
    (∀ o, parseServer arguments = .ok o →
      ∀ x ∈ serverSettings, x.Obeys serverGrammar (arguments.map untilNul) o) ∧
    ∀ o, parseClient arguments = .ok o →
      ∀ x ∈ clientSettings, x.Obeys clientGrammar (arguments.map untilNul) o := by
  constructor
  · intro o h x hx
    exact Setting.obeys lawful_serverGrammar (wraps_of_mem_serverSettings hx)
      (reads_of_readServer h).1 (number_default_server x hx)
  · intro o h x hx
    exact Setting.obeys lawful_clientGrammar (wraps_of_mem_clientSettings hx)
      (reads_of_readClient h) (number_default_client x hx)

/-- Arguments of a server: one option twice, with blanks in front of its number and something behind
it, and one with a sign. -/
def serverArguments : List Bytes :=
  [text "--window", text "8", text "--ip", text "10.0.0.1", text "--window", text " +16x",
   text "--rto-ms", text "-5"]

/-- Arguments of a client: one option's value is the name of another. -/
def clientArguments : List Bytes :=
  [text "--idle-ms", text "007", text "--file", text "--idle-ms", text "--server", text "10.0.0.1",
   text "-v", text "--ip", text "10.0.0.2"]

/-- The last occurrence counts, what follows its number is ignored, and the name of an option that
stands as a value is none. -/
theorem settings_obey_repeated :
    (∃ o, parseServer serverArguments = .ok o ∧
      serverNumber o .window = 16 ∧ serverNumber o .rto = -5 ∧ serverNumber o .retries = 10) ∧
    ∃ o, parseClient clientArguments = .ok o ∧
      clientNumber o .idle = 7 ∧ clientNumber o .linger = 2000 := by
  constructor
  · obtain ⟨o, ho⟩ : ∃ o, parseServer serverArguments = .ok o := ⟨_, rfl⟩
    have hobeys := (settings_obey serverArguments).1 o ho
    have hwindow := (hobeys (.unsigned .window 4 4294967295) (by decide)).exact (text " +16x") 16
      (by decide +kernel) (leadingInt?_eq_some_iff.1 (by decide +kernel)) (by decide) (by decide)
    have hrto := (hobeys (.signed .rto 500) (by decide)).exact (text "-5") (-5)
      (by decide +kernel) (leadingInt?_eq_some_iff.1 (by decide +kernel)) (by decide) (by decide)
    have hretries := (hobeys (.signed .retries 10) (by decide)).absent (by decide +kernel)
    exact ⟨o, ho, hwindow, hrto, hretries⟩
  · obtain ⟨o, ho⟩ : ∃ o, parseClient clientArguments = .ok o := ⟨_, rfl⟩
    have hobeys := (settings_obey clientArguments).2 o ho
    have hidle := (hobeys (.signed .idle 30000) (by decide)).exact (text "007") 7
      (by decide +kernel) (leadingInt?_eq_some_iff.1 (by decide +kernel)) (by decide) (by decide)
    have hlinger := (hobeys (.signed .linger 2000) (by decide)).absent (by decide +kernel)
    exact ⟨o, ho, hidle, hlinger⟩

/-- **A number for which there is no room is not turned down**, though a length of a piece beyond
its range is: a port of 65537 is taken for port 1, and a window of -1 for the widest one, in spite
of the check that a window has at least one place. -/
theorem reduced_number_accepted :
    Denotes (text "65537") 65537 ∧ Denotes (text "-1") (-1) ∧
    (∃ o, parseServer [text "--ip", text "10.0.0.1", text "--server-port", text "65537",
        text "--window", text "-1"] = .ok o ∧
      o.settings.serverPort = 1 ∧ o.settings.window = 4294967295) ∧
    parseServer [text "--ip", text "10.0.0.1", text "--chunk", text "-1"]
      = .error [.chunkInvalid maxChunk] :=
  ⟨leadingInt?_eq_some_iff.1 (by decide +kernel), leadingInt?_eq_some_iff.1 (by decide +kernel),
    ⟨_, rfl, by decide +kernel, by decide +kernel⟩, rfl⟩

end ReliableTransfer.CommandLine
