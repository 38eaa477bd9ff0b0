import ReliableTransfer.Client
import ReliableTransfer.CommandLine.Basic

/-!
# The client's command line

* `ClientOption` — the options that take a value, by name, and what the value does.
* **`parseClient`** — the arguments read from left to right, a later option overriding an
  earlier one; or what is written about them.
* `runClient` — the program.
-/

namespace ReliableTransfer.CommandLine

/-- The client's options that take a value. -/
inductive ClientOption
  | ip
  | server
  | file
  | out
  | serverPort
  | clientPort
  | rto
  | retries
  | linger
  | idle
deriving DecidableEq

namespace ClientOption

/-- The option an argument names. -/
def named? (argument : Bytes) : Option ClientOption :=
  [(text "--ip", ip), (text "--server", server), (text "--file", file), (text "--out", out),
   (text "--server-port", serverPort), (text "--client-port", clientPort),
   (text "--rto-ms", rto), (text "--retries", retries), (text "--linger-ms", linger),
   (text "--idle-ms", idle)].lookup argument

/-- What an option does with its value; nothing comes of a value that is no number where one is
needed. -/
def set? (o : ClientOptions) (value : Bytes) : ClientOption → Option ClientOptions
  | ip => some { o with clientAddress := value }
  | server => some { o with serverAddress := value }
  | file => some { o with fileName := value }
  | out => some { o with outPath := value }
  | serverPort => (signed32? value).map fun n =>
    { o with settings := { o.settings with serverPort := toPort n } }
  | clientPort => (signed32? value).map fun n =>
    { o with settings := { o.settings with clientPort := toPort n } }
  | rto => (signed32? value).map fun n =>
    { o with settings := { o.settings with timeout := n } }
  | retries => (signed32? value).map fun n =>
    { o with settings := { o.settings with maxRetries := n } }
  | linger => (signed32? value).map fun n => { o with linger := n }
  | idle => (signed32? value).map fun n => { o with idleTimeout := n }

end ClientOption

/-- What must hold of the options when all arguments have been read. -/
def checkClient (o : ClientOptions) : Except (List Notice) ClientOptions :=
  if o.clientAddress.isEmpty || o.serverAddress.isEmpty || o.fileName.isEmpty then
    .error [.clientArgumentsMissing, .usage .client]
  else .ok o

/-- Reads the arguments from left to right, on top of the options read so far. -/
def readClient (o : ClientOptions) : List Bytes → Except (List Notice) ClientOptions
  | [] => checkClient o
  | argument :: rest =>
    match ClientOption.named? argument, rest with
    | some option, value :: rest =>
      match option.set? o value with
      | some o => readClient o rest
      | none => .error [.invalidValue argument]
    | some _, [] => .error [.usage .client, .unknownArgument argument, .usage .client]
    | none, rest =>
      if argument = text "--verbose" ∨ argument = text "-v" then
        readClient { o with verbose := true } rest
      else if argument = text "-h" ∨ argument = text "--help" then .error [.usage .client]
      else .error [.unknownArgument argument, .usage .client]

/-- **The options the arguments give**, or what is written about them. -/
def parseClient (arguments : List Bytes) : Except (List Notice) ClientOptions :=
  readClient {} (arguments.map untilNul)

/-- The client as a program, watched up to a limit of time. -/
def runClient (arguments : List Bytes) (limit : Int) (h : Host) : Exit :=
  match parseClient arguments with
  | .error notices => refuse notices h
  | .ok options => exitOf (Client.run options limit h)

end ReliableTransfer.CommandLine
