import ReliableTransfer.CommandLine.Basic
import ReliableTransfer.Server.Run

/-!
# The server's command line

* `ServerOption` — the options that take a value, by name, and what the value does.
* **`parseServer`** — the arguments read from left to right, a later option overriding an
  earlier one; or what is written about them.
* `maxChunk` — the longest piece of a file the command line admits.
* `runServer` — the program.
-/

namespace ReliableTransfer.CommandLine

/-- The server's options that take a value. -/
inductive ServerOption
  | ip
  | dir
  | report
  | serverPort
  | clientPort
  | window
  | rto
  | retries
  | chunk
  | wait
deriving DecidableEq

namespace ServerOption

/-- The option an argument names. -/
def named? (argument : Bytes) : Option ServerOption :=
  [(text "--ip", ip), (text "--dir", dir), (text "--report", report),
   (text "--server-port", serverPort), (text "--client-port", clientPort),
   (text "--window", window), (text "--rto-ms", rto), (text "--retries", retries),
   (text "--chunk", chunk), (text "--wait-ms", wait)].lookup argument

/-- What an option does with its value; nothing comes of a value that is no number where one is
needed. -/
def set? (o : ServerOptions) (value : Bytes) : ServerOption → Option ServerOptions
  | ip => some { o with address := value }
  | dir => some { o with directory := value }
  | report => some { o with reportPath := some value }
  | serverPort => (signed32? value).map fun n =>
    { o with settings := { o.settings with serverPort := toPort n } }
  | clientPort => (signed32? value).map fun n =>
    { o with settings := { o.settings with clientPort := toPort n } }
  | window => (unsigned64? value).map fun n =>
    { o with settings := { o.settings with window := toWindow n } }
  | rto => (signed32? value).map fun n =>
    { o with settings := { o.settings with timeout := n } }
  | retries => (signed32? value).map fun n =>
    { o with settings := { o.settings with maxRetries := n } }
  | chunk => (unsigned64? value).map fun n =>
    { o with settings := { o.settings with maxPayload := n } }
  | wait => (signed32? value).map fun n =>
    { o with settings := { o.settings with completionTimeout := n } }

end ServerOption

/-- **The longest piece of a file** the command line admits: what is left of the longest UDP
payload when the packet's own header is taken off. -/
def maxChunk : Nat := 65493

/-- What must hold of the options when all arguments have been read. -/
def checkServer (o : ServerOptions) : Except (List Notice) ServerOptions :=
  if o.address.isEmpty then .error [.serverArgumentMissing, .usage .server]
  else if o.settings.window < 1 then .error [.windowInvalid]
  else if o.settings.maxPayload < 1 ∨ o.settings.maxPayload > maxChunk then
    .error [.chunkInvalid maxChunk]
  else .ok o

/-- Reads the arguments from left to right, on top of the options read so far. -/
def readServer (o : ServerOptions) : List Bytes → Except (List Notice) ServerOptions
  | [] => checkServer o
  | argument :: rest =>
    match ServerOption.named? argument, rest with
    | some option, value :: rest =>
      match option.set? o value with
      | some o => readServer o rest
      | none => .error [.invalidValue argument]
    | some _, [] => .error [.usage .server, .unknownArgument argument, .usage .server]
    | none, rest =>
      if argument = text "--verbose" ∨ argument = text "-v" then
        readServer { o with verbose := true } rest
      else if argument = text "-h" ∨ argument = text "--help" then .error [.usage .server]
      else .error [.unknownArgument argument, .usage .server]

/-- **The options the arguments give**, or what is written about them. -/
def parseServer (arguments : List Bytes) : Except (List Notice) ServerOptions :=
  readServer {} (arguments.map untilNul)

/-- The server as a program, watched up to a limit of time. -/
def runServer (arguments : List Bytes) (limit : Int) (h : Host) : Exit :=
  match parseServer arguments with
  | .error notices => refuse notices h
  | .ok options => exitOf (Server.run options limit h)

end ReliableTransfer.CommandLine
