import ReliableTransfer.CommandLine.Client
import ReliableTransfer.CommandLine.Server

/-!
# The program

One program for both sides: the first argument is `client` or `server`, the others are the
arguments of that side.  It runs on a machine that grants it no raw socket, which is what an
unprivileged process meets.
-/

namespace ReliableTransfer.CommandLine

/-- A machine that grants no raw socket. -/
def unprivilegedHost : Host where
  openFault := some (.socket, .notPermitted)

/-- Writes out what a program wrote, and gives its exit code. -/
def conclude (e : Exit) : IO UInt32 := do
  (← IO.getStdout).write ⟨e.host.printed.toArray⟩
  (← IO.getStderr).write ⟨(renderNotices e.host.notices).toArray⟩
  return UInt32.ofNat (e.code.getD 1)

/-- Runs the side the first argument names. -/
def start : List String → IO UInt32
  | "client" :: rest => conclude (runClient (rest.map text) 0 unprivilegedHost)
  | "server" :: rest => conclude (runServer (rest.map text) 0 unprivilegedHost)
  | _ => do
    IO.eprintln "the first argument must be client or server"
    return 1

end ReliableTransfer.CommandLine

/-- The program. -/
def main (arguments : List String) : IO UInt32 :=
  ReliableTransfer.CommandLine.start arguments
