import ReliableTransfer.Datagram
import ReliableTransfer.Host.Fault
import ReliableTransfer.Packet.Codec
import ReliableTransfer.Settings

/-!
# Notices

Every line the two programs write to their error output is a `Notice`: a cause with the values
that belong to it.  The wording is in one place, `Notice.render`.
-/

namespace ReliableTransfer

/-- The steps of opening an endpoint that are calls to the system. -/
inductive OpenStep
  /-- The raw socket itself. -/
  | socket
  /-- The option to write IP headers by hand. -/
  | headerIncluded
  /-- The local address. -/
  | bind
  /-- The timeout of reads. -/
  | receiveTimeout
deriving DecidableEq

/-- The calls to the system whose failure is reported. -/
inductive SystemCall
  /-- A step of opening. -/
  | opening (step : OpenStep)
  /-- Sending a datagram. -/
  | sending
  /-- Reading from the network. -/
  | receiving
deriving DecidableEq

/-- What a call to the system is called in a report of its failure. -/
def SystemCall.title : SystemCall → Bytes
  | .opening .socket => text "socket(SOCK_RAW)"
  | .opening .headerIncluded => text "setsockopt IP_HDRINCL"
  | .opening .bind => text "bind"
  | .opening .receiveTimeout => text "setsockopt SO_RCVTIMEO"
  | .sending => text "sendto"
  | .receiving => text "recvfrom"

/-- Why a packet cannot be made into a datagram. -/
inductive PackError
  /-- The packet has no layout. -/
  | encode (cause : EncodeError)
  /-- Its bytes cannot be framed. -/
  | frame (cause : FrameError)
deriving DecidableEq

/-- The wording of a packing error. -/
def PackError.message : PackError → Bytes
  | .encode cause => cause.message
  | .frame cause => cause.message

/-- The two programs. -/
inductive Program
  | client
  | server
deriving DecidableEq

/-- How a program is called, in one line. -/
def Program.usage : Program → Bytes
  | .client =>
    text "Usage: sudo srft_client --ip A.B.C.D --server A.B.C.D --file name" ++
    text " [--out path] [--server-port P] [--client-port P] [--rto-ms MS] [--retries K]" ++
    text " [--linger-ms MS] [--idle-ms MS] [--verbose]"
  | .server =>
    text "Usage: sudo srft_server --ip A.B.C.D [--dir files_dir] [--report path]" ++
    text " [--server-port P] [--client-port P] [--window N] [--rto-ms MS] [--retries K]" ++
    text " [--chunk BYTES] [--wait-ms MS] [--verbose]"

/-- A line on the error output. -/
inductive Notice
  -- the endpoint
  | callFailed (call : SystemCall) (cause : Fault)
  | privilegeNeeded
  | invalidLocalAddress (address : Bytes)
  | cannotPack (packet : Packet) (cause : PackError)
  | partialSend (sent expected : Nat)
  | corruptedPacket (source : Ipv4.Address) (cause : DecodeError)
  -- the sender
  | transmitFailed (seq : UInt32)
  | retransmitFailed (seq : UInt32)
  | retriesExceeded (maxRetries : Int) (seq : UInt32)
  -- the server
  | serverListening (address directory : Bytes) (settings : Settings)
  | awaitingRequest
  | ignoredBeforeRequest (packet : Packet)
  | requestReceived (name : Bytes) (source : Ipv4.Address) (port : UInt16)
  | nameRejected (name : Bytes)
  | fileNotFound (path : Bytes)
  | readFailed (path : Bytes)
  | transmitting (packet : Packet)
  | acknowledged (number : UInt32)
  | awaitingAcks (sent : Nat)
  | allAcknowledged
  | acksTimedOut (inFlight : Nat)
  | serverFinished
  | reportNotOpened (path : Bytes)
  -- the client
  | clientStarted (address name server out : Bytes) (settings : Settings)
  | outputNotOpened (path : Bytes)
  | nameTooLong (limit : Nat)
  | requestRepeated
  | requestUnanswered (tries : Int)
  | serverSilent (timeout : Int)
  | packetReceived (packet : Packet) (ack : Option UInt32)
  | ackNotSent (number : UInt32)
  | endReceived (bytes : Nat) (linger : Int)
  -- the command lines
  | usage (program : Program)
  | unknownArgument (argument : Bytes)
  | invalidValue (option : Bytes)
  | clientArgumentsMissing
  | serverArgumentMissing
  | windowInvalid
  | chunkInvalid (limit : Nat)
deriving DecidableEq

namespace Notice

/-- The text of a notice, without the end of the line. -/
def message : Notice → Bytes
  | callFailed call cause => call.title ++ text ": " ++ cause.message
  | privilegeNeeded =>
    text "Raw sockets require root privileges (CAP_NET_RAW). Run with sudo."
  | invalidLocalAddress address => text "Invalid local IP: " ++ address
  | cannotPack packet cause =>
    text "Cannot frame packet " ++ packet.describe ++ text ": " ++ cause.message
  | partialSend sent expected =>
    text "Partial send!? sent=" ++ decimal sent ++ text " expected=" ++ decimal expected
  | corruptedPacket source cause =>
    text "Corrupted packet from " ++ source.dotted ++ text ": " ++ cause.message
  | transmitFailed seq =>
    text "transmit failed for seq=" ++ decimal seq.toNat ++
    text ", left to the retransmission timer"
  | retransmitFailed seq => text "retransmit failed for seq=" ++ decimal seq.toNat
  | retriesExceeded maxRetries seq =>
    text "WARNING: max retries (" ++ decimalInt maxRetries ++ text ") exceeded for seq=" ++
    decimal seq.toNat
  | serverListening address directory settings =>
    text "Server listening on " ++ address ++ text ":" ++ decimal settings.serverPort.toNat ++
    text ", serving " ++ directory ++ text " (window=" ++ decimal settings.window.toNat ++
    text ", rto=" ++ decimalInt settings.timeout ++ text " ms, retries=" ++
    decimalInt settings.maxRetries ++ text ")"
  | awaitingRequest => text "Waiting for file request..."
  | ignoredBeforeRequest packet =>
    text "Ignoring " ++ packet.describe ++ text " before REQUEST"
  | requestReceived name source port =>
    text "Received request for '" ++ name ++ text "' from " ++ source.dotted ++ text ":" ++
    decimal port.toNat
  | nameRejected name => text "ERROR: Rejected file name: '" ++ name ++ text "'"
  | fileNotFound path => text "ERROR: File not found: " ++ path
  | readFailed path => text "ERROR: Read failed on " ++ path
  | transmitting packet => text "-> " ++ packet.describe
  | acknowledged number => text "ACK " ++ decimal number.toNat
  | awaitingAcks sent => text "Sent " ++ decimal sent ++ text " bytes, waiting for all ACKs..."
  | allAcknowledged => text "All packets acknowledged!"
  | acksTimedOut inFlight =>
    text "WARNING: Timed out waiting for ACKs (" ++ decimal inFlight ++
    text " packets in flight)"
  | serverFinished => text "Server finished."
  | reportNotOpened path => text "Failed to open report file: " ++ path
  | clientStarted address name server out settings =>
    text "Client on " ++ address ++ text ":" ++ decimal settings.clientPort.toNat ++
    text ", requesting '" ++ name ++ text "' from " ++ server ++ text ":" ++
    decimal settings.serverPort.toNat ++ text " -> " ++ out
  | outputNotOpened path => text "Failed to open output file: " ++ path
  | nameTooLong limit => text "File name longer than " ++ decimal limit ++ text " bytes"
  | requestRepeated => text "  no answer -> resend REQUEST"
  | requestUnanswered tries =>
    text "No answer to REQUEST after " ++ decimalInt tries ++ text " tries"
  | serverSilent timeout =>
    text "Server silent for " ++ decimalInt timeout ++ text " ms, giving up"
  | packetReceived packet (some number) =>
    text "<- " ++ packet.describe ++ text " -> ACK " ++ decimal number.toNat
  | packetReceived packet none => text "<- " ++ packet.describe ++ text " -> dropped"
  | ackNotSent number => text "Failed to send ACK " ++ decimal number.toNat
  | endReceived bytes linger =>
    text "FIN received. Total " ++ decimal bytes ++ text " bytes, lingering " ++
    decimalInt linger ++ text " ms for duplicate FINs"
  | usage program => program.usage
  | unknownArgument argument => text "Unknown arg: " ++ argument
  | invalidValue option => text "Invalid value for " ++ option
  | clientArgumentsMissing => text "--ip, --server and --file are required"
  | serverArgumentMissing => text "--ip is required"
  | windowInvalid => text "--window must be >= 1"
  | chunkInvalid limit => text "--chunk invalid; must be 1.." ++ decimal limit

/-- **The line a notice is written as.** -/
def render (n : Notice) : Bytes :=
  n.message ++ text "\n"

end Notice

/-- The lines of a list of notices. -/
def renderNotices (notices : List Notice) : Bytes :=
  notices.flatMap Notice.render

end ReliableTransfer
