import ReliableTransfer.Bytes

/-!
# Faults of system calls

The reasons for which a call to the system can fail, and their wording.
-/

namespace ReliableTransfer

/-- Why a system call failed. -/
inductive Fault
  | notPermitted
  | accessDenied
  | tooManyOpenFiles
  | protocolNotAvailable
  | addressNotAvailable
  | invalidArgument
  | noBufferSpace
  | networkUnreachable
  | messageTooLong
  | connectionRefused
  | badDescriptor
  | wouldBlock
  | interrupted
deriving DecidableEq

namespace Fault

/-- The wording of a fault. -/
def message : Fault → Bytes
  | .notPermitted => text "Operation not permitted"
  | .accessDenied => text "Permission denied"
  | .tooManyOpenFiles => text "Too many open files"
  | .protocolNotAvailable => text "Protocol not available"
  | .addressNotAvailable => text "Cannot assign requested address"
  | .invalidArgument => text "Invalid argument"
  | .noBufferSpace => text "No buffer space available"
  | .networkUnreachable => text "Network is unreachable"
  | .messageTooLong => text "Message too long"
  | .connectionRefused => text "Connection refused"
  | .badDescriptor => text "Bad file descriptor"
  | .wouldBlock => text "Resource temporarily unavailable"
  | .interrupted => text "Interrupted system call"

/-- Whether a failed read is taken as a read that brought nothing, without a word about it. -/
def silentOnReceive : Fault → Bool
  | .wouldBlock | .interrupted => true
  | _ => false

end Fault

end ReliableTransfer
