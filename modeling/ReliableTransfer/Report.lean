import ReliableTransfer.Decimal.Fixed

/-!
# The report of a transfer

Both sides of a transfer keep the same record of it and print the same report at its end.

* `Report` — the record: who kept it, the file, the counters, and when the transfer began and
  ended.
* `Report.duration`, `Report.throughput` — the derived figures.
* **`Report.render`** — the printed report.
-/

namespace ReliableTransfer

/-- What one side knows about a transfer. -/
structure Report where
  /-- The side that keeps the record. -/
  role : Bytes := []
  /-- The file's name, as it was requested. -/
  fileName : Bytes := []
  /-- The bytes of the file that were read or received. -/
  fileSize : Nat := 0
  /-- The packets that were sent, resent ones apart. -/
  packetsSent : Nat := 0
  /-- The packets that were received from the other side. -/
  packetsReceived : Nat := 0
  /-- The packets that were sent again. -/
  retransmissions : Nat := 0
  /-- The packets that were received again. -/
  duplicates : Nat := 0
  /-- The packets that arrived damaged. -/
  corrupted : Nat := 0
  /-- Whether the whole file went over. -/
  completed : Bool := false
  /-- When the transfer began, in nanoseconds. -/
  startTime : Int := 0
  /-- When the transfer ended, in nanoseconds. -/
  endTime : Int := 0
deriving DecidableEq, Inhabited

namespace Report

/-- The seconds a transfer took; none if it did not end after it began.  The difference of the
two times is kept in sixty-four bits. -/
def duration (r : Report) : Float :=
  if r.endTime ≤ r.startTime then 0.0
  else (Int64.ofInt (r.endTime - r.startTime)).toFloat / 1000000000.0

/-- The file's size over the duration, in units of 1024 bytes a second; zero when no time has
passed. -/
def throughput (r : Report) : Float :=
  if r.duration ≤ 0.0 then 0.0
  else ((UInt64.ofNat r.fileSize).toFloat / 1024.0) / r.duration

/-- One line of the report: two blanks, a label padded to eighteen characters, and a value. -/
def line (label : String) (value : Bytes) : Bytes :=
  text "  " ++ text label ++ value ++ text "\n"

/-- **The printed report.** -/
def render (r : Report) : Bytes :=
  text "=== SRFT " ++ r.role ++ text " report ===\n" ++
  line "file:             " r.fileName ++
  line "size:             " (decimal r.fileSize ++ text " bytes") ++
  line "status:           " (text (if r.completed then "complete" else "INCOMPLETE")) ++
  line "packets sent:     " (decimal r.packetsSent) ++
  line "packets received: " (decimal r.packetsReceived) ++
  line "retransmissions:  " (decimal r.retransmissions) ++
  line "duplicates:       " (decimal r.duplicates) ++
  line "corrupted:        " (decimal r.corrupted) ++
  line "duration:         " (fixed 3 r.duration ++ text " s") ++
  line "throughput:       " (fixed 3 r.throughput ++ text " KiB/s")

end Report

end ReliableTransfer
