import ReliableTransfer.Host.Basic
import ReliableTransfer.Report

/-!
# Saving a report

A report can be kept in a file as well.  The file is written piece by piece through a buffer that
has room for a whole report and is emptied when the file is closed; only a long piece goes past
it, straight to the file.  What happens before the closing is noticed, and nothing after that.

The long pieces of a report can only be texts that come from outside, the side that kept it and
the name of the file: its labels are short, and so are its numbers.

* `Report.isBuffered` — whether a piece is short enough for the buffer.
* `Report.unbuffered` — what of a report gets to the file before it is closed.
* **`Report.save`** — saving a report.
-/

namespace ReliableTransfer.Report

/-- Whether a piece of a report goes into the buffer, rather than straight to the file. -/
def isBuffered (piece : Bytes) : Bool :=
  piece.length < 1024

/-- **What of a report gets to the file before it is closed**: what stands up to the last of its
long pieces, and that piece. -/
def unbuffered (r : Report) : Bytes :=
  if !isBuffered r.fileName then
    text "=== SRFT " ++ r.role ++ text " report ===\n" ++ text "  file:             " ++ r.fileName
  else if !isBuffered r.role then text "=== SRFT " ++ r.role
  else []

/-- **Saving a report** in a file whose old content is thrown away: whether it worked as far as
could be noticed. -/
def save (r : Report) (path : Bytes) (h : Host) : Bool × Host :=
  match h.files.create? path with
  | none => (false, h.note (.reportNotOpened path))
  | some (place, files) =>
    (files.accepts place r.unbuffered, { h with files := files.put place r.render })

end ReliableTransfer.Report
