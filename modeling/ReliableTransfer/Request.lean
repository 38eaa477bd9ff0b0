import ReliableTransfer.Bytes

/-!
# Requested names

A request names a file inside the served directory.  A name that could lead elsewhere is turned
down: the empty name, the two dot names, and any name with a slash or a zero byte in it.

* `acceptableName` — whether a name may be served.
* **`resolveRequest?`** — the path of a requested file, a direct child of the directory.
-/

namespace ReliableTransfer

/-- Whether a requested name stays inside the served directory. -/
def acceptableName (name : Bytes) : Bool :=
  !(name.isEmpty || name == text "." || name == text ".." || name.contains 47 || name.contains 0)

/-- **The path of a requested file.**  The directory is taken as it is; a slash is put between
the two unless the directory is empty or ends in one. -/
def resolveRequest? (dir name : Bytes) : Option Bytes :=
  if !acceptableName name then none
  else if dir.isEmpty then some name
  else if dir.getLast? == some 47 then some (dir ++ name)
  else some (dir ++ [47] ++ name)

end ReliableTransfer
