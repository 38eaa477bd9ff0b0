import ReliableTransfer.Text

/-!
# Files

The part of a file system the two programs can reach: a tree of files and directories with a
working directory somewhere in it, and two devices, one that discards what is written to it and
one that is always full.

* `Location` — a place in the tree: the names on the way to it from the root.
* `Node` — what a place holds; `Source`, `Node.source` — what reading it gives.
* `Node.isRegular`, `Node.content?`, `Node.room?`, `Node.holding` — regular files: what they hold,
  how much they take, and what they are once something was written to them.
* `Files` — the tree, as a list of places with what they hold, and the working directory.
* `Files.locate?` — the place a path leads to; every directory on the way must exist.
* **`Files.source?`**, **`Files.create?`** — opening for reading, and opening for writing with
  the old content thrown away.
* `Files.put`, `Files.accepts` — writing a content to a place, and whether all of it gets there.
-/

namespace ReliableTransfer

/-- A place in the tree: the names on the way to it from the root. -/
structure Location where
  /-- The names on the way. -/
  names : List Bytes
deriving DecidableEq, Inhabited

namespace Location

/-- The place of that name right below a place. -/
def child (place : Location) (name : Bytes) : Location :=
  ⟨place.names ++ [name]⟩

/-- The place right above a place; there is none above the root, which stands for it then. -/
def parent (place : Location) : Location :=
  ⟨place.names.dropLast⟩

end Location

/-- What a place in the tree holds. -/
inductive Node
  /-- A regular file. -/
  | file (content : Bytes)
  /-- A regular file of which these bytes can be read and no more: then reading fails. -/
  | damaged (readable : Bytes)
  /-- A regular file that has room for so many bytes and no more. -/
  | bounded (room : Nat) (content : Bytes)
  /-- A directory. -/
  | directory
  /-- A device that is empty to read and takes everything that is written. -/
  | discard
  /-- A device that is an endless run of zeros to read and has no room for a single byte. -/
  | full
deriving DecidableEq

/-- What reading from an opened path gives. -/
inductive Source
  /-- These bytes, and then the end. -/
  | content (bytes : Bytes)
  /-- These bytes, and then reading fails. -/
  | failing (bytes : Bytes)
  /-- Zeros without end. -/
  | zeros
deriving DecidableEq

namespace Node

/-- What reading gives that was opened at a node.  A directory can be opened, but not read. -/
def source : Node → Source
  | file content | bounded _ content => .content content
  | damaged readable => .failing readable
  | directory => .failing []
  | discard => .content []
  | full => .zeros

/-- A regular file, whatever its limits. -/
def isRegular : Node → Bool
  | file _ | damaged _ | bounded _ _ => true
  | directory | discard | full => false

/-- What a regular file holds that can be read to its end. -/
def content? : Node → Option Bytes
  | file content | bounded _ content => some content
  | damaged _ | directory | discard | full => none

/-- How many bytes a node takes, if it does not take any number of them. -/
def room? : Node → Option Nat
  | bounded room _ => some room
  | full => some 0
  | file _ | damaged _ | directory | discard => none

/-- A regular file after `content` was written to it, its old content having been thrown away. -/
def holding (content : Bytes) : Node → Node
  | file _ | damaged _ => file content
  | bounded room _ => bounded room (content.take room)
  | node => node

end Node

/-- A tree of files.  The working directory and what lies above it are always there. -/
structure Files where
  /-- The places in the tree, with what they hold. -/
  nodes : List (Location × Node)
  /-- The working directory. -/
  home : Location := ⟨[text "home"]⟩
deriving DecidableEq, Inhabited

namespace Files

/-- An empty working directory, and the devices. -/
def empty : Files where
  nodes := [(⟨[text "dev"]⟩, .directory),
            (⟨[text "dev", text "null"]⟩, .discard),
            (⟨[text "dev", text "full"]⟩, .full)]

/-- Whether a place is the working directory or lies above it. -/
def isAbove (files : Files) (place : Location) : Bool :=
  place.names.isPrefixOf files.home.names

/-- What a place holds, if there is anything. -/
def node? (files : Files) (place : Location) : Option Node :=
  if files.isAbove place then some .directory else files.nodes.lookup place

/-- The tree with a place holding `node`. -/
def set (files : Files) (place : Location) (node : Node) : Files :=
  { files with nodes := (place, node) :: files.nodes.filter (·.1 != place) }

/-! ## Paths -/

/-- The most bytes in a name. -/
def maxName : Nat := 255

/-- The bytes in a path must be fewer than this. -/
def maxPath : Nat := 4096

/-- The place reached from `here` along the components of a path.  Wherever there is a step to
take there must be a directory; the last component may name something that does not exist yet. -/
def walk (files : Files) (here : Location) : List Bytes → Option Location
  | [] => some here
  | component :: rest =>
    if files.node? here ≠ some .directory then none
    else if component = [] ∨ component = text "." then walk files here rest
    else if component = text ".." then walk files here.parent rest
    else if component.length > maxName then none
    else walk files (here.child component) rest

/-- Where a path starts: at the root if it begins with a slash, and else in the working
directory. -/
def start (files : Files) (path : Bytes) : Location :=
  if path.head? == some 47 then ⟨[]⟩ else files.home

/-- **The place a path leads to.**  A path ends at its first zero byte, and may not be empty or too
long. -/
def locate? (files : Files) (path : Bytes) : Option Location :=
  let path := untilNul path
  if path.isEmpty || path.length ≥ maxPath then none
  else files.walk (files.start path) (splitAtByte 47 path)

/-! ## Opening, reading and writing -/

/-- **Opening for reading.** -/
def source? (files : Files) (path : Bytes) : Option Source := do
  return (← files.node? (← files.locate? path)).source

/-- **Opening for writing**, with the old content thrown away: the place that is written to, and
the tree with an empty file there.  A directory cannot be written, nor what lies behind a name
that is no directory. -/
def create? (files : Files) (path : Bytes) : Option (Location × Files) := do
  let place ← files.locate? path
  match files.node? place with
  | none => return (place, files.set place (.file []))
  | some .directory => none
  | some node => return (place, if node.isRegular then files.set place (node.holding []) else files)

/-- The tree after `content` was written to an opened place, as far as there was room for it. -/
def put (files : Files) (place : Location) (content : Bytes) : Files :=
  match files.node? place with
  | some node => if node.isRegular then files.set place (node.holding content) else files
  | none => files

/-- Whether all of `content` gets to an opened place. -/
def accepts (files : Files) (place : Location) (content : Bytes) : Bool :=
  ((files.node? place).bind Node.room?).all (content.length ≤ ·)

/-- The content of a regular file that can be read to its end. -/
def content? (files : Files) (path : Bytes) : Option Bytes := do
  (← files.node? (← files.locate? path)).content?

/-! ## Setting up a tree -/

/-- The names a relative path consists of. -/
def pathNames (path : Bytes) : List Bytes :=
  (splitAtByte 47 (untilNul path)).filter fun name => !(name.isEmpty || name == text ".")

/-- The place to which the names lead from the working directory. -/
def below (files : Files) (names : List Bytes) : Location :=
  ⟨files.home.names ++ names⟩

/-- The tree with all directories along `names`. -/
def addDirectories (files : Files) (names : List Bytes) : Files :=
  (List.range names.length).foldl
    (fun tree n => tree.set (files.below (names.take (n + 1))) .directory) files

/-- The tree with a directory, and those above it. -/
def addDirectory (files : Files) (path : Bytes) : Files :=
  files.addDirectories (pathNames path)

/-- The tree with a file, and the directories above it. -/
def addFile (files : Files) (path content : Bytes) : Files :=
  let names := pathNames path
  (files.addDirectories names.dropLast).set (files.below names) (.file content)

end Files

end ReliableTransfer
