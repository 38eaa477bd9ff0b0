import ReliableTransfer.Proofs.Server.Stream

/-!
# Requests stay inside the served directory

The path of a requested file is the directory with one component more.  So whatever is made of
the components of a path one after the other, it is first made of the directory, and the
requested name comes last.

* `Route`, `Route.into`, `lexical` — a path resolved by its text alone.
* `Files.directory?` — the place of the served directory.
* `exists_pieces` — the components of a requested path.
* `lexical_of_resolveRequest?` — by its text, the path leads to a child of the directory.
* `Files.locate?_of_resolveRequest?` — and so it does in a tree of files.
* **`request_confined`** — which names are turned down, and where the others lead.
* `cut_directory_served` — what a zero byte in the text of the directory does.
-/

namespace ReliableTransfer

variable {dir name path : Bytes}

/-! ## Paths as texts -/

/-- What the text of a path says about where it leads, whatever tree it is used in. -/
structure Route where
  /-- Whether the path starts at the root, and not in a working directory. -/
  absolute : Bool
  /-- The names on the way; a relative path may have steps up before them. -/
  names : List Bytes
deriving DecidableEq

namespace Route

/-- One name further. -/
def child (route : Route) (name : Bytes) : Route :=
  { route with names := route.names ++ [name] }

/-- One component of a path, by its text alone.  A step up cancels the name before it; where there
is none to cancel, it is left out at the root and kept in a relative path. -/
def into (route : Route) (component : Bytes) : Route :=
  if component = [] ∨ component = text "." then route
  else if component = text ".." then
    if route.names.getLast?.getD (text "..") ≠ text ".." then
      { route with names := route.names.dropLast }
    else if route.absolute then route
    else route.child component
  else route.child component

end Route

/-- A path resolved by its text alone. -/
def lexical (path : Bytes) : Route :=
  (splitAtByte 47 path).foldl Route.into ⟨path.head? == some 47, []⟩

/-- The pieces of two texts with a separator between them. -/
lemma splitAtByte_append_cons (sep : UInt8) (s t : Bytes) :
    splitAtByte sep (s ++ sep :: t) = splitAtByte sep s ++ splitAtByte sep t := by
  induction s with
  | nil => exact splitAtByte_append List.not_mem_nil t
  | cons c rest ih =>
      rw [List.cons_append, splitAtByte, ih, splitAtByte]
      cases hrest : splitAtByte sep rest with
      | nil => exact absurd hrest (splitAtByte_ne_nil sep rest)
      | cons piece pieces =>
          dsimp only [List.cons_append]
          split_ifs <;> rfl

/-! ## Names that are accepted -/

lemma acceptableName_iff :
    acceptableName name = true ↔
      ¬ (name = [] ∨ name = text "." ∨ name = text ".." ∨ 47 ∈ name ∨ 0 ∈ name) := by
  simp only [acceptableName, Bool.not_eq_true', Bool.or_eq_false_iff, List.isEmpty_eq_false_iff,
    beq_eq_false_iff_ne, List.contains_eq_mem, decide_eq_false_iff_not, not_or, ne_eq, and_assoc]

/-- No path is given exactly for the names that are turned down. -/
lemma resolveRequest?_eq_none :
    resolveRequest? dir name = none ↔
      name = [] ∨ name = text "." ∨ name = text ".." ∨ 47 ∈ name ∨ 0 ∈ name := by
  rw [← not_iff_not, ← acceptableName_iff, resolveRequest?]
  cases acceptableName name with
  | false => simp
  | true =>
      rw [Bool.not_true, if_neg Bool.false_ne_true]
      split_ifs <;> simp

lemma acceptable_of_resolveRequest? (h : resolveRequest? dir name = some path) :
    name ≠ [] ∧ name ≠ text "." ∧ name ≠ text ".." ∧ 47 ∉ name ∧ 0 ∉ name := by
  have hnone : resolveRequest? dir name ≠ none := by
    rw [h]
    nofun
  rwa [Ne, resolveRequest?_eq_none, not_or, not_or, not_or, not_or] at hnone

/-- In a directory without a text, the path is the name. -/
lemma eq_of_resolveRequest?_nil (h : resolveRequest? [] name = some path) : path = name := by
  rw [resolveRequest?, List.isEmpty_nil, if_pos (rfl : true = true)] at h
  split_ifs at h
  exact (Option.some.inj h).symm

/-- A path is made of a front, a slash and the name; the directory is that front, with or without
the slash. -/
lemma exists_front (h : resolveRequest? dir name = some path) (hdir : dir ≠ []) :
    ∃ front, path = front ++ 47 :: name ∧ (dir = front ∨ dir = front ++ [47]) := by
  rw [resolveRequest?] at h
  split_ifs at h with haccept hempty hslash
  · exact absurd (List.isEmpty_iff.1 hempty) hdir
  · obtain ⟨front, hfront⟩ := List.getLast?_eq_some_iff.1 (beq_iff_eq.1 hslash)
    refine ⟨front, ?_, .inr hfront⟩
    rw [← Option.some.inj h, List.append_cons, hfront]
  · refine ⟨dir, ?_, .inl rfl⟩
    rw [← Option.some.inj h, List.append_assoc, List.singleton_append]

/-- **The components of a requested path** are those of the directory and the name; behind a slash
at its end, the directory has an empty component more. -/
lemma exists_pieces (h : resolveRequest? dir name = some path) (hdir : dir ≠ []) :
    path.head? = dir.head? ∧ ∃ pieces, splitAtByte 47 path = pieces ++ [name] ∧
      (splitAtByte 47 dir = pieces ∨ splitAtByte 47 dir = pieces ++ [[]]) := by
  obtain ⟨-, -, -, hslash, -⟩ := acceptable_of_resolveRequest? h
  obtain ⟨front, rfl, hfront⟩ := exists_front h hdir
  refine ⟨?_, splitAtByte 47 front, ?_, ?_⟩
  · rcases hfront with rfl | rfl
    · rw [List.head?_append, Option.or_of_isSome (List.isSome_head?.2 hdir)]
    · cases front <;> rfl
  · rw [splitAtByte_append_cons, splitAtByte_of_notMem hslash]
  · rcases hfront with rfl | rfl
    · exact .inl rfl
    · exact .inr (splitAtByte_append_cons 47 front [])

/-- Different names have different paths. -/
lemma resolveRequest?_injective {name' : Bytes} (h : resolveRequest? dir name = some path)
    (h' : resolveRequest? dir name' = some path) : name = name' := by
  by_cases hdir : dir = []
  · subst hdir
    exact (eq_of_resolveRequest?_nil h).symm.trans (eq_of_resolveRequest?_nil h')
  · obtain ⟨-, pieces, hpieces, -⟩ := exists_pieces h hdir
    obtain ⟨-, pieces', hpieces', -⟩ := exists_pieces h' hdir
    have heq : pieces ++ [name] = pieces' ++ [name'] := hpieces.symm.trans hpieces'
    exact List.singleton_inj.1 (List.append_inj_right' heq rfl)

/-- A requested path starts at the root exactly if the directory does. -/
lemma head?_of_resolveRequest? (h : resolveRequest? dir name = some path) :
    path.head? = some 47 ↔ dir.head? = some 47 := by
  obtain ⟨-, -, -, hslash, -⟩ := acceptable_of_resolveRequest? h
  by_cases hdir : dir = []
  · subst hdir
    obtain rfl := eq_of_resolveRequest?_nil h
    exact iff_of_false (fun e => hslash (List.mem_of_mem_head? e)) nofun
  · rw [(exists_pieces h hdir).1]

/-! ## Where the text of a path leads -/

lemma Route.into_nil (route : Route) : route.into [] = route := by
  rw [into, if_pos (.inl rfl)]

lemma Route.into_name (route : Route) (hempty : name ≠ []) (hdot : name ≠ text ".")
    (hdots : name ≠ text "..") : route.into name = route.child name := by
  rw [into, if_neg (not_or.2 ⟨hempty, hdot⟩), if_neg hdots]

/-- **By its text, a requested path leads to a child of the directory.** -/
lemma lexical_of_resolveRequest? (h : resolveRequest? dir name = some path) :
    lexical path = (lexical dir).child name := by
  obtain ⟨hempty, hdot, hdots, hslash, -⟩ := acceptable_of_resolveRequest? h
  have hhead : (path.head? == some 47) = (dir.head? == some 47) := by
    rw [Bool.eq_iff_iff, beq_iff_eq, beq_iff_eq, head?_of_resolveRequest? h]
  rw [lexical, hhead]
  by_cases hdir : dir = []
  · subst hdir
    obtain rfl := eq_of_resolveRequest?_nil h
    rw [splitAtByte_of_notMem hslash, List.foldl_cons, List.foldl_nil,
      Route.into_name _ hempty hdot hdots]
    rfl
  · obtain ⟨-, pieces, hpieces, hdirectory⟩ := exists_pieces h hdir
    have hfold : lexical dir = pieces.foldl Route.into ⟨dir.head? == some 47, []⟩ := by
      rw [lexical]
      rcases hdirectory with hdirectory | hdirectory
      · rw [hdirectory]
      · rw [hdirectory, List.foldl_append, List.foldl_cons, List.foldl_nil, Route.into_nil]
    rw [hpieces, List.foldl_append, ← hfold, List.foldl_cons, List.foldl_nil,
      Route.into_name _ hempty hdot hdots]

/-! ## Where a path leads in a tree of files -/

/-- The place of the served directory: without a text, the working directory. -/
def Files.directory? (files : Files) (dir : Bytes) : Option Location :=
  if dir.isEmpty then some files.home else files.locate? dir

namespace Files

variable {files : Files} {here place : Location} {source : Source}

lemma source?_eq_some : files.source? path = some source ↔
    ∃ place node, files.locate? path = some place ∧ files.node? place = some node ∧
      node.source = source := by
  simp only [source?, Option.bind_eq_bind, Option.bind_eq_some_iff, Option.pure_def,
    Option.some.injEq]
  constructor
  · rintro ⟨place, hplace, node, hnode, hsource⟩
    exact ⟨place, node, hplace, hnode, hsource⟩
  · rintro ⟨place, node, hplace, hnode, hsource⟩
    exact ⟨place, hplace, node, hnode, hsource⟩

/-- Going along some components and then along others. -/
lemma walk_append (files : Files) (here : Location) (front rest : List Bytes) :
    files.walk here (front ++ rest) = (files.walk here front).bind (files.walk · rest) := by
  induction front generalizing here with
  | nil => rfl
  | cons component front ih =>
      rw [List.cons_append, walk, walk]
      split_ifs
      · rfl
      · exact ih _
      · exact ih _
      · rfl
      · exact ih _

/-- The last step to a name: what it is taken from is a directory. -/
lemma walk_name (hempty : name ≠ []) (hdot : name ≠ text ".") (hdots : name ≠ text "..")
    (h : files.walk here [name] = some place) :
    files.node? here = some .directory ∧ place = here.child name := by
  rw [walk, if_neg (not_or.2 ⟨hempty, hdot⟩), if_neg hdots] at h
  split_ifs at h with hnode hlength
  rw [walk] at h
  exact ⟨of_not_not hnode, (Option.some.inj h).symm⟩

lemma walk_nil_name (hnode : files.node? here = some .directory) :
    files.walk here [[]] = some here := by
  rw [walk, if_neg (not_not.2 hnode), if_pos (.inl rfl), walk]

lemma locate?_eq_some (hnul : 0 ∉ path) : files.locate? path = some place ↔
    path ≠ [] ∧ path.length < maxPath ∧
      files.walk (files.start path) (splitAtByte 47 path) = some place := by
  simp only [locate?, untilNul_of_notMem hnul]
  split_ifs with hbad
  · rw [Bool.or_eq_true, List.isEmpty_iff, decide_eq_true_eq] at hbad
    refine iff_of_false nofun fun h => ?_
    rcases hbad with hbad | hbad
    · exact h.1 hbad
    · exact absurd h.2.1 (Nat.not_lt.2 hbad)
  · rw [Bool.or_eq_true, List.isEmpty_iff, decide_eq_true_eq, not_or, ge_iff_le, Nat.not_le] at hbad
    exact ⟨fun h => ⟨hbad.1, hbad.2, h⟩, fun h => h.2.2⟩

/-- **In a tree of files, a requested path leads to a child of the directory**, if the text of the
directory has no zero byte at which the path would be cut. -/
lemma locate?_of_resolveRequest? (h : resolveRequest? dir name = some path) (hnul : 0 ∉ dir)
    (hplace : files.locate? path = some place) :
    ∃ here, files.directory? dir = some here ∧ files.node? here = some .directory ∧
      place = here.child name := by
  obtain ⟨hempty, hdot, hdots, hslash, hname⟩ := acceptable_of_resolveRequest? h
  by_cases hdir : dir = []
  · subst hdir
    obtain rfl := eq_of_resolveRequest?_nil h
    obtain ⟨-, -, hwalk⟩ := (locate?_eq_some hname).1 hplace
    have hstart : files.start path = files.home :=
      if_neg fun e => hslash (List.mem_of_mem_head? (beq_iff_eq.1 e))
    rw [hstart, splitAtByte_of_notMem hslash] at hwalk
    exact ⟨files.home, rfl, walk_name hempty hdot hdots hwalk⟩
  have hshape : 0 ∉ path ∧ dir.length ≤ path.length := by
    obtain ⟨front, rfl, rfl | rfl⟩ := exists_front h hdir
    · simp [hnul, hname]
    · simp at hnul
      simp [hnul, hname]
  obtain ⟨hhead, pieces, hpieces, hdirectory⟩ := exists_pieces h hdir
  obtain ⟨-, hlength, hwalk⟩ := (locate?_eq_some hshape.1).1 hplace
  have hstart : files.start path = files.start dir := by rw [start, start, hhead]
  rw [hstart, hpieces, walk_append, Option.bind_eq_some_iff] at hwalk
  obtain ⟨here, hhere, hlast⟩ := hwalk
  obtain ⟨hnode, hchild⟩ := walk_name hempty hdot hdots hlast
  refine ⟨here, ?_, hnode, hchild⟩
  rw [directory?, if_neg (mt List.isEmpty_iff.1 hdir), locate?_eq_some hnul]
  refine ⟨hdir, Nat.lt_of_le_of_lt hshape.2 hlength, ?_⟩
  rcases hdirectory with hdirectory | hdirectory
  · rw [hdirectory, hhere]
  · rw [hdirectory, walk_append, hhere, Option.bind_some, walk_nil_name hnode]

/-- What is opened at a requested path is what the directory holds under that name. -/
lemma source?_of_resolveRequest? (h : resolveRequest? dir name = some path) (hnul : 0 ∉ dir)
    (hsource : files.source? path = some source) :
    ∃ here node, files.directory? dir = some here ∧ files.node? here = some .directory ∧
      files.node? (here.child name) = some node ∧ node.source = source := by
  obtain ⟨place, node, hplace, hnode, rfl⟩ := source?_eq_some.1 hsource
  obtain ⟨here, hhere, hdirectory, rfl⟩ := locate?_of_resolveRequest? h hnul hplace
  exact ⟨here, node, hhere, hdirectory, hnode, rfl⟩

end Files

/-! ## The server -/

/-- **A request begins a transfer of what the directory holds under that name**, or the run is over
and nothing was sent. -/
lemma Server.acceptRequest_cases (s : Server) (r : Received) (hnul : 0 ∉ s.options.directory) :
    ((∃ conclusion, (s.acceptRequest r).stage = .over conclusion) ∧
      (s.acceptRequest r).host.sent = s.host.sent) ∨
    ∃ path here node w, resolveRequest? s.options.directory r.packet.payload = some path ∧
      s.host.files.directory? s.options.directory = some here ∧
      s.host.files.node? here = some .directory ∧
      s.host.files.node? (here.child r.packet.payload) = some node ∧
      Sender.create s.options.settings = .ok w ∧
      s.acceptRequest r = (s.asked r).beginTransfer path node.source w := by
  -- whatever is wrong with a request, the run ends before anything is sent
  have refused : ∀ n,
      (∃ conclusion, (((s.asked r).note n).finish false).stage = .over conclusion) ∧
        (((s.asked r).note n).finish false).host.sent = s.host.sent := by
    intro n
    obtain ⟨endpoint, host, hfinish, _, _, hsent⟩ := finish_eq ((s.asked r).note n) false
    rw [hfinish]
    exact ⟨⟨_, rfl⟩, hsent⟩
  rw [acceptRequest_eq]
  cases hpath : resolveRequest? s.options.directory r.packet.payload with
  | none => exact .inl (refused _)
  | some path =>
      dsimp only
      cases hsource : s.host.files.source? path with
      | none => exact .inl (refused _)
      | some source =>
          dsimp only
          obtain ⟨here, node, hhere, hdirectory, hnode, rfl⟩ :=
            Files.source?_of_resolveRequest? hpath hnul hsource
          cases hw : Sender.create s.options.settings with
          | error cause => exact .inl ⟨⟨_, rfl⟩, rfl⟩
          | ok w => exact .inr ⟨path, here, node, w, rfl, hhere, hdirectory, hnode, rfl, rfl⟩

/-- **Requests stay inside the served directory.**  The names that are turned down are the empty
one, the two dot names, and those with a slash or a zero byte.  For any other, the path leads by
its text to the child of that name of what the directory leads to, from the root exactly if the
directory starts there, and no other name has that path.  If the text of the directory has no zero
byte, then in any tree of files what is opened at the path is what the directory holds under that
name, and nothing else is what a server begins to send. -/
theorem request_confined (dir name : Bytes) :
    (resolveRequest? dir name = none ↔
      name = [] ∨ name = text "." ∨ name = text ".." ∨ 47 ∈ name ∨ 0 ∈ name) ∧
    ∀ path, resolveRequest? dir name = some path →
      lexical path = (lexical dir).child name ∧
      (path.head? = some 47 ↔ dir.head? = some 47) ∧
      (∀ name', resolveRequest? dir name' = some path → name' = name) ∧
      (0 ∉ dir →
        (∀ (files : Files) source, files.source? path = some source →
          ∃ here node, files.directory? dir = some here ∧ files.node? here = some .directory ∧
            files.node? (here.child name) = some node ∧ node.source = source) ∧
        ∀ (s : Server) (r : Received), s.options.directory = dir → r.packet.payload = name →
          ((∃ conclusion, (s.acceptRequest r).stage = .over conclusion) ∧
            (s.acceptRequest r).host.sent = s.host.sent) ∨
          ∃ here node w, s.host.files.directory? dir = some here ∧
            s.host.files.node? here = some .directory ∧
            s.host.files.node? (here.child name) = some node ∧
            Sender.create s.options.settings = .ok w ∧
            s.acceptRequest r = (s.asked r).beginTransfer path node.source w) := by
  refine ⟨resolveRequest?_eq_none, fun path h => ⟨lexical_of_resolveRequest? h, ?_,
    fun name' h' => resolveRequest?_injective h' h, fun hnul => ⟨fun files source =>
      Files.source?_of_resolveRequest? h hnul, ?_⟩⟩⟩
  · exact head?_of_resolveRequest? h
  · rintro s r rfl rfl
    obtain hover | ⟨path', here, node, w, hpath, hhere, hdirectory, hnode, hw, hbegin⟩ :=
      s.acceptRequest_cases r hnul
    · exact .inl hover
    · obtain rfl : path' = path := Option.some.inj (hpath.symm.trans h)
      exact .inr ⟨here, node, w, hhere, hdirectory, hnode, hw, hbegin⟩

/-- A tree with a directory below `srv` and a file below another. -/
def servedFiles : Files :=
  (Files.empty.addDirectory (text "srv/a")).addFile (text "srv/files/..x") [1, 2, 3]

/-- The directory may lie anywhere: this one is reached by a step up from the working directory,
and a file with a name of dots is served from it. -/
theorem request_confined_dotted :
    resolveRequest? (text "../home/srv/./a/../files//") (text "..x")
      = some (text "../home/srv/./a/../files//..x") ∧
    lexical (text "../home/srv/./a/../files//..x")
      = ⟨false, [text "..", text "home", text "srv", text "files", text "..x"]⟩ ∧
    servedFiles.source? (text "../home/srv/./a/../files//..x") = some (.content [1, 2, 3]) ∧
    ∃ here node, servedFiles.directory? (text "../home/srv/./a/../files//") = some here ∧
      servedFiles.node? here = some .directory ∧
      servedFiles.node? (here.child (text "..x")) = some node ∧
      node.source = .content [1, 2, 3] := by
  have hpath : resolveRequest? (text "../home/srv/./a/../files//") (text "..x")
      = some (text "../home/srv/./a/../files//..x") := by decide +kernel
  have hsource : servedFiles.source? (text "../home/srv/./a/../files//..x")
      = some (.content [1, 2, 3]) := by decide +kernel
  have hdir : lexical (text "../home/srv/./a/../files//")
      = ⟨false, [text "..", text "home", text "srv", text "files"]⟩ := by decide +kernel
  obtain ⟨-, hall⟩ := request_confined (text "../home/srv/./a/../files//") (text "..x")
  obtain ⟨hlexical, -, -, hopened⟩ := hall _ hpath
  rw [hdir] at hlexical
  exact ⟨hpath, hlexical, hsource, (hopened (by decide +kernel)).1 _ _ hsource⟩

/-- A server that was told a directory with a zero byte in its text, and a file of the name before
that byte. -/
def cutServer : ServerOptions where
  address := text "10.0.0.1"
  directory := [102, 0]

/-- The machine of that server: the file of one byte, a request for `x`, and an acknowledgement. -/
def cutHost : Host where
  files := Files.empty.addFile [102] [1]
  arrivals := [((0 : Int), Flags.request, ([120] : Bytes)), (10, Flags.ack, [])].filterMap
    fun (time, flags, payload) =>
      (posting? (text "10.0.0.2") 12346 cutServer.address 12345
        (time, ⟨0, 1, flags, payload⟩)).map fun x => ⟨time, .datagram x.2.2.2⟩

/-- **A zero byte in the text of the directory** is where the system cuts the path: then the
directory itself is opened, which is a file here, and sent under any name. -/
theorem cut_directory_served :
    resolveRequest? cutServer.directory [120] = some [102, 0, 47, 120] ∧
    cutHost.files.source? [102, 0, 47, 120] = some (.content [1]) ∧
    (¬ ∃ here, cutHost.files.directory? cutServer.directory = some here ∧
      cutHost.files.locate? [102, 0, 47, 120] = some (here.child [120])) ∧
    (Server.run cutServer 1000 cutHost).report.fileName = [120] ∧
    (Server.run cutServer 1000 cutHost).report.fileSize = 1 := by
  refine ⟨by decide +kernel, by decide +kernel, ?_, by decide +kernel, by decide +kernel⟩
  rintro ⟨here, hhere, hplace⟩
  have hdirectory : cutHost.files.directory? cutServer.directory = some ⟨[text "home", [102]]⟩ := by
    decide +kernel
  have hpath : cutHost.files.locate? [102, 0, 47, 120] = some ⟨[text "home", [102]]⟩ := by
    decide +kernel
  obtain rfl : ⟨[text "home", [102]]⟩ = here := Option.some.inj (hdirectory.symm.trans hhere)
  have hplaces := Option.some.inj (hpath.symm.trans hplace)
  exact absurd hplaces (by decide)

end ReliableTransfer
