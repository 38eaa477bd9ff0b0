import Mathlib.Tactic.Common
import ReliableTransfer.Host.Files

/-!
# Writing a file

Where a path leads to depends on the directories alone, so writing to a place that is no directory
leaves every path leading where it led.

* `Node.kept` — what a file keeps of a content, as far as there is room for it.
* `Files.node?_set` — what the places hold after one of them was written.
* **`Files.locate?_set`** — paths lead where they led.
* `Files.Ordinary` — a path to a regular file, or to a place where there is nothing yet.
* **`Files.exists_create?`** — what is kept of what is written to such a path is its content.
-/

namespace ReliableTransfer

/-! ## Regular files -/

namespace Node

variable {node : Node}

lemma ne_directory_of_isRegular (h : node.isRegular = true) : node ≠ .directory := by
  rintro rfl
  cases h

lemma isRegular_holding (h : node.isRegular = true) (content : Bytes) :
    (node.holding content).isRegular = true := by
  cases node with
  | file old => rfl
  | damaged readable => rfl
  | bounded room old => rfl
  | _ => cases h

/-- What is kept of a content: as much of it as there is room for. -/
def kept (node : Node) (content : Bytes) : Bytes :=
  node.room?.elim content content.take

lemma kept_prefix (node : Node) (content : Bytes) : node.kept content <+: content := by
  rw [kept]
  cases node.room? with
  | none => exact List.prefix_rfl
  | some room => exact List.take_prefix _ _

/-- What was written to a regular file is its content, as far as it was kept. -/
lemma content?_holding (h : node.isRegular = true) (content : Bytes) :
    (node.holding content).content? = some (node.kept content) := by
  cases node with
  | file old => rfl
  | damaged readable => rfl
  | bounded room old => rfl
  | _ => cases h

end Node

namespace Files

variable {files files' : Files} {place : Location}

/-! ## Where paths lead -/

/-- Where a path leads to depends on the directories alone. -/
lemma walk_congr (h : ∀ here, files.node? here = some .directory ↔
      files'.node? here = some .directory) (here : Location) (components : List Bytes) :
    files.walk here components = files'.walk here components := by
  induction components generalizing here with
  | nil => rfl
  | cons component rest ih =>
      simp only [walk, ih, ne_eq, h]

lemma lookup_filter {here : Location} (hne : here ≠ place) (nodes : List (Location × Node)) :
    (nodes.filter (·.1 != place)).lookup here = nodes.lookup here := by
  induction nodes with
  | nil => rfl
  | cons entry rest ih =>
      rw [List.filter_cons, List.lookup_cons]
      by_cases hentry : entry.1 = place
      · rw [if_neg (by simp [hentry]), ih, beq_eq_false_iff_ne.2 (hentry ▸ hne)]
      · rw [if_pos (by simpa using hentry), List.lookup_cons, ih]

/-- What the places hold after one of them was written. -/
lemma node?_set (files : Files) (node : Node) (hplace : files.isAbove place = false)
    (here : Location) :
    (files.set place node).node? here = if here = place then some node else files.node? here := by
  rw [node?, node?, show (files.set place node).isAbove here = files.isAbove here from rfl, set]
  dsimp only
  by_cases hhere : here = place
  · rw [hhere, hplace, if_neg Bool.false_ne_true, List.lookup_cons_self, if_pos rfl]
  · rw [List.lookup_cons, beq_eq_false_iff_ne.2 hhere, lookup_filter hhere, if_neg hhere]

/-- **Writing to a place that is no directory** leaves every path leading where it led. -/
lemma locate?_set (node : Node) (hplace : files.isAbove place = false)
    (hold : files.node? place ≠ some .directory) (hnew : node ≠ .directory) (path : Bytes) :
    (files.set place node).locate? path = files.locate? path := by
  have hdirectories : ∀ here, (files.set place node).node? here = some .directory ↔
      files.node? here = some .directory := by
    intro here
    rw [node?_set files node hplace]
    split_ifs with hhere
    · rw [hhere, Option.some.injEq]
      exact iff_of_false hnew hold
    · rfl
  have hstart : ∀ text, (files.set place node).start text = files.start text := fun _ => rfl
  rw [locate?, locate?]
  simp only [walk_congr hdirectories, hstart]

/-- What was set at a place is read from every path that leads there. -/
lemma content?_set (hplace : files.isAbove place = false)
    (hold : files.node? place ≠ some .directory) {path : Bytes}
    (hlocate : files.locate? path = some place) {node : Node} (hnew : node ≠ .directory) :
    (files.set place node).content? path = node.content? := by
  have hnode : (files.set place node).node? place = some node := by
    rw [node?_set files _ hplace, if_pos rfl]
  rw [content?, locate?_set node hplace hold hnew, hlocate, Option.bind_eq_bind, Option.bind_some,
    hnode]
  rfl

/-! ## Ordinary files -/

/-- A path to a regular file, or to a place where there is nothing yet. -/
def Ordinary (files : Files) (path : Bytes) : Prop :=
  ∃ place, files.locate? path = some place ∧ ∀ node ∈ files.node? place, node.isRegular = true

/-- What is kept of a content at an opened place. -/
def kept (files : Files) (place : Location) (content : Bytes) : Bytes :=
  (files.node? place).elim content (·.kept content)

lemma kept_prefix (files : Files) (place : Location) (content : Bytes) :
    files.kept place content <+: content := by
  rw [kept]
  cases files.node? place with
  | none => exact List.prefix_rfl
  | some node => exact node.kept_prefix content

/-- All that gets to a place is kept there. -/
lemma kept_eq_of_accepts {content : Bytes} (h : files.accepts place content = true) :
    files.kept place content = content := by
  rw [accepts] at h
  rw [kept]
  cases hnode : files.node? place with
  | none => rfl
  | some node =>
      rw [hnode, Option.bind_some] at h
      rw [Option.elim_some, Node.kept]
      cases hroom : node.room? with
      | none => rfl
      | some room =>
          rw [hroom, Option.all_some, decide_eq_true_eq] at h
          exact List.take_of_length_le h

/-- **Opening an ordinary path for writing** leaves an empty file there, and what is kept of what is
put there in the end is its content. -/
lemma exists_create? {path : Bytes} (h : files.Ordinary path) :
    ∃ place created, files.create? path = some (place, created) ∧
      created.content? path = some [] ∧
      ∀ content, (created.put place content).content? path
        = some (created.kept place content) := by
  obtain ⟨place, hlocate, hregular⟩ := h
  have hold : files.node? place ≠ some .directory := fun hdirectory =>
    Bool.false_ne_true (hregular _ hdirectory)
  have hplace : files.isAbove place = false := by
    cases habove : files.isAbove place with
    | false => rfl
    | true => exact absurd (by rw [node?, if_pos habove]) hold
  -- a file that was there keeps its limits, and any other has none
  obtain ⟨node, hnode, hcreate⟩ : ∃ node : Node, node.isRegular = true ∧
      files.create? path = some (place, files.set place (node.holding [])) := by
    rw [create?, hlocate, Option.bind_eq_bind, Option.bind_some]
    cases hsome : files.node? place with
    | none => exact ⟨.file [], rfl, rfl⟩
    | some node =>
        have hnode := hregular node hsome
        refine ⟨node, hnode, ?_⟩
        cases node with
        | file old => rfl
        | damaged readable => rfl
        | bounded room old => rfl
        | _ => cases hnode
  have hfresh := Node.isRegular_holding hnode []
  have hcreated : (files.set place (node.holding [])).node? place = some (node.holding []) := by
    rw [node?_set files _ hplace, if_pos rfl]
  have hplace' : (files.set place (node.holding [])).isAbove place = false := hplace
  have hlocate' : (files.set place (node.holding [])).locate? path = some place :=
    (locate?_set _ hplace hold (Node.ne_directory_of_isRegular hfresh) path).trans hlocate
  refine ⟨place, files.set place (node.holding []), hcreate, ?_, fun content => ?_⟩
  · rw [content?_set hplace hold hlocate (Node.ne_directory_of_isRegular hfresh),
      Node.content?_holding hnode, List.prefix_nil.1 (node.kept_prefix [])]
  · have hput := Node.isRegular_holding hfresh content
    rw [put, hcreated]
    dsimp only
    rw [if_pos hfresh, kept, hcreated, Option.elim_some, ← Node.content?_holding hfresh]
    refine content?_set hplace' ?_ hlocate' (Node.ne_directory_of_isRegular hput)
    rw [hcreated, Ne, Option.some.injEq]
    exact Node.ne_directory_of_isRegular hfresh

end Files

end ReliableTransfer
