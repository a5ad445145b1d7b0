/-
# A disk

A disk is a tree of directories, files, links and devices. An entry sits at a
location, the names from it up to the root; the root is always a directory. An
entry lies in the tree when the location above it is a directory, and every
operation that adds one sees to that. Files and directories have modes: that of
a directory tells who may list it, change its names and pass through it.

Key definitions: `Location`, `Mode`, `Entry`, `Disk`, `Disk.get`, `Disk.put`, `Disk.erase`,
`Disk.modeAt`.
Key theorems: `Disk.get_put_self`, `Disk.get_put_of_ne`, `Disk.get_erase_self`,
`Disk.get_erase_of_ne`.
-/
import StressBench.Disk.Path

namespace StressBench

/-- Where an entry sits: its name, the name of the directory it is in, and so on
up to the root. -/
abbrev Location := List Name

/-- The path of a location from the root. -/
def Location.path : Location → Path
  | [] => [Path.slash]
  | loc => loc.reverse.flatMap (Path.slash :: ·)

/-- The devices: one that takes and gives nothing, one that gives zeros without
end, one that is always full, one that gives bytes of no meaning, and one that
stands for a stream of the process that opens it, which is a pipe or a terminal. -/
inductive Device
  | null
  | zero
  | full
  | random
  | stream (number : Nat)
  deriving DecidableEq, Repr

/-- What may be done with a file or a directory: nine bits, those of its owner first. -/
abbrev Mode := Nat

namespace Mode

/-- Whether the owner may read, or list. -/
def canRead (m : Mode) : Bool :=
  m &&& 0o400 != 0

/-- Whether the owner may write, or change the names. -/
def canWrite (m : Mode) : Bool :=
  m &&& 0o200 != 0

/-- Whether the owner may execute, or pass through. -/
def canExecute (m : Mode) : Bool :=
  m &&& 0o100 != 0

/-- The mode of a new file. -/
def ofFile : Mode := 0o644

/-- The mode of a new program. -/
def ofProgram : Mode := 0o755

/-- The mode of a new directory. -/
def ofDirectory : Mode := 0o755

end Mode

/-- What a location holds. -/
inductive Entry
  | directory (mode : Mode)
  | file (content : Bytes) (mode : Mode)
  | link (target : Path)
  | device (kind : Device)
  deriving DecidableEq, Repr

namespace Entry

/-- Whether the entry is a directory. -/
def isDirectory : Entry → Bool
  | .directory _ => true
  | _ => false

/-- A new directory. -/
def newDirectory : Entry :=
  .directory .ofDirectory

end Entry

/-- A disk: the entries below the root, and how many bytes one file can hold
before the disk is full, if there is a limit. -/
structure Disk where
  entries : List (Location × Entry)
  room : Option Nat := none
  deriving DecidableEq, Repr

namespace Disk

/-- The entry at a location. The root is a new directory unless its mode was changed. -/
def get (d : Disk) : Location → Option Entry
  | [] =>
    match d.entries.lookup [] with
    | some (.directory mode) => some (.directory mode)
    | _ => some .newDirectory
  | loc => d.entries.lookup loc

/-- The disk with an entry put at a location, in place of what was there. -/
def put (d : Disk) (loc : Location) (e : Entry) : Disk :=
  { d with entries := (loc, e) :: d.entries.filter fun p => p.1 != loc }

/-- The disk without the entry at a location. -/
def erase (d : Disk) (loc : Location) : Disk :=
  { d with entries := d.entries.filter fun p => p.1 != loc }

/-- The mode of the directory at a location; where none is, that of a new one. -/
def modeAt (d : Disk) (loc : Location) : Mode :=
  match d.get loc with
  | some (.directory mode) => mode
  | _ => .ofDirectory

/-- Whether a directory may be passed through. -/
def maySearch (d : Disk) (loc : Location) : Bool :=
  (d.modeAt loc).canExecute

/-- Whether names may be added to a directory and taken from it. -/
def mayChange (d : Disk) (loc : Location) : Bool :=
  (d.modeAt loc).canWrite

/-- Whether the names of a directory may be listed. -/
def mayList (d : Disk) (loc : Location) : Bool :=
  (d.modeAt loc).canRead

/-- The names of a directory's entries. -/
def children (d : Disk) (loc : Location) : List Name :=
  d.entries.filterMap fun p =>
    match p.1 with
    | name :: parent => if parent = loc then some name else none
    | [] => none

/-- The entries at any depth below a directory. -/
def below (d : Disk) (loc : Location) : List (Location × Entry) :=
  d.entries.filter fun p => p.1.length > loc.length && loc.isSuffixOf p.1

/-! ### What one operation does to the view -/

theorem lookup_filter_ne {α β : Type} [BEq α] [LawfulBEq α] [DecidableEq α] (es : List (α × β))
    (k k' : α) :
    (es.filter fun p => p.1 != k).lookup k' = if k' = k then none else es.lookup k' := by
  induction es with
  | nil => simp
  | cons p es ih =>
    obtain ⟨l, e⟩ := p
    by_cases h : k' = l
    · subst h
      by_cases hl : k' = k
      · simpa [hl] using ih
      · simp [hl]
    · have hb : (k' == l) = false := by simpa using h
      by_cases hl : l = k
      · subst hl
        simp [h, hb, ih, List.lookup_cons]
      · simp [hl, hb, List.lookup_cons, ih]

theorem get_put_self (d : Disk) {loc : Location} (e : Entry) (h : loc ≠ []) :
    (d.put loc e).get loc = some e := by
  cases loc with
  | nil => exact absurd rfl h
  | cons n l => simp [get, put]

theorem get_put_of_ne (d : Disk) {loc loc' : Location} (e : Entry) (h : loc' ≠ loc) :
    (d.put loc e).get loc' = d.get loc' := by
  have hb : (loc' == loc) = false := by simpa using h
  have hl : (d.put loc e).entries.lookup loc' = d.entries.lookup loc' := by
    simp [put, List.lookup_cons, hb, lookup_filter_ne, h]
  cases loc' with
  | nil => simp only [get, hl]
  | cons n l => exact hl

theorem get_erase_self (d : Disk) {loc : Location} (h : loc ≠ []) :
    (d.erase loc).get loc = none := by
  cases loc with
  | nil => exact absurd rfl h
  | cons n l => simp [get, erase, lookup_filter_ne]

theorem get_erase_of_ne (d : Disk) {loc loc' : Location} (h : loc' ≠ loc) :
    (d.erase loc).get loc' = d.get loc' := by
  have hl : (d.erase loc).entries.lookup loc' = d.entries.lookup loc' := by
    simp [erase, lookup_filter_ne, h]
  cases loc' with
  | nil => simp only [get, hl]
  | cons n l => exact hl

/-- The modes of the directories hang on the entries alone. -/
theorem modeAt_congr {d d' : Disk} {loc : Location} (h : d'.get loc = d.get loc) :
    d'.modeAt loc = d.modeAt loc := by
  rw [modeAt, modeAt, h]

end Disk
end StressBench
