/-
# Paths that name a file or a free name

A path that names a file, or a name that is free, in a directory that may be changed names
the same place on every disk that differs only in files: a walk looks at directories and
links, and these are the same. So the place is found again after any number of files have
been written and removed, and what one such step does can be said at this place.

Key definitions: `Disk.NamesFile`, `Disk.Writable`, `Disk.Absent`.
Key theorems: `Disk.NamesFile.again`, `Disk.NamesFile.putFile_eq`,
`Disk.NamesFile.removeFile_eq`.
-/
import StressBench.Proofs.Disk.Links
import StressBench.Proofs.Scratch.Creation

namespace StressBench
namespace Disk

/-! ### Paths -/

/-- The path names a file or a free name: no directory, no link and no device. The directory
that it is in may be changed. -/
structure NamesFile (d : Disk) (cwd : Location) (p : Path) (loc : Location) : Prop where
  fileOrFree : d.FileOrFree loc
  changeable : d.mayChange loc.tail = true
  resolves : ∃ parent n, loc = n :: parent ∧ d.resolve .never cwd p = .ok (.name parent n false)

/-- No file sits at the location that may not be written. -/
def Writable (d : Disk) (loc : Location) : Prop :=
  ∀ content mode, d.get loc = some (.file content mode) → mode.canWrite = true

/-- Nothing is at the path. -/
def Absent (d : Disk) (cwd : Location) (p : Path) : Prop :=
  d.lookup cwd p = .error (.system Errno.noEntry)

namespace NamesFile

variable {d d' d₁ : Disk} {cwd loc loc' : Location} {p : Path} {bytes : Bytes}

/-- The place is named whatever is to be done with a link at the end. -/
theorem resolve (h : d.NamesFile cwd p loc) (follow : Follow) :
    ∃ parent n, loc = n :: parent ∧ d.resolve follow cwd p = .ok (.name parent n false) := by
  obtain ⟨hfree, -, parent, n, rfl, hr⟩ := h
  exact ⟨parent, n, rfl, resolve_sameTree hr (.refl d) nofun
    fun target ht => absurd ht (hfree.ne_link target)⟩

/-- **The same place is named again.** -/
theorem again (h : d.NamesFile cwd p loc) (htree : SameTree d d') : d'.NamesFile cwd p loc :=
  ⟨htree.fileOrFree h.fileOrFree, (htree.mayChange_eq _).trans h.changeable,
    Names.again h.resolves htree⟩

theorem ne_nil (h : d.NamesFile cwd p loc) : loc ≠ [] := by
  obtain ⟨-, -, parent, n, rfl, -⟩ := h
  exact List.cons_ne_nil n parent

theorem unique (h : d.NamesFile cwd p loc) (h' : d.NamesFile cwd p loc') : loc = loc' :=
  Names.unique h.resolves h'.resolves

/-! ### One step at the place -/

theorem lookup_eq (h : d.NamesFile cwd p loc) : d.lookup cwd p = match d.get loc with
    | none => .error (.system Errno.noEntry)
    | some e => .ok (loc, e) := by
  obtain ⟨parent, n, rfl, hr⟩ := h.resolve .always
  unfold lookup
  rw [hr]
  cases hg : d.get (n :: parent) <;> simp only [hg, Bool.false_eq_true, false_and, if_false]

theorem absent_iff (h : d.NamesFile cwd p loc) : d.Absent cwd p ↔ d.get loc = none := by
  unfold Absent
  rw [h.lookup_eq]
  cases d.get loc <;> simp

theorem holds_iff (h : d.NamesFile cwd p loc) :
    d.Holds cwd p bytes ↔ ∃ mode, d.get loc = some (.file bytes mode) := by
  unfold Holds
  rw [h.lookup_eq]
  cases hg : d.get loc with
  | none => simp
  | some e =>
    constructor
    · rintro ⟨loc', mode, heq⟩
      exact ⟨mode, by rw [(Prod.mk.inj (Except.ok.inj heq)).2]⟩
    · rintro ⟨mode, heq⟩
      exact ⟨loc, mode, by rw [Option.some.inj heq]⟩

theorem opens (h : d.NamesFile cwd p loc) (hw : d.Writable loc) :
    ∃ d', d.openForWriting cwd p = .ok (loc, d') := by
  obtain ⟨parent, n, rfl, hr⟩ := h.resolve .unlessSlash
  unfold openForWriting
  rw [hr]
  simp only [Bool.false_eq_true, if_false]
  rcases hg : d.get (n :: parent) with _ | e
  · have hchange : d.mayChange parent = true := h.changeable
    simp only [if_pos hchange]
    exact ⟨_, rfl⟩
  · obtain ⟨content, mode, rfl⟩ := h.fileOrFree e hg
    simp only [if_pos (hw content mode hg)]
    exact ⟨_, rfl⟩

/-- **A file that opens is written** on a disk with room, and has its bytes at the place;
the disk is the same elsewhere. -/
theorem putFile_eq (h : d.NamesFile cwd p loc) (hopen : d.openForWriting cwd p = .ok (loc', d'))
    (hroom : d.HasRoom bytes.length) : ∃ d₁ mode, d.putFile cwd p bytes = .ok d₁ ∧
      d₁.get loc = some (.file bytes mode) ∧ mode.canWrite = true ∧ AgreeOff loc d d₁ ∧
      d₁.room = d.room := by
  obtain ⟨parent, n, rfl, hr⟩ := h.resolve .unlessSlash
  obtain ⟨parent', n', rfl, hr', ⟨-, mode, hmode, rfl⟩ | ⟨⟨k, hk⟩, -⟩⟩ :=
    openForWriting_cases hopen
  all_goals
    rw [hr] at hr'
    obtain ⟨rfl, rfl, -⟩ := Target.name.inj (Except.ok.inj hr')
  · refine ⟨_, mode, (putFile_of_file hopen).1 hroom, get_put_self _ _ (by simp), hmode, ?_, rfl⟩
    exact (agreeOff_put d _ _).trans (agreeOff_put _ _ _)
  · obtain ⟨content, mode, hf⟩ := h.fileOrFree _ hk
    cases hf

theorem removeFile_eq (h : d.NamesFile cwd p loc) : d.removeFile cwd p = match d.get loc with
    | none => (.error (.system Errno.noEntry), d)
    | some _ => (.ok (), d.erase loc) := by
  cases hg : d.get loc with
  | none => rw [removeFile_eq_of_names h.resolves, hg]
  | some e =>
    obtain ⟨content, mode, rfl⟩ := h.fileOrFree e hg
    rw [removeFile_of_entry h.resolves hg rfl, if_pos h.changeable]

end NamesFile
end Disk
end StressBench
