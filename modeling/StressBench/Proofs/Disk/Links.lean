/-
# The entry that a path names and the file that it leads to

Opening a path for writing follows a link at its end, removing what the path names does not.
Both walks go the same way up to the last entry. If this is no link, it is what was opened;
if it is one, the file that was opened is another entry, and removing takes the link. Nothing
is removed from a directory that may not be changed.

Key definition: `Disk.Names`.
Key theorems: `Disk.walk_unlessSlash`, `Disk.names_of_open`, `Disk.removeFile_of_entry`.
-/
import StressBench.Proofs.Disk.Opening

namespace StressBench
namespace Disk

variable {d d' d₁ : Disk} {cwd loc named : Location} {p : Path}

/-- The path names the entry at this place, or a free name there; a link is not followed. -/
def Names (d : Disk) (cwd : Location) (p : Path) (named : Location) : Prop :=
  ∃ parent n, named = n :: parent ∧ d.resolve .never cwd p = .ok (.name parent n false)

/-- **A walk that follows the last link** and one that does not part at this link only. -/
theorem walk_unlessSlash {links : Nat} {names : List Name} {slash : Bool} {parent : Location}
    {n : Name} (h : walk d .unlessSlash links loc names slash = .ok (.name parent n false)) :
    ∃ parent' n', walk d .never links loc names slash = .ok (.name parent' n' false) ∧
      (n' :: parent' = n :: parent ∨ ∃ target, d.get (n' :: parent') = some (.link target)) := by
  simp only [walk_eq_ok_iff] at h ⊢
  generalize ht : Target.name parent n false = t at h
  induction h with
  | done => cases ht
  | here hs _ ih =>
    obtain ⟨parent', n', hwalk, hnamed⟩ := ih ht
    exact ⟨parent', n', .here hs hwalk, hnamed⟩
  | above hs _ ih =>
    obtain ⟨parent', n', hwalk, hnamed⟩ := ih ht
    exact ⟨parent', n', .above hs hwalk, hnamed⟩
  | @link _ loc m rest slash _ target hs hn hget hf _ ih =>
    cases rest with
    | nil =>
      -- the link at the end: here the walks part
      cases slash with
      | true => cases hf
      | false => exact ⟨loc, m, .last hs hn fun _ _ => rfl, .inr ⟨target, hget⟩⟩
    | cons r rest =>
      obtain ⟨parent', n', hwalk, hnamed⟩ := ih ht
      exact ⟨parent', n', .link hs hn hget rfl hwalk, hnamed⟩
  | directory hs hn hget hr _ ih =>
    obtain ⟨parent', n', hwalk, hnamed⟩ := ih ht
    exact ⟨parent', n', .directory hs hn hget hr hwalk, hnamed⟩
  | last hs hn _ =>
    obtain ⟨rfl, rfl, rfl⟩ := Target.name.inj ht
    exact ⟨_, _, .last hs hn fun _ _ => rfl, .inl rfl⟩

/-- **What a path names that opens for writing** is what was opened, or a link. -/
theorem names_of_open (h : d.openForWriting cwd p = .ok (loc, d')) :
    ∃ named, d.Names cwd p named ∧ (named = loc ∨ ∃ target, d.get named = some (.link target)) := by
  obtain ⟨parent, n, rfl, hr, -⟩ := openForWriting_cases h
  obtain ⟨hp, hwalk⟩ := resolve_eq_ok_iff.mp hr
  obtain ⟨parent', n', hwalk', hnamed⟩ := walk_unlessSlash hwalk
  exact ⟨n' :: parent', ⟨parent', n', rfl, resolve_eq_ok_iff.mpr ⟨hp, hwalk'⟩⟩, hnamed⟩

theorem Names.ne_nil (h : d.Names cwd p named) : named ≠ [] := by
  obtain ⟨parent, n, rfl, -⟩ := h
  exact List.cons_ne_nil n parent

theorem Names.unique {named' : Location} (h : d.Names cwd p named) (h' : d.Names cwd p named') :
    named = named' := by
  obtain ⟨parent, n, rfl, hr⟩ := h
  obtain ⟨parent', n', rfl, hr'⟩ := h'
  obtain ⟨rfl, rfl, -⟩ := Target.name.inj (Except.ok.inj (hr.symm.trans hr'))
  rfl

/-- A path names the same place on every disk with the same tree. -/
theorem Names.again (h : d.Names cwd p named) (htree : SameTree d d₁) : d₁.Names cwd p named := by
  obtain ⟨parent, n, rfl, hr⟩ := h
  exact ⟨parent, n, rfl, resolve_sameTree hr htree (fun _ h => h) fun _ _ => rfl⟩

theorem removeFile_eq_of_names (h : d.Names cwd p named) :
    d.removeFile cwd p = match d.get named with
      | none => (.error (.system Errno.noEntry), d)
      | some e =>
        if d.mayChange named.tail = false then (.error (.system Errno.accessDenied), d)
        else if e.isDirectory then (.error (.system Errno.isDirectory), d)
        else (.ok (), d.erase named) := by
  obtain ⟨parent, n, rfl, hr⟩ := h
  unfold removeFile
  rw [hr]
  cases hget : d.get (n :: parent) with
  | none => simp only [hget]
  | some e =>
    simp only [hget, Bool.false_eq_true, if_false]
    rfl

/-- **Removing takes away the entry that the path names,** be it a file or a link. A directory
that may not be changed keeps its entries: removing is refused. -/
theorem removeFile_of_entry (h : d.Names cwd p named) {e : Entry} (he : d.get named = some e)
    (hdir : e.isDirectory = false) :
    d.removeFile cwd p =
      if d.mayChange named.tail then (.ok (), d.erase named)
      else (.error (.system Errno.accessDenied), d) := by
  rw [removeFile_eq_of_names h, he]
  cases d.mayChange named.tail <;> simp [hdir]

end Disk
end StressBench
