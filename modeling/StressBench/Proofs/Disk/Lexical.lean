/-
# Disks without links

On a disk without links a path leads, if it leads anywhere, to the place that its names
spell from the directory where it starts. So a relative path is read differently from two
directories, unless it climbs out of both: without a `..` it leads to the same place only
if the directories are the same.

Key definitions: `Disk.LinkFree`, `Location.along`, `Path.place`, `Disk.ReadFrom`.
Key theorems: `Disk.walk_linkFree`, `Disk.lookup_linkFree`, `Path.place_eq_iff`,
`Disk.readFrom_linkFree`.
-/
import StressBench.Proofs.Scratch.Creation

namespace StressBench

/-! ### What names spell -/

/-- The place where a name leads from a directory. -/
def Location.go (loc : Location) (n : Name) : Location :=
  if n = Path.here then loc else if n = Path.above then loc.tail else n :: loc

/-- The place where names lead from a directory, one after another. -/
def Location.along (loc : Location) (names : List Name) : Location :=
  names.foldl Location.go loc

/-- The place that a path spells. -/
def Path.place (cwd : Location) (p : Path) : Location :=
  (Disk.startOf cwd p).along p.names

namespace Location

theorem along_cons (loc : Location) (n : Name) (names : List Name) :
    loc.along (n :: names) = (loc.go n).along names := rfl

@[simp] theorem go_here (loc : Location) : loc.go Path.here = loc := rfl

theorem go_plain (loc : Location) {n : Name} (h1 : n ≠ Path.here) (h2 : n ≠ Path.above) :
    loc.go n = n :: loc := by
  rw [go, if_neg h1, if_neg h2]

/-- Names that do not climb lead below the directory. -/
theorem along_eq_append : ∀ {names : List Name} (loc : Location), Path.above ∉ names →
    loc.along names = (names.filter (· ≠ Path.here)).reverse ++ loc
  | [], _, _ => rfl
  | n :: names, loc, h => by
    obtain ⟨hn, hnames⟩ := not_or.mp fun hmem => h (List.mem_cons.mpr hmem)
    rw [along_cons, along_eq_append _ hnames]
    by_cases h1 : n = Path.here
    · rw [h1, go_here, List.filter_cons_of_neg (by simp)]
    · rw [go_plain loc h1 (Ne.symm hn), List.filter_cons_of_pos (by simpa using h1),
        List.reverse_cons, List.append_assoc]
      rfl

end Location

theorem Path.place_of_isAbsolute {p : Path} (h : p.isAbsolute = true) (cwd dir : Location) :
    place dir p = place cwd p := by
  unfold place Disk.startOf
  rw [if_pos h, if_pos h]

/-- **A path that does not climb** spells one place from two directories only if it is
absolute or they are the same. -/
theorem Path.place_eq_iff {p : Path} (h : Path.above ∉ p.names) (cwd dir : Location) :
    place dir p = place cwd p ↔ p.isAbsolute = true ∨ dir = cwd := by
  constructor
  · intro heq
    by_cases habs : p.isAbsolute = true
    · exact .inl habs
    · unfold place Disk.startOf at heq
      rw [if_neg habs, if_neg habs, Location.along_eq_append _ h, Location.along_eq_append _ h]
        at heq
      exact .inr (List.append_cancel_left heq)
  · rintro (habs | rfl)
    · exact place_of_isAbsolute habs cwd dir
    · rfl

/-! ### Walks -/

namespace Disk

variable {d d' d₁ : Disk} {cwd dir loc : Location} {p : Path} {bytes : Bytes}

/-- No link is on the disk. -/
def LinkFree (d : Disk) : Prop :=
  ∀ l target, d.get l ≠ some (.link target)

theorem LinkFree.sameTree (h : d.LinkFree) (htree : SameTree d d') : d'.LinkFree :=
  fun l => htree.sameWays.ne_link (h l)

theorem get_root (d : Disk) : ∃ mode, d.get [] = some (.directory mode) := by
  simp only [get]
  split <;> exact ⟨_, rfl⟩

theorem linkFree_of_entries (h : ∀ p ∈ d.entries, ∀ target, p.2 ≠ .link target) : d.LinkFree := by
  intro l target hl
  cases l with
  | nil =>
    obtain ⟨mode, hroot⟩ := d.get_root
    cases hroot.symm.trans hl
  | cons n parent =>
    obtain ⟨before, after, heq, -⟩ := List.lookup_eq_some_iff.mp hl
    exact h (n :: parent, .link target) (by simp [heq]) target rfl

/-- **A walk ends at the place that the names spell.** -/
theorem walk_linkFree (h : d.LinkFree) {t : Target} {follow : Follow} {links : Nat}
    {names : List Name} {slash : Bool} (hw : walk d follow links loc names slash = .ok t) :
    t.location = loc.along names := by
  rw [walk_eq_ok_iff] at hw
  induction hw with
  | done => rfl
  | here _ _ ih => exact ih
  | above _ _ ih => exact ih
  | link _ _ hget _ _ _ => exact absurd hget (h _ _)
  | @directory _ loc _ _ _ _ _ _ hn _ _ _ ih =>
    rw [ih, Location.along_cons, Location.go_plain loc hn.1 hn.2.1]
  | @last _ loc _ _ _ hn _ =>
    rw [Location.along_cons, Location.go_plain loc hn.1 hn.2.1]
    rfl

/-! ### Paths -/

theorem resolve_linkFree (h : d.LinkFree) {t : Target} {follow : Follow}
    (hr : d.resolve follow cwd p = .ok t) : t.location = p.place cwd :=
  walk_linkFree h (resolve_eq_ok_iff.mp hr).2

theorem lookup_linkFree (h : d.LinkFree) {l : Location} {e : Entry}
    (hl : d.lookup cwd p = .ok (l, e)) : l = p.place cwd := by
  obtain ⟨t, hr, hfound⟩ := lookup_eq_ok_iff.mp hl
  rw [← location_of_found hfound]
  exact resolve_linkFree h hr

theorem lookup_of_isAbsolute (h : p.isAbsolute = true) (cwd dir : Location) :
    d.lookup dir p = d.lookup cwd p := by
  unfold lookup resolve startOf
  rw [if_pos h, if_pos h]

/-- How a path that leads to `l` from one directory is read from another. -/
structure ReadFrom (d : Disk) (cwd dir : Location) (p : Path) (l : Location) : Prop where
  /-- An absolute path, or any path from the same directory, leads there as well. -/
  same : p.isAbsolute = true ∨ dir = cwd → ∃ e, d.lookup dir p = .ok (l, e)
  /-- Otherwise it does if it spells the same place. -/
  spelled : ∀ l' e, d.lookup dir p = .ok (l', e) → (l' = l ↔ p.place dir = p.place cwd)
  /-- A path that does not climb spells another place from another directory. -/
  iff_of_noAbove : Path.above ∉ p.names →
    ((∃ e, d.lookup dir p = .ok (l, e)) ↔ p.isAbsolute = true ∨ dir = cwd)

/-- **One path read from two directories.** -/
theorem readFrom_linkFree (h : d.LinkFree) {l : Location} {e : Entry}
    (hl : d.lookup cwd p = .ok (l, e)) (dir : Location) : d.ReadFrom cwd dir p l := by
  have hsame : p.isAbsolute = true ∨ dir = cwd → ∃ e, d.lookup dir p = .ok (l, e) := by
    rintro (habs | rfl)
    · exact ⟨e, (lookup_of_isAbsolute habs cwd dir).trans hl⟩
    · exact ⟨e, hl⟩
  have hspelled : ∀ l' e, d.lookup dir p = .ok (l', e) →
      (l' = l ↔ p.place dir = p.place cwd) := by
    intro l' e' hl'
    rw [lookup_linkFree h hl', lookup_linkFree h hl]
  refine ⟨hsame, hspelled, fun habove => ⟨?_, hsame⟩⟩
  rintro ⟨e', hl'⟩
  exact (Path.place_eq_iff habove cwd dir).mp ((hspelled l e' hl').mp rfl)

/-! ### Written files -/

theorem putFile_sameTree (h : d.putFile cwd p bytes = .ok d₁) : SameTree d d₁ := by
  by_cases hdev : ∃ k, d.OpensDevice cwd p k
  · obtain ⟨k, hk⟩ := hdev
    rw [putFile_of_opensDevice h hk]
    exact .refl d
  · obtain ⟨parent, n, mode, -, hold, -, rfl⟩ := putFile_eq_ok h (not_exists.mp hdev)
    refine sameTree_of_agreeOff ((agreeOff_put d _ _).trans (agreeOff_put _ _ _)) hold ?_
    intro e he
    rw [get_put_self _ _ (by simp)] at he
    exact ⟨bytes, mode, (Option.some.inj he).symm⟩

/-- **The path leads to what was opened for writing,** be it a file or a device. -/
theorem lookup_of_putFile (h : d.LinkFree) (hopen : d.openForWriting cwd p = .ok (loc, d'))
    (hput : d.putFile cwd p bytes = .ok d₁) : ∃ e, d₁.lookup cwd p = .ok (loc, e) := by
  obtain ⟨parent, n, rfl, hr, ⟨hold, mode, -, rfl⟩ | ⟨⟨k, hk⟩, -⟩⟩ := openForWriting_cases hopen
  · have hdev : ∀ k, ¬d.OpensDevice cwd p k := by
      rintro k ⟨loc', d'', hopen', hk⟩
      obtain ⟨rfl, -⟩ := Prod.mk.inj (Except.ok.inj (hopen.symm.trans hopen'))
      obtain ⟨content, mode, hf⟩ := hold _ hk
      cases hf
    obtain ⟨loc', mode', hl⟩ := holds_of_putFile hput hdev
    -- the place is the one that the path spells
    have hloc : n :: parent = p.place cwd := resolve_linkFree h hr
    rw [hloc, ← lookup_linkFree (h.sameTree (putFile_sameTree hput)) hl]
    exact ⟨_, hl⟩
  · rw [putFile_of_opensDevice hput ⟨_, d', hopen, hk⟩]
    refine ⟨.device k, ?_⟩
    unfold lookup
    rw [resolve_sameTree hr (.refl d) (fun _ _ => rfl)
      fun target ht => absurd (hk.symm.trans ht) (by simp)]
    simp only [hk, Bool.false_eq_true, false_and, if_false]

end Disk
end StressBench
