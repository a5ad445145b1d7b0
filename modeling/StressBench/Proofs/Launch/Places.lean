/-
# Two readings of one path

A run writes the corpus and inspects the compiler from the current directory. The child
goes to the base directory first, and from there the path of the compiler is read again
to start it, and the path of the corpus to compile it. On a disk without links the two
readings lead to one file if the path is absolute or the base directory is the current
one; any other path that does not climb leads the child elsewhere. So with a relative
base directory a program may run that was not inspected, on a corpus that is not there.

Key definition: `Harness.Reached`.
Key theorems: `Launch.prepare_of_inspected`, `Shell.startNamed_of_slash`,
`Harness.launch_places`, `Harness.launch_from_nested_base`.
-/
import StressBench.Launch
import StressBench.Proofs.Disk.Lexical
import StressBench.Proofs.Harness.Course

namespace StressBench

/-! ### Starting a program -/

namespace Shell

theorem toBytes_ofBytes (bs : Bytes) : toBytes (ofBytes bs) = bs := by
  have hbyte : ∀ b : UInt8, UInt8.ofNat (Char.ofNat b.toNat).toNat = b := by
    intro b
    have hvalid : b.toNat.isValidChar := .inl (by have := b.toNat_lt; omega)
    rw [Char.ofNat, dif_pos hvalid]
    exact UInt8.ofNat_toNat
  unfold toBytes ofBytes
  rw [List.map_map]
  exact (List.map_congr_left fun b _ => hbyte b).trans (List.map_id bs)

/-- A name with a slash is a path, and is read from the directory of the child. -/
theorem startNamed_of_slash {path : Path} (h : Path.slash ∈ path) (d : Disk) (dir : Location)
    (dirs : List Path) (args : List Text) :
    startNamed d dir dirs (ofBytes path) args = startAt d dir path (ofBytes path) args := by
  unfold startNamed findProgram
  rw [toBytes_ofBytes, if_pos (List.contains_iff_mem.mpr h)]

end Shell

/-- What is left of the preparation of a call when the executable has been inspected. -/
theorem Launch.prepare_of_inspected {d : Disk} {cwd dir eloc : Location} {i : Invocation}
    (hinspect : inspect d cwd i.executable = .ok eloc) (hnul : hasNul i = false)
    (hdir : childDirectory d cwd i = .ok dir) :
    prepare d cwd i = match Shell.startNamed d dir Shell.searchPath (Shell.ofBytes i.executable)
        (i.args.map Shell.ofBytes) with
      | .error n => .error (.system n)
      | .ok start => .ok (start, dir) := by
  unfold prepare
  rcases hs : Shell.startNamed d dir Shell.searchPath (Shell.ofBytes i.executable)
    (i.args.map Shell.ofBytes) with n | start
  · simp only [hinspect, hnul, hdir, hs, Bool.false_eq_true, if_false]
  · simp only [hinspect, hnul, hdir, hs, Bool.false_eq_true, if_false]

theorem Launch.lookup_of_inspect {d : Disk} {cwd eloc : Location} {p : Path}
    (h : inspect d cwd p = .ok eloc) :
    ∃ content mode, d.lookup cwd p = .ok (eloc, .file content mode) := by
  unfold inspect at h
  rcases hl : d.lookup cwd p with e | ⟨loc, _ | ⟨content, mode⟩ | target | k⟩ <;>
    rw [hl] at h
  · cases h
  · cases h
  · by_cases hm : mode.canExecute = true
    · simp only [if_pos hm] at h
      obtain rfl := Except.ok.inj h
      exact ⟨content, mode, rfl⟩
    · simp only [if_neg hm] at h
      cases h
  · cases h
  · cases h

namespace Harness

/-- The run gets as far as the start of the child: the corpus was written to `loc`, which
made the disk `d₁` of `d`, the file that was inspected is at `eloc`, and the child is in
the directory `dir`. -/
structure Reached (config : Config) (drawn : UInt64) (cwd : Location) (d d₁ : Disk)
    (loc eloc dir : Location) : Prop where
  enough : minLines ≤ config.numLines
  opened : ∃ d', d.openForWriting cwd config.scratchPath = .ok (loc, d')
  written : d.putFile cwd config.scratchPath (corpus config drawn).bytes = .ok d₁
  inspected : Launch.inspect d₁ cwd config.compiler = .ok eloc
  noNul : Launch.hasNul (invocation config) = false
  directory : Launch.childDirectory d₁ cwd (invocation config) = .ok dir

variable {config : Config} {drawn : UInt64} {cwd loc eloc dir : Location} {d d₁ : Disk}

/-- **What the child reads,** against what was written and inspected. The run reports the
call on the disk with the corpus; there the path of the corpus is read from the directory
of the child, and so is the path of the compiler, if it has a slash. -/
theorem launch_places (h : Reached config drawn cwd d d₁ loc eloc dir) (hfree : d.LinkFree) :
    (∃ report, (run Launch.call config drawn cwd d).result = .ok report ∧
      report.result = (Launch.call cwd d₁ (invocation config)).1) ∧
    d₁.ReadFrom cwd dir config.scratchPath loc ∧
      (Path.slash ∈ config.compiler →
        d₁.ReadFrom cwd dir config.compiler eloc ∧
        Launch.prepare d₁ cwd (invocation config) =
          match Shell.startAt d₁ dir config.compiler (Shell.ofBytes config.compiler)
              ((compileArgs config.scratchPath).map Shell.ofBytes) with
          | .error n => .error (.system n)
          | .ok start => .ok (start, dir)) := by
  obtain ⟨hmin, ⟨d', hopen⟩, hput, hinspect, hnul, hdir⟩ := h
  have hfree₁ : d₁.LinkFree := hfree.sameTree (Disk.putFile_sameTree hput)
  obtain ⟨e, hcorpus⟩ := Disk.lookup_of_putFile hfree hopen hput
  refine ⟨⟨_, (run_of_written Launch.call drawn hmin hput rfl).1, rfl⟩,
    Disk.readFrom_linkFree hfree₁ hcorpus dir, fun hslash => ⟨?_, ?_⟩⟩
  · obtain ⟨content, mode, hcompiler⟩ := Launch.lookup_of_inspect hinspect
    exact Disk.readFrom_linkFree hfree₁ hcompiler dir
  · rw [Launch.prepare_of_inspected hinspect hnul hdir,
      ← Shell.startNamed_of_slash hslash d₁ dir Shell.searchPath]
    rfl

/-! ### A relative base directory -/

/-- A disk with a program `c`, a directory `w`, and another program `w/c`. -/
def twoCompilers : Disk where
  entries := [([[0x63]], .file [0x31] Mode.ofProgram), ([[0x77]], .newDirectory),
    ([[0x63], [0x77]], .file [0x32] Mode.ofProgram)]

/-- Settings with the base directory `w`, the compiler `./c` and the corpus `s`. -/
def nestedConfig : Config :=
  { Config.ofBase 3 [0x77] with compiler := [0x2E, 0x2F, 0x63], scratchPath := [0x73] }

theorem linkFree_twoCompilers : twoCompilers.LinkFree :=
  Disk.linkFree_of_entries fun p hp target ht => by
    simp only [twoCompilers, List.mem_cons, List.not_mem_nil, or_false] at hp
    rcases hp with rfl | rfl | rfl <;> cases ht

theorem lookup_nestedCompiler {content : Bytes} (hsearch : d.maySearch dir = true)
    (h : d.get ([0x63] :: dir) = some (.file content Mode.ofProgram)) :
    d.lookup dir nestedConfig.compiler = .ok ([0x63] :: dir, .file content Mode.ofProgram) := by
  have hc : Disk.IsPlain [0x63] := ⟨by decide, by decide, by decide⟩
  have hwalk : d.walk .always Disk.linkMax dir [Path.here, [0x63]] false =
      .ok (.name dir [0x63] false) := by
    rw [Disk.walk_here hsearch]
    exact Disk.walk_last hsearch hc (by simp [h])
  rw [Disk.lookup_of_resolve (Disk.resolve_eq_ok_iff.mpr ⟨⟨rfl, rfl, by decide⟩, hwalk⟩)]
  simp only [Disk.found, h, Bool.false_eq_true, false_and, if_false]

theorem reached_nested : ∃ d₁,
    Reached nestedConfig 42 [] twoCompilers d₁ [[0x73]] [[0x63]] [[0x77]] ∧
      Disk.AgreeOff [[0x73]] twoCompilers d₁ := by
  have hs : Disk.IsPlain [0x73] := ⟨by decide, by decide, by decide⟩
  have hw : Disk.IsPlain [0x77] := ⟨by decide, by decide, by decide⟩
  have hopen : twoCompilers.openForWriting [] [0x73] =
      .ok ([[0x73]], twoCompilers.put [[0x73]] (.file [] Mode.ofFile)) := by
    have hr : twoCompilers.resolve .unlessSlash [] [0x73] = .ok (.name [] [0x73] false) :=
      Disk.resolve_last ⟨rfl, rfl, by decide⟩ rfl hs rfl fun target ht => by cases ht
    unfold Disk.openForWriting
    rw [hr]
    rfl
  obtain ⟨d₁, hput, hoff⟩ : ∃ d₁,
      twoCompilers.putFile [] [0x73] (corpus nestedConfig 42).bytes = .ok d₁ ∧
        Disk.AgreeOff [[0x73]] twoCompilers d₁ := by
    have hroom : ∀ n, twoCompilers.HasRoom n := fun _ _ hr => by cases hr
    exact ⟨_, (Disk.putFile_of_file hopen).1 (hroom _),
      (Disk.agreeOff_put _ _ _).trans (Disk.agreeOff_put _ _ _)⟩
  have hsearch : d₁.maySearch [] = true := hoff.maySearch_eq (by decide)
  have hinspect : Launch.inspect d₁ [] nestedConfig.compiler = .ok [[0x63]] := by
    have hget : d₁.get [[0x63]] = some (.file [0x31] Mode.ofProgram) := hoff _ (by decide)
    unfold Launch.inspect
    rw [lookup_nestedCompiler hsearch hget]
    rfl
  have hdir : Launch.childDirectory d₁ [] (invocation nestedConfig) = .ok [[0x77]] := by
    have hget : d₁.get [[0x77]] = some .newDirectory := hoff _ (by decide)
    have hlink : ∀ target, d₁.get [[0x77]] ≠ some (.link target) := by
      simp [hget, Entry.newDirectory]
    have hr : d₁.resolve .always [] [0x77] = .ok (.name [] [0x77] false) :=
      Disk.resolve_last ⟨rfl, rfl, by decide⟩ rfl hw hsearch hlink
    show d₁.directoryAt [] [0x77] = .ok [[0x77]]
    unfold Disk.directoryAt
    rw [Disk.lookup_of_resolve hr]
    simp only [Disk.found, hget, Bool.false_eq_true, false_and, if_false]
    rfl
  exact ⟨d₁, ⟨by decide, ⟨_, hopen⟩, hput, hinspect, rfl, hdir⟩, hoff⟩

/-- Neither path leads the child to the file that the run had. -/
theorem nested_places : ∃ d₁,
    Reached nestedConfig 42 [] twoCompilers d₁ [[0x73]] [[0x63]] [[0x77]] ∧
      twoCompilers.LinkFree ∧ Path.slash ∈ nestedConfig.compiler ∧
      (¬∃ e, d₁.lookup [[0x77]] nestedConfig.scratchPath = .ok ([[0x73]], e)) ∧
      ¬∃ e, d₁.lookup [[0x77]] nestedConfig.compiler = .ok ([[0x63]], e) := by
  obtain ⟨d₁, hreached, -⟩ := reached_nested
  have hslash : Path.slash ∈ nestedConfig.compiler := by decide
  obtain ⟨-, hcorpus, hcompiler⟩ := launch_places hreached linkFree_twoCompilers
  refine ⟨d₁, hreached, linkFree_twoCompilers, hslash, fun h => ?_, fun h => ?_⟩
  · exact absurd ((hcorpus.iff_of_noAbove (by decide)).mp h) (by decide)
  · exact absurd (((hcompiler hslash).1.iff_of_noAbove (by decide)).mp h) (by decide)

/-- **Another compiler and no corpus.** The run inspects `c` and writes `s`; the child
starts `w/c`, and there is no `w/s`. -/
theorem launch_from_nested_base : ∃ d₁,
    Reached nestedConfig 42 [] twoCompilers d₁ [[0x73]] [[0x63]] [[0x77]] ∧
      twoCompilers.LinkFree ∧ Path.slash ∈ nestedConfig.compiler ∧
      d₁.lookup [[0x77]] nestedConfig.compiler =
        .ok ([[0x63], [0x77]], .file [0x32] Mode.ofProgram) ∧
      d₁.lookup [[0x77]] nestedConfig.scratchPath = .error (.system Errno.noEntry) := by
  obtain ⟨d₁, hreached, hoff⟩ := reached_nested
  have hs : Disk.IsPlain [0x73] := ⟨by decide, by decide, by decide⟩
  have hsearch : d₁.maySearch [[0x77]] = true := hoff.maySearch_eq (by decide)
  have hcompiler : d₁.get [[0x63], [0x77]] = some (.file [0x32] Mode.ofProgram) :=
    hoff _ (by decide)
  have hget : d₁.get [[0x73], [0x77]] = none := hoff _ (by decide)
  have hmissing : d₁.lookup [[0x77]] nestedConfig.scratchPath =
      .error (.system Errno.noEntry) := by
    have hlink : ∀ target, d₁.get [[0x73], [0x77]] ≠ some (.link target) := by simp [hget]
    have hr : d₁.resolve .always [[0x77]] nestedConfig.scratchPath =
        .ok (.name [[0x77]] [0x73] false) :=
      Disk.resolve_last ⟨rfl, rfl, by decide⟩ rfl hs hsearch hlink
    rw [Disk.lookup_of_resolve hr]
    simp only [Disk.found, hget]
  exact ⟨d₁, hreached, linkFree_twoCompilers, by decide,
    lookup_nestedCompiler hsearch hcompiler, hmissing⟩

end Harness
end StressBench
