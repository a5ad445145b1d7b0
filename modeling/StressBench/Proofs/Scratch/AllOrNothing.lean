/-
# Creating a scratch file is all or nothing

A path that cannot be opened is left alone, with all that is on the disk, and no line of
the body has been asked for. From the moment the file is open it belongs to its owner: if
writing or flushing fails, at whatever byte, the owner goes and takes the file with it, so
that nothing is at the path. A file that was there before goes only if its directory may be
changed. If all is written, the path has it; only a device is an exception, which keeps
nothing of what it takes. Nothing else on the disk changes.

Where the writing fails is up to the sink that stands for the open file, and a buffer in
front of it does not show.

Key definitions: `Scratch.conclude`, `Scratch.createThrough`, `Scratch.AllOrNothing`.
Key theorems: `Scratch.create_eq_createThrough`, `Scratch.allOrNothing_conclude`,
`Scratch.create_all_or_nothing`.
-/
import StressBench.Proofs.Disk.Naming
import StressBench.Proofs.Harness.Course
import StressBench.Proofs.Scratch.CleanUp
import StressBench.Proofs.Sink.Buffering

namespace StressBench

/-! ### The disk on which the writing ended -/

namespace Disk

variable {d d' d₁ : Disk} {cwd loc : Location} {p : Path}

/-- What has gone to an open file is there, and nothing else has changed; a device is as it
was. -/
theorem finish_opened (h : d.openForWriting cwd p = .ok (loc, d')) (sink : Sink) :
    AgreeOff loc d (d'.finish loc sink) ∧
      (d.FileOrFree loc ∧ (∃ mode, (d'.finish loc sink).get loc = some (.file sink.taken mode)) ∨
        (∃ k, d.get loc = some (.device k)) ∧ d'.finish loc sink = d) := by
  obtain ⟨parent, n, rfl, -, ⟨hold, mode, -, rfl⟩ | ⟨⟨k, hk⟩, rfl⟩⟩ := openForWriting_cases h
  · have hne : n :: parent ≠ [] := List.cons_ne_nil n parent
    have hfinish : (d.put (n :: parent) (.file [] mode)).finish (n :: parent) sink =
        (d.put (n :: parent) (.file [] mode)).put (n :: parent) (.file sink.taken mode) := by
      rw [finish, d.get_put_self _ hne]
      rfl
    rw [hfinish]
    exact ⟨(agreeOff_put d _ _).trans (agreeOff_put _ _ _),
      .inl ⟨hold, mode, get_put_self _ _ hne⟩⟩
  · have hfinish : d'.finish (n :: parent) sink = d' := by
      rw [finish, hk]
    rw [hfinish]
    exact ⟨fun _ _ => rfl, .inr ⟨⟨k, hk⟩, rfl⟩⟩

theorem holds_finish (h : d.openForWriting cwd p = .ok (loc, d'))
    (hfile : ∀ k, d.get loc ≠ some (.device k)) (sink : Sink) :
    (d'.finish loc sink).Holds cwd p sink.taken := by
  obtain ⟨hoff, ⟨hold, mode, hget⟩ | ⟨⟨k, hk⟩, -⟩⟩ := finish_opened h sink
  · obtain ⟨parent, n, rfl, hr, -⟩ := openForWriting_cases h
    exact ⟨n :: parent, mode, lookup_again hr hold hoff hget⟩
  · exact absurd hk (hfile k)

theorem finish_device (h : d.openForWriting cwd p = .ok (loc, d')) {k : Device}
    (hk : d.get loc = some (.device k)) (sink : Sink) : d'.finish loc sink = d := by
  obtain ⟨-, ⟨hold, -⟩ | ⟨-, hsame⟩⟩ := finish_opened h sink
  · obtain ⟨content, mode, hf⟩ := hold _ hk
    cases hf
  · exact hsame

theorem opened_leaf (h : d.openForWriting cwd p = .ok (loc, d')) :
    (∀ mode, d.get loc ≠ some (.directory mode)) ∧
      ∀ target, d.get loc ≠ some (.link target) := by
  obtain ⟨-, -, -, -, ⟨hold, -⟩ | ⟨⟨k, hk⟩, -⟩⟩ := openForWriting_cases h
  · refine ⟨fun mode hdir => ?_, hold.ne_link⟩
    obtain ⟨content, mode', hf⟩ := hold _ hdir
    cases hf
  · rw [hk]
    exact ⟨nofun, nofun⟩

theorem names_of_noLink (h : d.openForWriting cwd p = .ok (loc, d'))
    (hlast : ∀ named target, d.Names cwd p named → d.get named ≠ some (.link target)) :
    d.Names cwd p loc := by
  obtain ⟨named, hnamed, rfl | ⟨target, htarget⟩⟩ := names_of_open h
  · exact hnamed
  · exact absurd htarget (hlast named target hnamed)

theorem absent_of_gone (h : d.openForWriting cwd p = .ok (loc, d')) (hnamed : d.Names cwd p loc)
    (hoff : AgreeOff loc d d₁) (hgone : d₁.get loc = none) : d₁.Absent cwd p := by
  obtain ⟨hdir, hlink⟩ := opened_leaf h
  have hways := sameWays_of_gone hoff hgone hdir hlink
  obtain ⟨parent, n, rfl, hr⟩ := hnamed
  have hr₁ : d₁.resolve .always cwd p = .ok (.name parent n false) :=
    resolve_sameWays hr hways nofun fun target htarget => absurd htarget (hlink target)
  unfold Absent lookup
  rw [hr₁]
  simp only [hgone]

end Disk

namespace Scratch

variable {α : Type} {d d' : Disk} {cwd loc : Location} {p : Path} {feed : LineFeed α}

/-! ### Creating through a buffer -/

/-- The end of a creation, from the error of the writing and the disk on which it ended: the
owner is handed out, or goes and takes the file with it. -/
def conclude (p : Path) (cwd : Location) (d : Disk) : Option IoError → Except Failure Scratch × Disk
  | none => (.ok ⟨p⟩, d)
  | some e => (.error (.corpusWrite p e), drop ⟨p⟩ cwd d)

/-- The creation of a scratch file with a buffer in front of the open file, for which the
sink `s` stands. The text comes in pieces. The buffer goes before the owner. -/
def createThrough (size : Nat) (s : Sink) (p : Path) (pieces : List Bytes) (cwd : Location)
    (d : Disk) : Except Failure Scratch × Disk :=
  match d.openForWriting cwd p with
  | .error e => (.error (.corpusWrite p e), d)
  | .ok (loc, d) =>
    let (error, buffer) := Buffer.writePieces pieces ⟨s, size, []⟩
    conclude p cwd (d.finish loc buffer.close) error

/-- The size of the buffer and the pieces do not matter. -/
theorem createThrough_of_open (h : d.openForWriting cwd p = .ok (loc, d')) (size : Nat) (s : Sink)
    (pieces : List Bytes) :
    createThrough size s p pieces cwd d =
      conclude p cwd (d'.finish loc (s.writeOut pieces.flatten).2)
        (s.writeOut pieces.flatten).1 := by
  unfold createThrough
  rw [h, ← Buffer.writePieces_eq_writeOut s size pieces]

/-- **A scratch file is created as through a buffer** of any size, in whatever pieces. -/
theorem create_eq_createThrough (h : d.openForWriting cwd p = .ok (loc, d')) (size : Nat)
    {pieces : List Bytes}
    (hpieces : pieces.flatten = fileBytes headerLine feed.lines terminatorLine) :
    ((create p feed cwd d).result, (create p feed cwd d).disk) =
      createThrough size (d'.sinkFor loc) p pieces cwd d := by
  obtain ⟨herror, hclose⟩ :=
    Prod.mk.inj (Buffer.writePieces_eq_writeLines (d'.sinkFor loc) size hpieces)
  unfold create createThrough
  rw [h]
  simp only
  rw [herror, hclose]
  cases (writeLines (d'.sinkFor loc) headerLine feed terminatorLine).error <;> rfl

/-! ### All or nothing -/

/-- What may come of creating the file at `loc` with the given bytes, by the error of the
writing. -/
structure AllOrNothing (d : Disk) (cwd : Location) (p : Path) (loc : Location) (bytes : Bytes)
    (error : Option IoError) (made : Except Failure Scratch × Disk) : Prop where
  /-- Every other entry is as it was. -/
  others : Disk.AgreeOff loc d made.2
  /-- If writing failed, this is the failure, and nothing is at the path, unless a file was
  there before, in a directory that may not be changed. -/
  failed : ∀ e, error = some e → made.1 = .error (.corpusWrite p e) ∧
    (d.get loc = none ∨ d.mayChange loc.tail = true →
      made.2.Absent cwd p ∧ made.2.get loc = none)
  /-- If it did not, the file has all bytes. A device has none, and leaves the disk as it
  was. -/
  succeeded : error = none → made.1 = .ok ⟨p⟩ ∧
    ((∀ k, d.get loc ≠ some (.device k)) → made.2.Holds cwd p bytes) ∧
    ∀ k, d.get loc = some (.device k) → made.2 = d

/-- **The owner takes the file with it** from the disk on which the writing ended, if the
directory of the file may be changed. -/
theorem drop_opened (hnamed : d.Names cwd p loc) (hopen : d.openForWriting cwd p = .ok (loc, d'))
    (sink : Sink) : drop ⟨p⟩ cwd (d'.finish loc sink) =
      if d.mayChange loc.tail then (d'.finish loc sink).erase loc else d'.finish loc sink := by
  have hremoved : ∀ {d₁ : Disk} {e : Entry}, d.SameTree d₁ → d₁.get loc = some e →
      e.isDirectory = false →
      drop ⟨p⟩ cwd d₁ = if d.mayChange loc.tail then d₁.erase loc else d₁ := by
    intro d₁ e htree he hdir
    rw [drop, Disk.removeFile_of_entry (hnamed.again htree) he hdir, htree.mayChange_eq]
    cases d.mayChange loc.tail <;> rfl
  obtain ⟨hoff, ⟨hold, mode, hget⟩ | ⟨⟨k, hk⟩, hsame⟩⟩ := Disk.finish_opened hopen sink
  · have hfree : (d'.finish loc sink).FileOrFree loc := fun e he =>
      ⟨sink.taken, mode, Option.some.inj (he.symm.trans hget)⟩
    exact hremoved (Disk.sameTree_of_agreeOff hoff hold hfree) hget rfl
  · rw [hsame]
    exact hremoved (.refl d) hk rfl

/-- **Once the file is open,** one write of all bytes decides. -/
theorem allOrNothing_conclude (hnamed : d.Names cwd p loc)
    (hopen : d.openForWriting cwd p = .ok (loc, d')) {s : Sink} (hs : s.latest = [])
    (bytes : Bytes) :
    AllOrNothing d cwd p loc bytes (s.writeOut bytes).1
      (conclude p cwd (d'.finish loc (s.writeOut bytes).2) (s.writeOut bytes).1) := by
  rcases hw : s.writeOut bytes with ⟨_ | e, t⟩
  · have htaken : t.taken = bytes := by
      rw [Sink.taken_writeOut hw, Sink.taken, hs]
      rfl
    have hholds := fun hfile => htaken ▸ Disk.holds_finish hopen hfile t
    exact ⟨(Disk.finish_opened hopen t).1, (fun e he => by cases he),
      fun _ => ⟨rfl, hholds, fun k hk => Disk.finish_device hopen hk t⟩⟩
  · have hfinish := (Disk.finish_opened hopen t).1
    have herase : Disk.AgreeOff loc d ((d'.finish loc t).erase loc) := fun l hl =>
      (Disk.get_erase_of_ne _ hl).trans (hfinish l hl)
    simp only [conclude, drop_opened hnamed hopen t]
    refine ⟨?_, fun e' he => ?_, fun h => by cases h⟩
    · cases d.mayChange loc.tail
      · exact hfinish
      · exact herase
    obtain rfl := Option.some.inj he
    refine ⟨rfl, fun hremovable => ?_⟩
    have hchange : d.mayChange loc.tail = true := by
      obtain ⟨parent, n, rfl, -⟩ := hnamed
      exact hremovable.elim (Disk.mayChange_of_made hopen) id
    have hgone : ((d'.finish loc t).erase loc).get loc = none :=
      Disk.get_erase_self _ hnamed.ne_nil
    simp only [if_pos hchange]
    exact ⟨Disk.absent_of_gone hopen hnamed herase hgone, hgone⟩

/-- **Creating a scratch file is all or nothing,** if the path does not end in a link. A path
that does not open gives the error of the opening, and the disk and the feed are as they were.
If it opens, the error of writing all bytes and flushing decides, whatever the sink that stands
for the open file refuses, and also behind a buffer. A device that takes the bytes passes them
on if it is a stream of the process. -/
theorem create_all_or_nothing
    (hlast : ∀ named target, d.Names cwd p named → d.get named ≠ some (.link target))
    (feed : LineFeed α) :
    (∀ e, d.openForWriting cwd p = .error e →
      create p feed cwd d =
        { result := .error (.corpusWrite p e), disk := d, rest := feed } ∧
      ∀ size s pieces, createThrough size s p pieces cwd d = (.error (.corpusWrite p e), d)) ∧
    ∀ loc d', d.openForWriting cwd p = .ok (loc, d') →
      d.Names cwd p loc ∧
      AllOrNothing d cwd p loc (fileBytes headerLine feed.lines terminatorLine)
        ((d'.sinkFor loc).writeOut (fileBytes headerLine feed.lines terminatorLine)).1
        ((create p feed cwd d).result, (create p feed cwd d).disk) ∧
      (∀ k, d.get loc = some (.device k) → k ≠ .full → (create p feed cwd d).passed =
        k.passed? (fileBytes headerLine feed.lines terminatorLine)) ∧
      ∀ size s pieces, s.latest = [] →
        pieces.flatten = fileBytes headerLine feed.lines terminatorLine →
        AllOrNothing d cwd p loc (fileBytes headerLine feed.lines terminatorLine)
          (s.writeOut (fileBytes headerLine feed.lines terminatorLine)).1
          (createThrough size s p pieces cwd d) := by
  refine ⟨fun e hclosed => ⟨create_of_closed hclosed, fun size s pieces => ?_⟩,
    fun loc d' hopen => ?_⟩
  · rw [createThrough, hclosed]
  have hnamed := Disk.names_of_noLink hopen hlast
  have hthrough : ∀ size s pieces, s.latest = [] →
      pieces.flatten = fileBytes headerLine feed.lines terminatorLine →
      AllOrNothing d cwd p loc (fileBytes headerLine feed.lines terminatorLine)
        (s.writeOut (fileBytes headerLine feed.lines terminatorLine)).1
        (createThrough size s p pieces cwd d) := by
    intro size s pieces hs hpieces
    rw [createThrough_of_open hopen, hpieces]
    exact allOrNothing_conclude hnamed hopen hs _
  refine ⟨hnamed, ?_, fun k hk => passed_of_device ⟨loc, d', hopen, hk⟩, hthrough⟩
  have hone : [fileBytes headerLine feed.lines terminatorLine].flatten =
      fileBytes headerLine feed.lines terminatorLine := by
    rw [List.flatten_singleton]
  rw [create_eq_createThrough hopen 0 hone]
  exact hthrough 0 (d'.sinkFor loc) _ rfl hone

/-- A disk that fills up in the first line: the failure says so, and nothing is left of the
file. Nor is anything left of it if every byte is taken and only the flush fails. -/
theorem fullDisk_nothing_left :
    (∀ named target, fullDisk.Names [] [0x6F] named →
      fullDisk.get named ≠ some (.link target)) ∧
    fullDisk.openForWriting [] [0x6F] =
      .ok ([[0x6F]], fullDisk.put [[0x6F]] (.file [] Mode.ofFile)) ∧
    (create [0x6F] (.ofList []) [] fullDisk).result =
      .error (.corpusWrite [0x6F] (.system Errno.noSpace)) ∧
    (create [0x6F] (.ofList []) [] fullDisk).disk.Absent [] [0x6F] ∧
    (create [0x6F] (.ofList []) [] fullDisk).disk.get [[0x6C]] = some (.link [0x6F]) ∧
    (createThrough 8 { Sink.unlimited with flushError := some (.system Errno.noSpace) } [0x6F]
      [fileBytes headerLine [] terminatorLine] [] fullDisk).1 =
        .error (.corpusWrite [0x6F] (.system Errno.noSpace)) ∧
    (createThrough 8 { Sink.unlimited with flushError := some (.system Errno.noSpace) } [0x6F]
      [fileBytes headerLine [] terminatorLine] [] fullDisk).2.Absent [] [0x6F] := by
  have hlast : ∀ named target, fullDisk.Names [] [0x6F] named →
      fullDisk.get named ≠ some (.link target) := by
    intro named target hnamed
    rw [hnamed.unique names_fullDisk]
    nofun
  obtain ⟨-, hopened⟩ := create_all_or_nothing hlast (.ofList [])
  obtain ⟨-, hmade, -, hthrough⟩ := hopened _ _ open_fullDisk
  obtain ⟨hresult, hgone⟩ := hmade.failed (.system Errno.noSpace) (by decide +kernel)
  obtain ⟨hresult', hgone'⟩ := (hthrough 8
    { Sink.unlimited with flushError := some (.system Errno.noSpace) }
    [fileBytes headerLine [] terminatorLine] rfl (List.flatten_singleton ..)).failed
      (.system Errno.noSpace) (by decide +kernel)
  exact ⟨hlast, open_fullDisk, hresult, (hgone (.inr rfl)).1, hmade.others [[0x6C]] (by decide),
    hresult', (hgone' (.inr rfl)).1⟩

/-- **A file that was created and holds nothing.** The path names a device. -/
theorem nullDisk_holds_nothing :
    (∀ named target, Harness.nullDisk.Names [] [0x6E] named →
      Harness.nullDisk.get named ≠ some (.link target)) ∧
    (create [0x6E] (.ofList [['a']]) [] Harness.nullDisk).result = .ok ⟨[0x6E]⟩ ∧
    ∀ bytes, ¬(create [0x6E] (.ofList [['a']]) [] Harness.nullDisk).disk.Holds [] [0x6E] bytes := by
  have hr : ∀ follow, Harness.nullDisk.resolve follow [] [0x6E] = .ok (.name [] [0x6E] false) := by
    intro follow
    have hn : Disk.IsPlain [0x6E] := ⟨by decide, by decide, by decide⟩
    exact Disk.resolve_last ⟨rfl, rfl, by decide⟩ rfl hn rfl fun target htarget => by cases htarget
  have hopen : Harness.nullDisk.openForWriting [] [0x6E] = .ok ([[0x6E]], Harness.nullDisk) := by
    rw [Disk.openForWriting, hr]
    rfl
  have hput : Harness.nullDisk.putFile [] [0x6E]
      (fileBytes headerLine (LineFeed.ofList [['a']]).lines terminatorLine) =
        .ok Harness.nullDisk := by
    rw [Disk.putFile_of_open hopen, Sink.write_of_fits (Sink.fits_of_unlimited rfl _)]
    rfl
  obtain ⟨hresult, hdisk⟩ := create_of_putFile hput
  refine ⟨fun named target hnamed => ?_, hresult, ?_⟩
  · rw [hnamed.unique ⟨[], [0x6E], rfl, hr _⟩]
    nofun
  · rintro bytes ⟨loc, mode, hlookup⟩
    rw [hdisk, Disk.lookup, hr] at hlookup
    cases hlookup

end Scratch
end StressBench
