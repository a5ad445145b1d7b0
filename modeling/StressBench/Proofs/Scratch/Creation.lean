/-
# Creating a scratch file is one write

The lines of a scratch file are made and written one at a time, yet the file is what
one write of all its bytes would have made of it. If this write succeeds there is an
owner and the path leads to the bytes, unless it leads to a device, which keeps
nothing; if it is refused there is no owner, and the error is the one of the write.

Key definition: `Disk.Left`.
Key theorems: `Disk.putFile_eq_ok`, `Disk.holds_of_putFile`, `Scratch.create_of_putFile`,
`Scratch.create_of_refused`, `Scratch.left_of_putFile`.
-/
import StressBench.Proofs.Disk.Opening
import StressBench.Proofs.Sink.Delivery
import StressBench.Scratch

namespace StressBench

/-! ### Files written at once -/

theorem Sink.flushError_write (s : Sink) (bs : Bytes) :
    (s.write bs).2.flushError = s.flushError := rfl

namespace Disk

variable {d d' d₁ : Disk} {cwd loc : Location} {p : Path} {bytes : Bytes}

theorem putFile_of_open (hopen : d.openForWriting cwd p = .ok (loc, d')) (bytes : Bytes) :
    d.putFile cwd p bytes = match (d'.sinkFor loc).write bytes with
      | (some e, _) => .error e
      | (none, sink) => .ok (d'.finish loc sink) := by
  unfold putFile
  rw [hopen]
  rcases h : (d'.sinkFor loc).write bytes with ⟨_ | e, sink⟩ <;> simp only [h]

theorem putFile_of_file {parent : Location} {n : Name} {mode : Mode}
    (hopen : d.openForWriting cwd p =
      .ok (n :: parent, d.put (n :: parent) (.file [] mode))) :
    (d.HasRoom bytes.length → d.putFile cwd p bytes =
      .ok ((d.put (n :: parent) (.file [] mode)).put (n :: parent) (.file bytes mode))) ∧
    (¬d.HasRoom bytes.length → ∃ e, d.putFile cwd p bytes = .error e) := by
  have hget : (d.put (n :: parent) (.file [] mode)).get (n :: parent) = some (.file [] mode) :=
    d.get_put_self _ (by simp)
  have hsink := d.sinkFor_put (List.cons_ne_nil n parent) mode
  have hfits := d.fits_sinkFor_put (List.cons_ne_nil n parent) mode bytes.length
  rw [putFile_of_open hopen]
  refine ⟨fun hroom => ?_, fun hroom => ?_⟩
  · rw [Sink.write_of_fits (hfits.mpr hroom), hsink]
    simp only [finish, hget, Sink.taken, List.nil_append, List.append_nil, List.reverse_reverse]
  · rw [Sink.write_of_not_fits_room fun h => hroom (hfits.mp h)]
    exact ⟨_, rfl⟩

/-- What writing a file at once does, unless it goes to a device. -/
theorem putFile_eq_ok (h : d.putFile cwd p bytes = .ok d₁) (hdev : ∀ k, ¬d.OpensDevice cwd p k) :
    ∃ parent n mode, d.resolve .unlessSlash cwd p = .ok (.name parent n false) ∧
      d.FileOrFree (n :: parent) ∧ mode.canWrite = true ∧
      d₁ = (d.put (n :: parent) (.file [] mode)).put (n :: parent) (.file bytes mode) := by
  cases hopen : d.openForWriting cwd p with
  | error e =>
    unfold putFile at h
    rw [hopen] at h
    cases h
  | ok opened =>
    obtain ⟨loc, d'⟩ := opened
    obtain ⟨parent, n, rfl, hr, ⟨hold, mode, hmode, rfl⟩ | ⟨⟨k, hk⟩, -⟩⟩ :=
      openForWriting_cases hopen
    · refine ⟨parent, n, mode, hr, hold, hmode, ?_⟩
      by_cases hroom : d.HasRoom bytes.length
      · rw [(putFile_of_file hopen).1 hroom] at h
        exact (Except.ok.inj h).symm
      · obtain ⟨e, he⟩ := (putFile_of_file hopen).2 hroom
        rw [he] at h
        cases h
    · exact absurd ⟨_, d', hopen, hk⟩ (hdev k)

theorem putFile_of_opensDevice {k : Device} (h : d.putFile cwd p bytes = .ok d₁)
    (hdev : d.OpensDevice cwd p k) : d₁ = d := by
  obtain ⟨loc, d', hopen, hk⟩ := hdev
  obtain rfl := disk_of_opensDevice hopen hk
  rw [putFile_of_open hopen] at h
  rcases hw : (d'.sinkFor loc).write bytes with ⟨_ | e, sink⟩ <;> rw [hw] at h
  · rw [← Except.ok.inj h, finish, hk]
  · cases h

/-- **What was written is found again,** unless it went to a device. -/
theorem holds_of_putFile (h : d.putFile cwd p bytes = .ok d₁)
    (hdev : ∀ k, ¬d.OpensDevice cwd p k) : d₁.Holds cwd p bytes := by
  obtain ⟨parent, n, mode, hr, hold, -, rfl⟩ := putFile_eq_ok h hdev
  refine ⟨n :: parent, mode, lookup_again hr hold ?_ (get_put_self _ _ (by simp))⟩
  exact (agreeOff_put d _ _).trans (agreeOff_put _ _ _)

theorem putFile_of_fullDevice (h : d.putFile cwd p bytes = .ok d₁)
    (hdev : d.OpensDevice cwd p .full) : bytes = [] := by
  obtain ⟨loc, d', hopen, hk⟩ := hdev
  obtain rfl := disk_of_opensDevice hopen hk
  have hsink : (d'.sinkFor loc).capacity = some 0 := by
    rw [sinkFor, hk]
  rw [putFile_of_open hopen] at h
  by_cases hfits : (d'.sinkFor loc).Fits bytes.length
  · exact List.length_eq_zero_iff.mp (Nat.le_zero.mp (hfits 0 hsink))
  · rw [Sink.write_of_not_fits_room hfits] at h
    cases h

/-- Where the bytes are when they have been written to a path: they are found there, or the
path leads to a device, any but the full one. It keeps nothing and leaves the disk as it was;
if it is a stream of the process, they have been passed on to it. -/
def Left (d : Disk) (cwd : Location) (p : Path) (bytes : Bytes) (d₁ : Disk)
    (passed : Option Passed) : Prop :=
  d₁.Holds cwd p bytes ∧ passed = none ∨
    ∃ k, d.OpensDevice cwd p k ∧ k ≠ .full ∧ d₁ = d ∧ passed = k.passed? bytes

end Disk

/-! ### Scratch files -/

namespace Scratch

variable {α : Type} {d d₁ : Disk} {cwd : Location} {p : Path} {feed : LineFeed α}

theorem create_of_closed {e : IoError} (h : d.openForWriting cwd p = .error e) :
    create p feed cwd d =
      { result := .error (.corpusWrite p e), disk := d, rest := feed } := by
  unfold create
  rw [h]

/-- **A scratch file is what one write makes of it.** -/
theorem create_eq_putFile (p : Path) (feed : LineFeed α) (cwd : Location) (d : Disk) :
    match d.putFile cwd p (fileBytes headerLine feed.lines terminatorLine) with
    | .ok d₁ => (create p feed cwd d).result = .ok ⟨p⟩ ∧ (create p feed cwd d).disk = d₁
    | .error e => (create p feed cwd d).result = .error (.corpusWrite p e) := by
  cases hopen : d.openForWriting cwd p with
  | error e =>
    unfold Disk.putFile create
    rw [hopen]
  | ok opened =>
    obtain ⟨loc, d'⟩ := opened
    have hw := writeLines_eq_write (d'.sinkFor loc) headerLine feed terminatorLine
    rw [Disk.putFile_of_open hopen]
    unfold create
    rw [hopen]
    rw [← fileBytes] at hw
    simp only
    generalize writeLines (d'.sinkFor loc) headerLine feed terminatorLine = w at hw ⊢
    have hflush := (d'.sinkFor loc).flushError_write
      (fileBytes headerLine feed.lines terminatorLine)
    generalize (d'.sinkFor loc).write (fileBytes headerLine feed.lines terminatorLine) = r
      at hw hflush ⊢
    rcases r with ⟨_ | e, sink⟩
    · -- the flush of the sink of a disk does not fail, and it takes nothing
      obtain ⟨herr, hsink⟩ := Prod.mk.inj hw
      have hnone : w.error = none := herr.trans hflush
      rw [hnone, hsink]
      exact ⟨rfl, rfl⟩
    · obtain ⟨herr, -⟩ := Prod.mk.inj hw
      rw [herr]

theorem create_of_putFile
    (h : d.putFile cwd p (fileBytes headerLine feed.lines terminatorLine) = .ok d₁) :
    (create p feed cwd d).result = .ok ⟨p⟩ ∧ (create p feed cwd d).disk = d₁ := by
  have := create_eq_putFile p feed cwd d
  rw [h] at this
  exact this

theorem create_of_refused {e : IoError}
    (h : d.putFile cwd p (fileBytes headerLine feed.lines terminatorLine) = .error e) :
    (create p feed cwd d).result = .error (.corpusWrite p e) := by
  have := create_eq_putFile p feed cwd d
  rw [h] at this
  exact this

/-! ### What is passed on -/

/-- A path that opens: there is an owner when the lines are written without an error, and
what was passed on is told in any case. -/
theorem create_of_opened {d' : Disk} {loc : Location} (h : d.openForWriting cwd p = .ok (loc, d'))
    (feed : LineFeed α) :
    ((create p feed cwd d).result = .ok ⟨p⟩ ↔
        (writeLines (d'.sinkFor loc) headerLine feed terminatorLine).error = none) ∧
      ((writeLines (d'.sinkFor loc) headerLine feed terminatorLine).error = none →
        (create p feed cwd d).disk =
          d'.finish loc (writeLines (d'.sinkFor loc) headerLine feed terminatorLine).sink) ∧
      (create p feed cwd d).passed =
        d'.passed? loc (writeLines (d'.sinkFor loc) headerLine feed terminatorLine).sink := by
  unfold create
  rw [h]
  simp only
  generalize writeLines (d'.sinkFor loc) headerLine feed terminatorLine = w
  rcases w with ⟨_ | e, sink, rest⟩
  · exact ⟨⟨fun _ => rfl, fun _ => rfl⟩, fun _ => rfl, rfl⟩
  · exact ⟨⟨nofun, nofun⟩, nofun, rfl⟩

theorem passed_of_device {k : Device} (hdev : d.OpensDevice cwd p k) (hk : k ≠ .full) :
    (create p feed cwd d).passed =
      k.passed? (fileBytes headerLine feed.lines terminatorLine) := by
  obtain ⟨loc, d', hopen, hget⟩ := hdev
  obtain rfl := Disk.disk_of_opensDevice hopen hget
  rw [(create_of_opened hopen feed).2.2]
  exact (Disk.write_device hget headerLine feed terminatorLine).passed_eq hk

theorem passed_of_noStream (h : ∀ n, ¬d.OpensDevice cwd p (.stream n)) :
    (create p feed cwd d).passed = none := by
  cases hopen : d.openForWriting cwd p with
  | error e => rw [create_of_closed hopen]
  | ok opened =>
    obtain ⟨loc, d'⟩ := opened
    rw [(create_of_opened hopen feed).2.2]
    obtain ⟨parent, n, rfl, -, ⟨-, mode, -, rfl⟩ | ⟨⟨k, hk⟩, rfl⟩⟩ :=
      Disk.openForWriting_cases hopen
    · rw [Disk.passed?, d.get_put_self _ (List.cons_ne_nil n parent)]
    · rw [Disk.passed?, hk]
      cases k with
      | stream m => exact absurd ⟨_, _, hopen, hk⟩ (h m)
      | null | zero | random | full => rfl

/-- **Where a corpus is that was written.** It has some byte. -/
theorem left_of_putFile
    (h : d.putFile cwd p (fileBytes headerLine feed.lines terminatorLine) = .ok d₁) :
    d.Left cwd p (fileBytes headerLine feed.lines terminatorLine) d₁
      (create p feed cwd d).passed := by
  by_cases hdev : ∃ k, d.OpensDevice cwd p k
  · obtain ⟨k, hk⟩ := hdev
    have hfull : k ≠ .full := by
      rintro rfl
      exact fileBytes_ne_nil (Disk.putFile_of_fullDevice h hk)
    exact .inr ⟨k, hk, hfull, Disk.putFile_of_opensDevice h hk, passed_of_device hk hfull⟩
  · have hfile := not_exists.mp hdev
    exact .inl ⟨Disk.holds_of_putFile h hfile, passed_of_noStream fun n => hfile _⟩

end Scratch
end StressBench
