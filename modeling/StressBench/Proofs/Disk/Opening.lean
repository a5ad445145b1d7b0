/-
# A file that was opened for writing is found again

Opening a path for writing empties the file that it leads to, or makes one, and
changes nothing else. A walk that ended there looked at no entry that has changed
but the last, and it ends there again. So what is written to the open file is what
the path leads to afterwards, through whatever links it goes.

A device keeps nothing: unless it is full it takes all, and if it is a stream of the process
it passes all on.

Key definitions: `Disk.OpensFile`, `Disk.OpensDevice`, `Disk.HasRoom`, `Disk.Holds`,
`Disk.WritesFile`, `Disk.WritesDevice`.
Key theorems: `Disk.openForWriting_cases`, `Disk.lookup_again`, `Disk.write_opened`,
`Disk.write_device`.
-/
import StressBench.Disk.Files
import StressBench.Proofs.Disk.Walking
import StressBench.Proofs.Sink.Writing

namespace StressBench
namespace Disk

/-! ### Opening -/

/-- Opening the path for writing gives a file, which is empty then; a device is
none. -/
def OpensFile (d : Disk) (cwd : Location) (p : Path) : Prop :=
  ∃ loc d', d.openForWriting cwd p = .ok (loc, d') ∧ ∀ k, d.get loc ≠ some (.device k)

/-- Opening the path for writing gives this device. -/
def OpensDevice (d : Disk) (cwd : Location) (p : Path) (k : Device) : Prop :=
  ∃ loc d', d.openForWriting cwd p = .ok (loc, d') ∧ d.get loc = some (.device k)

/-- A file of `n` bytes does not fill the disk. -/
def HasRoom (d : Disk) (n : Nat) : Prop :=
  ∀ r, d.room = some r → n ≤ r

/-- The path leads to a file with this content. -/
def Holds (d : Disk) (cwd : Location) (p : Path) (content : Bytes) : Prop :=
  ∃ loc mode, d.lookup cwd p = .ok (loc, .file content mode)

/-- How a file of this content is written at the path: it succeeds exactly when the
disk has room, and the path leads to the content then. -/
structure WritesFile (d : Disk) (cwd : Location) (p : Path) (content : Bytes) (succeeds : Prop)
    (after : Disk) (passed : Option Passed) : Prop where
  succeeds_iff : succeeds ↔ d.HasRoom content.length
  holds : d.HasRoom content.length → after.Holds cwd p content
  passed_eq : passed = none

/-- How the same is written to a device: it succeeds unless the device is full, which leaves
the disk as it was and passes on what this device does. -/
structure WritesDevice (d : Disk) (k : Device) (content : Bytes) (succeeds : Prop)
    (after : Disk) (passed : Option Passed) : Prop where
  succeeds_iff : succeeds ↔ k ≠ .full
  kept : k ≠ .full → after = d
  passed_eq : k ≠ .full → passed = k.passed? content

/-- What opening for writing does: nothing but to put an empty file at the place that
the path leads to, where a file was or nothing; a device stays as it is. -/
theorem openForWriting_cases {d d' : Disk} {cwd loc : Location} {p : Path}
    (h : d.openForWriting cwd p = .ok (loc, d')) :
    ∃ parent n, loc = n :: parent ∧
      d.resolve .unlessSlash cwd p = .ok (.name parent n false) ∧
      (d.FileOrFree loc ∧ (∃ mode, mode.canWrite = true ∧ d' = d.put loc (.file [] mode)) ∨
        (∃ k, d.get loc = some (.device k)) ∧ d' = d) := by
  unfold openForWriting at h
  rcases hr : d.resolve .unlessSlash cwd p with e | ⟨l⟩ | ⟨parent, n, slash⟩ <;> rw [hr] at h
  · cases h
  · cases h
  cases slash with
  | true => cases h
  | false =>
    simp only [Bool.false_eq_true, if_false] at h
    rcases hg : d.get (n :: parent) with _ | (_ | ⟨bs, m⟩ | target | k) <;> rw [hg] at h
    · by_cases hp : d.mayChange parent = true
      · simp only [if_pos hp] at h
        obtain ⟨rfl, rfl⟩ := Prod.mk.inj (Except.ok.inj h)
        refine ⟨parent, n, rfl, rfl, .inl ⟨fun e he => ?_, Mode.ofFile, rfl, rfl⟩⟩
        rw [hg] at he
        cases he
      · simp only [if_neg hp] at h
        cases h
    · cases h
    · by_cases hm : m.canWrite = true
      · simp only [if_pos hm] at h
        obtain ⟨rfl, rfl⟩ := Prod.mk.inj (Except.ok.inj h)
        refine ⟨parent, n, rfl, rfl, .inl ⟨fun e he => ?_, m, hm, rfl⟩⟩
        rw [hg] at he
        exact ⟨bs, m, (Option.some.inj he).symm⟩
      · simp only [if_neg hm] at h
        cases h
    · cases h
    · obtain ⟨rfl, rfl⟩ := Prod.mk.inj (Except.ok.inj h)
      exact ⟨parent, n, rfl, rfl, .inr ⟨⟨k, hg⟩, rfl⟩⟩

theorem mayChange_of_made {d d' : Disk} {cwd parent : Location} {n : Name} {p : Path}
    (h : d.openForWriting cwd p = .ok (n :: parent, d')) (hnew : d.get (n :: parent) = none) :
    d.mayChange parent = true := by
  obtain ⟨parent', n', hloc, hr, -⟩ := openForWriting_cases h
  obtain ⟨rfl, rfl⟩ := List.cons_eq_cons.mp hloc
  unfold openForWriting at h
  rw [hr] at h
  simp only [Bool.false_eq_true, if_false, hnew] at h
  by_cases hp : d.mayChange parent = true
  · exact hp
  · rw [if_neg hp] at h
    cases h

theorem openForWriting_eq_ok {d d' : Disk} {cwd loc : Location} {p : Path}
    (h : d.openForWriting cwd p = .ok (loc, d')) (hdev : ∀ k, d.get loc ≠ some (.device k)) :
    ∃ parent n mode, loc = n :: parent ∧
      d.resolve .unlessSlash cwd p = .ok (.name parent n false) ∧
      d.FileOrFree loc ∧ d' = d.put loc (.file [] mode) := by
  obtain ⟨parent, n, rfl, hr, ⟨hold, mode, -, rfl⟩ | ⟨⟨k, hk⟩, -⟩⟩ := openForWriting_cases h
  · exact ⟨parent, n, mode, rfl, hr, hold, rfl⟩
  · exact absurd hk (hdev k)

/-- **The path leads to the file afterwards.** -/
theorem lookup_again {d d' : Disk} {cwd parent : Location} {n : Name} {p : Path}
    {content : Bytes} {mode : Mode}
    (h : d.resolve .unlessSlash cwd p = .ok (.name parent n false))
    (hold : d.FileOrFree (n :: parent))
    (hoff : AgreeOff (n :: parent) d d')
    (hnew : d'.get (n :: parent) = some (.file content mode)) :
    d'.lookup cwd p = .ok (n :: parent, .file content mode) := by
  have hfree : d'.FileOrFree (n :: parent) := by
    intro e he
    exact ⟨content, mode, Option.some.inj (he.symm.trans hnew)⟩
  have hr : d'.resolve .always cwd p = .ok (.name parent n false) :=
    resolve_sameTree h (sameTree_of_agreeOff hoff hold hfree) (fun _ _ => rfl)
      fun target ht => absurd ht (hold.ne_link target)
  unfold lookup
  rw [hr]
  simp only [hnew, Bool.false_eq_true, false_and, if_false]

theorem disk_of_opensDevice {d d' : Disk} {cwd loc : Location} {p : Path} {k : Device}
    (h : d.openForWriting cwd p = .ok (loc, d')) (hk : d.get loc = some (.device k)) :
    d' = d := by
  obtain ⟨-, -, -, -, ⟨hold, -⟩ | ⟨-, hd⟩⟩ := openForWriting_cases h
  · obtain ⟨content, mode, hf⟩ := hold _ hk
    cases hf
  · exact hd

theorem OpensDevice.unique {d : Disk} {cwd : Location} {p : Path} {k k' : Device}
    (h : d.OpensDevice cwd p k) (h' : d.OpensDevice cwd p k') : k = k' := by
  obtain ⟨loc, d', hopen, hk⟩ := h
  obtain ⟨loc', d'', hopen', hk'⟩ := h'
  obtain ⟨rfl, -⟩ := Prod.mk.inj (Except.ok.inj (hopen.symm.trans hopen'))
  exact Entry.device.inj (Option.some.inj (hk.symm.trans hk'))

/-! ### Writing -/

section Writing

variable {α : Type} {d d' : Disk} {cwd loc : Location} {p : Path}

theorem sinkFor_put (d : Disk) {loc : Location} (h : loc ≠ []) (mode : Mode) :
    (d.put loc (.file [] mode)).sinkFor loc =
      { capacity := d.room, whenFull := .fail (.system Errno.noSpace), flushError := none } := by
  unfold sinkFor
  rw [d.get_put_self _ h]
  rfl

theorem fits_sinkFor_put (d : Disk) {loc : Location} (h : loc ≠ []) (mode : Mode) (n : Nat) :
    ((d.put loc (.file [] mode)).sinkFor loc).Fits n ↔ d.HasRoom n := by
  rw [sinkFor_put d h mode]
  rfl

/-- **Writing to a file that was opened.** -/
theorem write_opened (hopen : d.openForWriting cwd p = .ok (loc, d'))
    (hdev : ∀ k, d.get loc ≠ some (.device k)) (header : Text) (feed : LineFeed α)
    (terminator : Text) :
    d.WritesFile cwd p (Utf8.encode (fileText header feed.lines terminator))
      ((writeLines (d'.sinkFor loc) header feed terminator).error = none)
      (d'.finish loc (writeLines (d'.sinkFor loc) header feed terminator).sink)
      (d'.passed? loc (writeLines (d'.sinkFor loc) header feed terminator).sink) := by
  obtain ⟨parent, n, mode, rfl, hr, hold, rfl⟩ := openForWriting_eq_ok hopen hdev
  have hget : (d.put (n :: parent) (.file [] mode)).get (n :: parent) = some (.file [] mode) :=
    d.get_put_self _ (by simp)
  have hsink := d.sinkFor_put (List.cons_ne_nil n parent) mode
  have hiff := writeLines_error_eq_none_iff header feed terminator
    (s := (d.put (n :: parent) (.file [] mode)).sinkFor (n :: parent)) (by rw [hsink])
  have hfits := d.fits_sinkFor_put (List.cons_ne_nil n parent) mode
    (Utf8.encode (fileText header feed.lines terminator)).length
  refine ⟨hiff.trans hfits, fun hroom => ?_, by rw [passed?, hget]⟩
  have htaken := (writeLines_of_fits header feed terminator (hfits.mpr hroom)).2
  have hfin : (d.put (n :: parent) (.file [] mode)).finish (n :: parent)
      (writeLines ((d.put (n :: parent) (.file [] mode)).sinkFor (n :: parent)) header feed
        terminator).sink = (d.put (n :: parent) (.file [] mode)).put (n :: parent)
          (.file (Utf8.encode (fileText header feed.lines terminator)) mode) := by
    unfold finish
    rw [hget, htaken, hsink]
    rfl
  rw [hfin]
  refine ⟨n :: parent, mode, lookup_again hr hold ?_ (get_put_self _ _ (by simp))⟩
  exact (agreeOff_put d _ _).trans (agreeOff_put _ _ _)

theorem sinkFor_device {k : Device} (h : d.get loc = some (.device k)) (hk : k ≠ .full) :
    d.sinkFor loc =
      { capacity := none, whenFull := .fail (.system Errno.noSpace), flushError := none } := by
  unfold sinkFor
  rw [h]
  cases k with
  | full => exact absurd rfl hk
  | null | zero | random | stream => rfl

/-- **Writing to a device that was opened.** A file has some byte. -/
theorem write_device {k : Device} (hget : d.get loc = some (.device k)) (header : Text)
    (feed : LineFeed α) (terminator : Text) :
    d.WritesDevice k (Utf8.encode (fileText header feed.lines terminator))
      ((writeLines (d.sinkFor loc) header feed terminator).error = none)
      (d.finish loc (writeLines (d.sinkFor loc) header feed terminator).sink)
      (d.passed? loc (writeLines (d.sinkFor loc) header feed terminator).sink) := by
  refine ⟨⟨?_, fun hk => ?_⟩, fun hk => by rw [finish, hget], fun hk => ?_⟩
  · rintro herror rfl
    have hsink : (d.sinkFor loc).capacity = some 0 ∧ (d.sinkFor loc).flushError = none := by
      rw [sinkFor, hget]
      exact ⟨rfl, rfl⟩
    have hfits := (writeLines_error_eq_none_iff header feed terminator hsink.2).mp herror
    exact encode_fileText_ne_nil header feed.lines terminator
      (List.length_eq_zero_iff.mp (Nat.le_zero.mp (hfits 0 hsink.1)))
  · rw [sinkFor_device hget hk]
    exact (writeLines_error_eq_none_iff header feed terminator rfl).mpr
      (Sink.fits_of_unlimited rfl _)
  · have hfits : (d.sinkFor loc).Fits
        (Utf8.encode (fileText header feed.lines terminator)).length := by
      rw [sinkFor_device hget hk]
      exact Sink.fits_of_unlimited rfl _
    rw [passed?, hget, (writeLines_of_fits header feed terminator hfits).2,
      sinkFor_device hget hk]
    rfl

end Writing

end Disk
end StressBench
