/-
# What the compiler printed is passed on

Whatever bytes a compiler prints before it ends, its output is captured as a text, and this
text is what the program prints itself. So the bytes of the program are always valid, a valid
beginning of the compiler's is passed on as it is, and each break behind it becomes one
U+FFFD. What the compiler printed as errors is captured in the same way.

Key definitions: `Launcher.Captures`, `Launch.prints`, `Program.Ended.printed`.
Key theorems: `Launch.call_captures`, `Harness.output_of_run`, `Program.output_relayed`.
-/
import StressBench.Proofs.Program.Ending
import StressBench.Proofs.Text.Breaks

namespace StressBench

/-! ### What a call prints -/

/-- The output of a call that comes to an end is captured from the bytes that were printed on
the two outputs of its program; `prints` tells these. -/
def Launcher.Captures (launch : Launcher)
    (prints : Location → Disk → Invocation → Bytes × Bytes) : Prop :=
  ∀ cwd d i o, (launch cwd d i).1 = .ok o →
    o = Output.ofBytes (prints cwd d i).1 (prints cwd d i).2 o.status

namespace Launch

/-- What the child of a call prints on its two outputs: what has gathered there when it has
ended. -/
def prints (cwd : Location) (d : Disk) (i : Invocation) : Bytes × Bytes :=
  match prepare d cwd i with
  | .error _ => ([], [])
  | .ok (start, dir) =>
    let s := Shell.Schedule.run start (child dir) (system d i)
    let gathered (pipe : Nat) := Shell.toBytes (s.system.pipes[pipe]?.getD {}).content
    (gathered 0, gathered 1)

/-- **The calls that are carried out capture what is printed.** -/
theorem call_captures : Launcher.Captures call prints := by
  intro cwd d i o ho
  unfold call at ho
  unfold prints
  rcases hprepare : prepare d cwd i with e | ⟨start, dir⟩ <;> rw [hprepare] at ho
  · cases ho
  · unfold outcome at ho
    dsimp only at ho
    split at ho <;> cases ho <;> rfl

end Launch

namespace Harness

variable {launch : Launcher} {config : Config} {drawn : UInt64} {cwd : Location} {d : Disk}

/-- The output in a report is that of the call, made with the corpus written. -/
theorem output_of_run (hmin : minLines ≤ config.numLines) {r : Report} {o : Output}
    (hrun : (run launch config drawn cwd d).result = .ok r) (hend : r.result = .ok o) :
    ∃ d₁, d.putFile cwd config.scratchPath (corpus config drawn).bytes = .ok d₁ ∧
      (launch cwd d₁ (invocation config)).1 = .ok o := by
  rcases hput : d.putFile cwd config.scratchPath (corpus config drawn).bytes with e | d₁
  · cases (run_of_refused launch drawn hmin hput).1.symm.trans hrun
  · cases (run_of_written launch drawn hmin hput rfl).1.symm.trans hrun
    exact ⟨d₁, rfl, hend⟩

end Harness

/-! ### What the program prints -/

namespace Program

open CommandLine

/-- The bytes that the program prints itself on its own output. -/
def Ended.printed (e : Ended) : Bytes :=
  Utf8.encode e.stdout

variable {launch : Launcher} {config : Config} {drawn : UInt64} {cwd : Location} {d : Disk}

/-- **What the compiler printed is passed on.** In a run with a compiler that comes to an end,
the program prints what is to be passed on for the bytes that the compiler printed, and what
is captured of the compiler's errors is what is to be passed on for these. For any bytes, this
is valid; it is the same bytes exactly if they are valid; each character that stands in them is
kept and each break becomes one U+FFFD, in order; and a valid beginning is kept, followed by
what is to be passed on for the rest alone. -/
theorem output_relayed {argv : List Bytes} {a : Args} {s : Surroundings}
    (hargs : parse argv = .ok a) (hmode : a.generateOnly = false)
    (hconfig : a.toConfig s = .ok config) (drawn : UInt64) (cwd : Location) (d : Disk) :
    Launcher.Captures Launch.call Launch.prints ∧
    (∀ launch prints, Launcher.Captures launch prints → ∀ r o,
      (Harness.run launch config drawn cwd d).result = .ok r → r.result = .ok o →
      ∃ d₁, d.putFile cwd config.scratchPath (Harness.corpus config drawn).bytes = .ok d₁ ∧
        (run launch s argv drawn cwd d).printed =
          Utf8.relay (prints cwd d₁ (Harness.invocation config)).1 ∧
        Utf8.encode o.stderr = Utf8.relay (prints cwd d₁ (Harness.invocation config)).2) ∧
    ∀ bs, Utf8.IsValid (Utf8.relay bs) ∧
      (Utf8.relay bs = bs ↔ Utf8.IsValid bs) ∧
      (∀ text, Utf8.relay bs = Utf8.encode text ↔ Utf8.Lossy bs text) ∧
      ∀ front rest, Utf8.IsValid front → bs = front ++ rest →
        Utf8.relay bs = front ++ Utf8.relay rest := by
  refine ⟨Launch.call_captures, fun launch prints hcaptures r o hrun hend => ?_, fun bs =>
    ⟨Utf8.isValid_relay bs, Utf8.relay_eq_self_iff, fun text => Utf8.relay_eq_encode_iff, ?_⟩⟩
  · have hmin := minLines_le_of_toConfig hargs hconfig
    obtain ⟨d₁, hput, hcall⟩ := Harness.output_of_run hmin hrun hend
    have houtput := hcaptures cwd d₁ (Harness.invocation config) o hcall
    have hout : (run launch s argv drawn cwd d).stdout = o.stdout := by
      rw [run_of_parse hargs, execute_of_config hconfig, hmode, if_neg Bool.false_ne_true]
      exact stdout_of_benchmark hrun hend
    refine ⟨d₁, hput, ?_, ?_⟩
    · rw [Ended.printed, hout, houtput]
      rfl
    · rw [houtput]
      rfl
  · rintro front rest hfront rfl
    exact Utf8.relay_append hfront rest

/-- A compiler that prints a letter, a character that is cut short and another letter, and as
an error a byte that begins no character. -/
def printsBroken : Location → Disk → Invocation → Bytes × Bytes := fun _ _ _ =>
  ([0x61, 0xE2, 0x82, 0x62], [0xFF])

/-- The call of this compiler, which ends with a code that is not zero. -/
def endsBroken : Launcher := fun cwd d i =>
  (.ok (.ofBytes (printsBroken cwd d i).1 (printsBroken cwd d i).2 (.exited 1)), d)

/-- The letters are passed on, with one U+FFFD between them. -/
theorem broken_relayed : parse deviceArgv = .ok (deviceArgs false) ∧
    (deviceArgs false).generateOnly = false ∧
    (deviceArgs false).toConfig atRoot = .ok deviceConfig ∧
    endsBroken.Captures printsBroken ∧
    (run endsBroken atRoot deviceArgv 42 [] Harness.nullDisk).printed =
      [0x61, 0xEF, 0xBF, 0xBD, 0x62] ∧
    ¬ Utf8.IsValid [0x61, 0xE2, 0x82, 0x62] := by
  have hargs : parse deviceArgv = .ok (deviceArgs false) := rfl
  have hconfig : (deviceArgs false).toConfig atRoot = .ok deviceConfig := rfl
  have hcaptures : endsBroken.Captures printsBroken := by
    intro cwd d i o ho
    cases ho
    rfl
  have hmin : minLines ≤ deviceConfig.numLines := by decide
  have hrun := (Harness.run_of_written endsBroken 42 hmin (putFile_device _) rfl).1
  obtain ⟨-, hrelayed, hlaws⟩ := output_relayed hargs rfl hconfig 42 [] Harness.nullDisk
  obtain ⟨d₁, -, hprinted, -⟩ := hrelayed endsBroken printsBroken hcaptures _ _ hrun rfl
  have hrelay : Utf8.relay [0x61, 0xE2, 0x82, 0x62] = [0x61, 0xEF, 0xBF, 0xBD, 0x62] := by decide
  refine ⟨hargs, rfl, hconfig, hcaptures, hprinted.trans hrelay, fun hvalid => ?_⟩
  have hsame := (hlaws [0x61, 0xE2, 0x82, 0x62]).2.1.mpr hvalid
  rw [hrelay] at hsame
  cases hsame

end Program
end StressBench
