/-
# What reading an argument changes

However the arguments are mixed, they are read in steps of four kinds, and a step changes a
draft in four ways only: an item gets its value, an item begins or ends, a flag is noted, a
flag is counted. So what these four keep is kept by the whole reading. In particular the
number of lines of a command line that is accepted has room for the first and the last line.

Key definitions: `Draft.Change`, `Draft.Changes`, `Draft.Step`, `Draft.Steps`, `Draft.HasRoom`.
Key theorems: `Draft.Changes.keep`, `Draft.take_steps`, `scan_steps`, `minLines_le_numLines`.
-/
import StressBench.CommandLine.Resolve
import Mathlib.Logic.Relation

namespace StressBench
namespace CommandLine

theorem ok_of_bind {ε α β : Type} {x : Except ε α} {f : α → Except ε β} {b : β}
    (h : (x >>= f) = .ok b) : ∃ a, x = .ok a ∧ f a = .ok b := by
  cases x with
  | error e => cases h
  | ok a => exact ⟨a, rfl, h⟩

namespace Draft

/-- One change of a draft. -/
inductive Change : Draft → Draft → Prop
  | assigned {d d' : Draft} {item : Item} {value : Bytes} : d.assign item value = .ok d' →
      Change d d'
  | pends (d : Draft) (pending : Option (Item × Option Bytes)) : Change d { d with pending }
  | noted (d : Draft) (item : Item) : Change d { d with modes := d.modes ++ [item] }
  | counted (d : Draft) (verbose quiet : Nat) : Change d { d with verbose, quiet }

/-- Any number of changes. -/
abbrev Changes : Draft → Draft → Prop :=
  Relation.ReflTransGen Change

variable {d d' : Draft} {item : Item}

/-- What every change keeps is kept by all of them together. -/
theorem Changes.keep {P : Draft → Prop} (hP : ∀ d d', Change d d' → P d → P d')
    (h : Changes d d') (hd : P d) : P d' := by
  induction h with
  | refl => exact hd
  | tail _ hchange ih => exact hP _ _ hchange ih

/-! ### One argument -/

theorem commit_cases (h : d.commit = .ok d') : d.pending = none ∧ d' = d ∨
    ∃ item value, d.pending = some (item, some value) ∧
      { d with pending := none }.assign item value = .ok d' := by
  unfold commit at h
  rcases hp : d.pending with _ | ⟨item, _ | value⟩ <;> rw [hp] at h
  · exact .inl ⟨rfl, (Except.ok.inj h).symm⟩
  · cases h
  · exact .inr ⟨item, value, rfl, h⟩

theorem commit_changes (h : d.commit = .ok d') : Changes d d' := by
  obtain ⟨-, rfl⟩ | ⟨item, value, -, hassign⟩ := commit_cases h
  · exact .refl
  · exact .tail (.single (.pends d none)) (.assigned hassign)

theorem attach_changes {value : Bytes} (h : d.attach item value = .ok d') : Changes d d' := by
  obtain ⟨d₁, hcommit, hassign⟩ := ok_of_bind h
  exact .tail (commit_changes hcommit) (.assigned hassign)

theorem start_changes {value : Option Bytes} (h : d.start item value = .ok d') :
    Changes d d' := by
  obtain ⟨d₁, hcommit, hpends⟩ := ok_of_bind h
  cases hpends
  exact .tail (commit_changes hcommit) (.pends d₁ _)

/-- A flag ends the item that has begun, and then is counted or noted, the latter once. -/
theorem flag_cases (h : d.flag item = .ok d') : ∃ e, d.commit = .ok e ∧
    ((item.isCounted = true ∧ ∃ verbose quiet, d' = { e with verbose, quiet }) ∨
      item.isCounted = false ∧ item ∉ e.modes ∧ d' = { e with modes := e.modes ++ [item] }) := by
  obtain ⟨e, hcommit, hflag⟩ := ok_of_bind h
  refine ⟨e, hcommit, ?_⟩
  cases item with
  | help | version => cases hflag
  | verbose | quiet =>
    cases hflag
    exact .inl ⟨rfl, _, _, rfl⟩
  | _ =>
    dsimp only at hflag
    split at hflag
    · cases hflag
    · next hnew =>
      cases hflag
      exact .inr ⟨rfl, hnew, rfl⟩

theorem flag_changes (h : d.flag item = .ok d') : Changes d d' := by
  obtain ⟨e, hcommit, ⟨-, verbose, quiet, rfl⟩ | ⟨-, -, rfl⟩⟩ := flag_cases h
  · exact .tail (commit_changes hcommit) (.counted e verbose quiet)
  · exact .tail (commit_changes hcommit) (.noted e item)

/-- One step of the reading: an item takes the value that is attached to it, an item begins,
a flag is set, or the item that waits for its value takes the next argument. -/
inductive Step : Draft → Draft → Prop
  | attached {d d' : Draft} {item : Item} {value : Bytes} : d.attach item value = .ok d' →
      Step d d'
  | started {d d' : Draft} {item : Item} {value : Option Bytes} : d.start item value = .ok d' →
      Step d d'
  | flagged {d d' : Draft} {item : Item} : d.flag item = .ok d' → Step d d'
  | filled {d : Draft} {item : Item} (value : Bytes) : d.awaiting? = some item →
      Step d { d with pending := some (item, some value) }

/-- Any number of steps. -/
abbrev Steps : Draft → Draft → Prop :=
  Relation.ReflTransGen Step

theorem positional_step {arg : Bytes} (h : d.positional arg = .ok d') : Step d d' := by
  unfold positional at h
  split at h
  · cases h
  · exact .started h

theorem long_step {name : Bytes} {value : Option Bytes} (h : d.long name value = .ok d') :
    Step d d' := by
  unfold long at h
  split at h
  · cases h
  · split at h
    · exact .attached h
    · exact .started h
    · cases h
    · exact .flagged h

theorem letters_steps {broken : Bytes} {text : Text} (h : d.letters broken text = .ok d') :
    Steps d d' := by
  induction text generalizing d with
  | nil =>
    unfold letters at h
    split at h
    · cases h
      exact .refl
    · cases h
  | cons c cs ih =>
    unfold letters at h
    split at h
    · cases h
    · split at h
      · split at h
        · exact .single (.started h)
        · exact .single (.attached h)
        · exact .single (.attached h)
      · split at h
        · cases h
        · next hflag => exact .head (.flagged hflag) (ih h)

theorem plain_step {arg : Bytes} (h : d.plain arg = .ok d') : Step d d' := by
  unfold plain at h
  split at h
  · next hawaiting =>
    cases h
    exact .filled arg hawaiting
  · exact positional_step h

/-- **An argument is read in steps of these kinds.** -/
theorem take_steps {arg : Bytes} (h : d.take arg = .ok d') : Steps d d' := by
  unfold take at h
  split at h
  · exact .single (long_step h)
  · exact .single (plain_step h)
  · exact letters_steps h
  · exact .single (plain_step h)

theorem Step.changes (h : Step d d') : Changes d d' := by
  cases h with
  | attached h => exact attach_changes h
  | started h => exact start_changes h
  | flagged h => exact flag_changes h
  | filled value => exact .single (.pends d _)

theorem Steps.changes (h : Steps d d') : Changes d d' := by
  induction h with
  | refl => exact .refl
  | tail _ hstep ih => exact Relation.ReflTransGen.trans ih hstep.changes

end Draft

/-! ### The whole command line -/

/-- All arguments together are read in such steps. -/
theorem scan_steps {positionalOnly : Bool} {args : List Bytes} {d d' : Draft}
    (h : scan positionalOnly d args = .ok d') : d.Steps d' := by
  fun_induction scan positionalOnly d args with
  | case1 => cases h; exact .refl
  | case2 | case5 => cases h
  | case3 d arg rest d₁ hpositional ih => exact .head (Draft.positional_step hpositional) (ih h)
  | case4 _ _ _ _ ih => exact ih h
  | case6 _ d arg rest _ _ d₁ htake ih => exact (Draft.take_steps htake).trans (ih h)

/-! ### The number of lines -/

/-- The number of lines, if there is one, has room for the first and the last line. -/
def Draft.HasRoom (d : Draft) : Prop :=
  ∀ n, d.numLines = some n → minLines ≤ n

theorem minLines_le_of_parse {text : Text} {n : Nat} (h : parseNumLines text = .ok n) :
    minLines ≤ n := by
  unfold parseNumLines at h
  split at h
  · cases h
  · split at h
    · cases h
    · next hle =>
      cases h
      exact Nat.le_of_not_lt hle

theorem onlyOnce_eq_ok {α : Type} {item : Item} {earlier v : Option α}
    {new : Except UsageError α} (h : onlyOnce item earlier new = .ok v) :
    earlier = none ∧ ∃ a, new = .ok a ∧ v = some a := by
  unfold onlyOnce at h
  cases earlier with
  | some _ => cases h
  | none =>
    cases new with
    | error e => cases h
    | ok a => exact ⟨rfl, a, rfl, (Except.ok.inj h).symm⟩

theorem textValue_eq_ok {α ε : Type} {item : Item} {value : Bytes} {read : Text → Except ε α}
    {fault : ε → ValueFault} {a : α} (h : textValue item value read fault = .ok a) :
    ∃ text, Utf8.decode? value = some text ∧ read text = .ok a := by
  unfold textValue at h
  split at h
  · cases h
  · next text hdecode =>
    split at h
    · next b hread =>
      cases h
      exact ⟨text, hdecode, hread⟩
    · cases h

theorem assign_frame {d d' : Draft} {item : Item} {value : Bytes}
    (h : d.assign item value = .ok d') :
    d'.pending = d.pending ∧ (item ≠ .numLines → d'.numLines = d.numLines) := by
  cases item with
  | numLines =>
    obtain ⟨v, -, hd⟩ := ok_of_bind h
    cases hd
    exact ⟨rfl, fun hne => absurd rfl hne⟩
  | baseDir | compiler | output | seed | timeout =>
    obtain ⟨v, -, hd⟩ := ok_of_bind h
    cases hd
    exact ⟨rfl, fun _ => rfl⟩
  | _ =>
    cases h
    exact ⟨rfl, fun _ => rfl⟩

theorem assign_numLines {d d' : Draft} {value : Bytes}
    (h : d.assign .numLines value = .ok d') :
    ∃ text n, Utf8.decode? value = some text ∧ parseNumLines text = .ok n ∧
      d' = { d with numLines := some n } := by
  obtain ⟨v, hv, hd⟩ := ok_of_bind h
  obtain ⟨-, n, hn, rfl⟩ := onlyOnce_eq_ok hv
  obtain ⟨text, hdecode, hread⟩ := textValue_eq_ok hn
  exact ⟨text, n, hdecode, hread, (Except.ok.inj hd).symm⟩

theorem Draft.HasRoom.change {d d' : Draft} (hchange : d.Change d') (h : d.HasRoom) :
    d'.HasRoom := by
  cases hchange with
  | @assigned _ item value hassign =>
    by_cases hitem : item = .numLines
    · subst hitem
      obtain ⟨text, n, -, hparse, rfl⟩ := assign_numLines hassign
      rintro m hm
      cases hm
      exact minLines_le_of_parse hparse
    · exact fun n hn => h n (((assign_frame hassign).2 hitem).symm.trans hn)
  | pends | noted | counted => exact h

theorem numLines_of_finish {d : Draft} {a : Args} (h : d.finish = .ok a) :
    ∃ d', d.commit = .ok d' ∧ d'.numLines = some a.numLines := by
  obtain ⟨d', hcommit, hfinish⟩ := ok_of_bind h
  refine ⟨d', hcommit, ?_⟩
  split at hfinish
  · cases hfinish
  · cases hfinish
  · next hnum _ =>
    cases hfinish
    exact hnum

/-- **A number of lines that is accepted is not too few.** -/
theorem minLines_le_numLines {argv : List Bytes} {a : Args} (h : parse argv = .ok a) :
    minLines ≤ a.numLines := by
  unfold parse at h
  split at h
  · cases h
  · next d hscan =>
    obtain ⟨d', hcommit, hnum⟩ := numLines_of_finish h
    have hchanges : Draft.Changes {} d' :=
      (scan_steps hscan).changes.trans (Draft.commit_changes hcommit)
    have hroom : d'.HasRoom := hchanges.keep (fun _ _ => Draft.HasRoom.change) nofun
    exact hroom _ hnum

end CommandLine
end StressBench
