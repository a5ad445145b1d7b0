/-
# Items that are given once

A draft knows of each item how often it has been used: an item with a value when it has the
value or has begun, a flag when it is among the modes. No argument takes a use back, one that
names an item adds a use, and at the end there is one use at most. So a command line that
names an item twice is refused, wherever the two arguments stand and whatever is around them.
An argument that begins with a dash is never taken as a value, so the two are no values.

Key definitions: `Draft.uses`, `beforeDashes`.
Key theorems: `Draft.Step.uses_le`, `Draft.uses_of_names`, `scan_uses`,
`length_le_one_of_names`, `not_both_modes`.
-/
import StressBench.Proofs.CommandLine.Naming

namespace StressBench
namespace CommandLine

/-- How often an item is used when an item begins. One that takes no value does not begin. -/
def Item.begun (item begins : Item) : Nat :=
  if begins = item ∧ item.takesValue = true then 1 else 0

/-- How often an item is used when a flag is set. One that is counted may be set again. -/
def Item.flagged (item flag : Item) : Nat :=
  if flag = item ∧ item.takesValue = false ∧ item.isCounted = false then 1 else 0

namespace Draft

/-- Whether an item has its value. -/
def hasValue (d : Draft) : Item → Bool
  | .numLines => d.numLines.isSome
  | .baseDir => d.baseDir.isSome
  | .compiler => d.compiler.isSome
  | .output => d.output.isSome
  | .seed => d.seed.isSome
  | .timeout => d.timeout.isSome
  | _ => false

/-- How often an item has been used by items that have ended. -/
def settled (d : Draft) (item : Item) : Nat :=
  if item.takesValue then (d.hasValue item).toNat else d.modes.count item

/-- How often an item has been used. -/
def uses (d : Draft) (item : Item) : Nat :=
  d.settled item +
    match d.pending with
    | none => 0
    | some (begins, _) => item.begun begins

variable {d d' e : Draft} {item i : Item}

theorem uses_of_pending_eq_none (h : d.pending = none) : d.uses item = d.settled item := by
  unfold uses
  rw [h]
  rfl

theorem uses_pending (i : Item) (value : Option Bytes) :
    { d with pending := some (i, value) }.uses item = d.settled item + item.begun i := rfl

/-! ### Ending and beginning -/

theorem settled_of_assign {value : Bytes} (h : d.assign i value = .ok d') :
    d'.settled item = d.settled item + item.begun i := by
  cases i with
  | numLines | baseDir | compiler | output | seed | timeout =>
    obtain ⟨v, hv, hd⟩ := ok_of_bind h
    cases hd
    obtain ⟨hnone, a, -, rfl⟩ := onlyOnce_eq_ok hv
    cases item <;> simp [settled, hasValue, Item.begun, Item.takesValue, Item.valueName, hnone]
  | _ =>
    cases h
    cases item <;> simp [Item.begun, Item.takesValue, Item.valueName]

theorem settled_of_commit (h : d.commit = .ok e) : e.settled item = d.uses item := by
  obtain ⟨hpending, rfl⟩ | ⟨i, value, hpending, hassign⟩ := commit_cases h
  · exact (uses_of_pending_eq_none hpending).symm
  · refine (settled_of_assign hassign).trans ?_
    unfold uses
    rw [hpending]
    rfl

theorem uses_of_attach {value : Bytes} (h : d.attach i value = .ok d') :
    d'.uses item = d.uses item + item.begun i := by
  obtain ⟨e, hcommit, hassign⟩ := ok_of_bind h
  have hpending : d'.pending = none :=
    (assign_frame hassign).1.trans (pending_of_commit hcommit)
  rw [uses_of_pending_eq_none hpending, settled_of_assign hassign, settled_of_commit hcommit]

theorem uses_of_start {value : Option Bytes} (h : d.start i value = .ok d') :
    d'.uses item = d.uses item + item.begun i := by
  obtain ⟨e, hcommit, hpends⟩ := ok_of_bind h
  cases hpends
  rw [uses_pending, settled_of_commit hcommit]

theorem settled_modes (e : Draft) (hcounted : i.isCounted = false) :
    { e with modes := e.modes ++ [i] }.settled item = e.settled item + item.flagged i := by
  by_cases hvalue : item.takesValue = true
  · simp [settled, Item.flagged, hvalue, hasValue]
  · by_cases hitem : i = item
    · subst hitem
      simp [settled, Item.flagged, hvalue, hcounted]
    · simp [settled, Item.flagged, hvalue, hitem]

theorem settled_counts (e : Draft) (verbose quiet : Nat) :
    { e with verbose, quiet }.settled item = e.settled item := by
  cases item <;> rfl

theorem uses_of_flag (h : d.flag i = .ok d') : d'.uses item = d.uses item + item.flagged i := by
  obtain ⟨e, hcommit, hflag⟩ := flag_cases h
  have hpending := pending_of_commit hcommit
  rw [← settled_of_commit hcommit]
  obtain ⟨hcounted, verbose, quiet, rfl⟩ | ⟨hcounted, -, rfl⟩ := hflag
  · have hnone : item.flagged i = 0 := if_neg fun ⟨hitem, _, hnot⟩ => by
      rw [← hitem, hcounted] at hnot
      cases hnot
    rw [hnone]
    exact (uses_of_pending_eq_none hpending).trans (settled_counts e verbose quiet)
  · refine Eq.trans ?_ (settled_modes e hcounted)
    exact uses_of_pending_eq_none hpending

/-! ### One argument -/

theorem pending_of_awaiting (h : d.awaiting? = some i) : d.pending = some (i, none) := by
  unfold awaiting? at h
  split at h
  · next hpending =>
    cases h
    exact hpending
  · cases h

/-- **No step takes a use back.** -/
theorem Step.uses_le (h : Step d d') : d.uses item ≤ d'.uses item := by
  cases h with
  | attached h => exact (uses_of_attach h).symm ▸ Nat.le_add_right _ _
  | started h => exact (uses_of_start h).symm ▸ Nat.le_add_right _ _
  | flagged h => exact (uses_of_flag h).symm ▸ Nat.le_add_right _ _
  | @filled i value hawaiting =>
    refine Nat.le_of_eq ?_
    unfold uses
    rw [pending_of_awaiting hawaiting]
    rfl

theorem Steps.uses_le (h : Steps d d') : d.uses item ≤ d'.uses item := by
  induction h with
  | refl => exact Nat.le_refl _
  | tail _ hstep ih => exact Nat.le_trans ih hstep.uses_le

/-- The flags of an argument of letters. -/
theorem steps_of_flags {flags : List Item} (h : flags.foldlM flag d = .ok d') : Steps d d' := by
  induction flags generalizing d with
  | nil =>
    cases h
    exact .refl
  | cons i flags ih =>
    obtain ⟨e, hflag, hrest⟩ := ok_of_bind h
    exact .head (.flagged hflag) (ih hrest)

/-- **An argument that names an item uses it.** -/
theorem uses_of_names {arg : Bytes} (hitem : item.isCounted = false) (hnames : item.Names arg)
    (h : d.take arg = .ok d') : d.uses item + 1 ≤ d'.uses item := by
  have hbegun : item.takesValue = true → item.begun item = 1 := fun hvalue => if_pos ⟨rfl, hvalue⟩
  have hset : item.takesValue = false → item.flagged item = 1 := fun hvalue =>
    if_pos ⟨rfl, hvalue, hitem⟩
  cases hnames with
  | long hname =>
    rw [take_dashed hname] at h
    split at h
    · next hvalue => exact Nat.le_of_eq (by rw [uses_of_start h, hbegun hvalue])
    · next hvalue =>
      exact Nat.le_of_eq (by rw [uses_of_flag h, hset (Bool.eq_false_iff.mpr hvalue)])
  | valued hname value =>
    rw [take_dashed_value hname] at h
    split at h
    · next hvalue => exact Nat.le_of_eq (by rw [uses_of_attach h, hbegun hvalue])
    · cases h
  | letter hletter hflags rest =>
    rw [take_flagLetters hflags (Item.head?_short hletter rest) (by simp)] at h
    obtain ⟨e, hflagged, hletters⟩ := ok_of_bind h
    refine Nat.le_trans (Nat.add_le_add_right (steps_of_flags hflagged).uses_le 1) ?_
    cases hvalue : item.takesValue with
    | true =>
      rw [lettersOf_value hletter hvalue] at hletters
      split at hletters
      · exact Nat.le_of_eq (by rw [uses_of_start hletters, hbegun hvalue])
      · exact Nat.le_of_eq (by rw [uses_of_attach hletters, hbegun hvalue])
      · exact Nat.le_of_eq (by rw [uses_of_attach hletters, hbegun hvalue])
    | false =>
      rw [lettersOf_flag (Item.ofShort?_short hletter) hvalue] at hletters
      obtain ⟨e', hflag, hrest⟩ := ok_of_bind hletters
      have hused : e'.uses item = e.uses item + 1 := by rw [uses_of_flag hflag, hset hvalue]
      exact Nat.le_trans (Nat.le_of_eq hused.symm) (letters_steps hrest).uses_le

end Draft

/-! ### The whole command line -/

open Draft

/-- The arguments before `--`. -/
def beforeDashes (args : List Bytes) : List Bytes :=
  args.takeWhile (· != [0x2D, 0x2D])

variable {item : Item} {args named argv : List Bytes} {d d' : Draft}

/-- **Each argument that names an item uses it.** -/
theorem scan_uses (hitem : item.isCounted = false) (h : scan false d args = .ok d')
    (hnamed : named.Sublist (beforeDashes args)) (hnames : ∀ arg ∈ named, item.Names arg) :
    d.uses item + named.length ≤ d'.uses item := by
  induction args generalizing d named with
  | nil =>
    cases hnamed
    exact (scan_steps h).uses_le
  | cons arg rest ih =>
    by_cases harg : arg = [0x2D, 0x2D]
    · have hnone : named = [] := by
        rw [beforeDashes, List.takeWhile_cons_of_neg (by simp [harg])] at hnamed
        exact List.sublist_nil.mp hnamed
      subst hnone
      exact (scan_steps h).uses_le
    · rw [beforeDashes, List.takeWhile_cons_of_pos (by simp [harg])] at hnamed
      unfold scan at h
      rw [if_neg Bool.false_ne_true, if_neg harg] at h
      rcases htake : d.take arg with error | d₁ <;> rw [htake] at h
      · cases h
      · cases hnamed with
        | cons _ hrest =>
          have hkept : d.uses item ≤ d₁.uses item := (take_steps htake).uses_le
          exact Nat.le_trans (Nat.add_le_add_right hkept _) (ih h hrest hnames)
        | cons_cons _ hrest =>
          rw [List.forall_mem_cons] at hnames
          have hused := uses_of_names hitem hnames.1 htake
          have hothers := ih h hrest hnames.2
          rw [List.length_cons]
          omega

theorem finish_cases {a : Args} (h : d.finish = .ok a) : ∃ e, d.commit = .ok e ∧
    e.modes.length ≤ 1 ∧ a.generateOnly = decide (.generateOnly ∈ e.modes) ∧
    a.keep = decide (.keep ∈ e.modes) := by
  obtain ⟨e, hcommit, hfinish⟩ := ok_of_bind h
  refine ⟨e, hcommit, ?_⟩
  split at hfinish
  · cases hfinish
  · cases hfinish
  · next hmodes =>
    cases hfinish
    refine ⟨?_, rfl, rfl⟩
    rcases hlist : e.modes with _ | ⟨i, _ | ⟨j, rest⟩⟩
    · exact Nat.zero_le 1
    · exact Nat.le_refl 1
    · exact absurd hlist (hmodes i j rest)

theorem uses_le_one_of_finish {a : Args} (h : d.finish = .ok a) : d.uses item ≤ 1 := by
  obtain ⟨e, hcommit, hmodes, -, -⟩ := finish_cases h
  rw [← settled_of_commit hcommit]
  unfold settled
  split
  · exact Bool.toNat_le _
  · exact Nat.le_trans List.count_le_length hmodes

/-- **An item is named once.** Of the arguments before `--`, at most one names an item that is
not counted. -/
theorem length_le_one_of_names {a : Args} (hitem : item.isCounted = false)
    (h : parse argv = .ok a) (hnamed : named.Sublist (beforeDashes argv.tail))
    (hnames : ∀ arg ∈ named, item.Names arg) : named.length ≤ 1 := by
  unfold parse at h
  rcases hscan : scan false {} argv.tail with error | d <;> rw [hscan] at h
  · cases h
  · have hused := scan_uses hitem hscan hnamed hnames
    have hfinish : d.uses item ≤ 1 := uses_le_one_of_finish h
    omega

theorem not_both_modes {a : Args} (h : parse argv = .ok a) :
    ¬ (a.keep = true ∧ a.generateOnly = true) := by
  unfold parse at h
  rcases hscan : scan false {} argv.tail with error | d <;> rw [hscan] at h
  · cases h
  · obtain ⟨e, -, hmodes, hgenerate, hkeep⟩ := finish_cases h
    rw [hgenerate, hkeep, decide_eq_true_eq, decide_eq_true_eq]
    rintro ⟨hk, hg⟩
    rcases hlist : e.modes with _ | ⟨i, _ | ⟨j, rest⟩⟩ <;> rw [hlist] at hk hg hmodes
    · cases hk
    · exact absurd ((List.mem_singleton.mp hk).trans (List.mem_singleton.mp hg).symm) nofun
    · exact absurd hmodes (by simp)

end CommandLine
end StressBench
