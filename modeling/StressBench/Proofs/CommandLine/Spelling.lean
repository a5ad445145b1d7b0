/-
# What a spelling is read as

A setting is spelled by one argument or two: an option by its name with the value attached or
apart, the output also by its letter, flags by their names or letters. The reading of such
arguments lags behind by an item that it has not ended yet, but up to that it is what the
settings do to a draft one after the other, wherever the arguments stand.

Key definitions: `Setting`, `Spells`, `SpellsAll`, `Draft.note`.
Key theorems: `scan_spells`, `scan_spellsAll`.
-/
import StressBench.Proofs.CommandLine.Naming
import StressBench.Proofs.Number.Reading
import StressBench.Proofs.Text.Splitting

namespace StressBench
namespace CommandLine

/-- A setting as it is given: a value of an item, or a flag. -/
inductive Setting
  | valued (item : Item) (value : Bytes)
  | flag (item : Item)
  deriving DecidableEq, Repr

/-- The item that is set. -/
def Setting.item : Setting → Item
  | .valued item _ => item
  | .flag item => item

/-! ### Spellings -/

/-- The arguments that spell settings. The value of an option stands apart from it only if it
does not begin with a dash. -/
inductive Spells : List Setting → List Bytes → Prop
  | numLines (value : Bytes) : Spells [.valued .numLines value] [value]
  | attached {item : Item} {name : String} (hname : item.long = some name)
      (hvalue : item.takesValue = true) (value : Bytes) :
      Spells [.valued item value] [dashed name ++ 0x3D :: value]
  | apart {item : Item} {name : String} (hname : item.long = some name)
      (hvalue : item.takesValue = true) {value : Bytes} (hdash : value.head? ≠ some 0x2D) :
      Spells [.valued item value] [dashed name, value]
  | flag {item : Item} {name : String} (hname : item.long = some name)
      (hvalue : item.takesValue = false) : Spells [.flag item] [dashed name]
  | flags {flags : List Item} (hflags : ∀ i ∈ flags, i.isCounted = true) (hne : flags ≠ []) :
      Spells (flags.map .flag) [0x2D :: flagLetters flags]
  | letterAttached {flags : List Item} (hflags : ∀ i ∈ flags, i.isCounted = true)
      (value : Bytes) : Spells (flags.map .flag ++ [.valued .output value])
        [0x2D :: (flagLetters flags ++ 0x6F :: 0x3D :: value)]
  | letterJoined {flags : List Item} (hflags : ∀ i ∈ flags, i.isCounted = true)
      {value : Bytes} (hne : value ≠ []) (hequals : value.head? ≠ some 0x3D) :
      Spells (flags.map .flag ++ [.valued .output value])
        [0x2D :: (flagLetters flags ++ 0x6F :: value)]
  | letterApart {flags : List Item} (hflags : ∀ i ∈ flags, i.isCounted = true)
      {value : Bytes} (hdash : value.head? ≠ some 0x2D) :
      Spells (flags.map .flag ++ [.valued .output value])
        [0x2D :: (flagLetters flags ++ [0x6F]), value]

/-- The arguments that spell settings one after the other. -/
inductive SpellsAll : List Setting → List Bytes → Prop
  | nil : SpellsAll [] []
  | cons {gs gs' : List Setting} {args args' : List Bytes} :
      Spells gs args → SpellsAll gs' args' → SpellsAll (gs ++ gs') (args ++ args')

/-! ### What a spelling is read as -/

/-- Notes a setting in a draft in which no item has begun. -/
def Draft.note (d : Draft) : Setting → Except UsageError Draft
  | .valued item value => d.assign item value
  | .flag item => d.flag item

open Draft

variable {d e e' : Draft} {gs : List Setting} {args : List Bytes}

/-! #### Where no item has begun -/

namespace Draft

theorem commit_of_pending (h : e.pending = none) : e.commit = .ok e := by
  unfold commit
  rw [h]

theorem commit_pends (h : e.pending = none) (item : Item) (value : Bytes) :
    { e with pending := some (item, some value) }.commit = e.assign item value := by
  cases e
  cases h
  rfl

theorem attach_of_commit (h : d.commit = .ok e) (item : Item) (value : Bytes) :
    d.attach item value = e.assign item value := by
  unfold attach
  rw [h]
  rfl

theorem start_of_commit (h : d.commit = .ok e) (item : Item) (value : Option Bytes) :
    d.start item value = .ok { e with pending := some (item, value) } := by
  unfold start
  rw [h]
  rfl

theorem finish_of_commit (h : d.commit = .ok e) : d.finish = e.finish := by
  unfold finish
  rw [h, commit_of_commit h]

theorem flag_of_commit (h : d.commit = .ok e) (item : Item) : d.flag item = e.flag item := by
  unfold flag
  rw [h, commit_of_commit h]

theorem pending_of_flag {item : Item} (h : d.flag item = .ok e) : e.pending = none := by
  obtain ⟨e₁, hcommit, hflag⟩ := flag_cases h
  have hpending := pending_of_commit hcommit
  obtain ⟨-, _, _, rfl⟩ | ⟨-, -, rfl⟩ := hflag
  · exact hpending
  · exact hpending

end Draft

/-! #### The parts of a spelling -/

theorem parseNumLines_dash {text : Text} {n : Nat} : parseNumLines ('-' :: text) ≠ .ok n := by
  intro h
  unfold parseNumLines at h
  rw [Text.trim_cons rfl] at h
  split at h
  · cases h
  · next hread =>
    obtain ⟨ds, hds, hnumeral, -⟩ := (Decimal.readBelow_eq_ok_iff (by decide)).mp hread
    obtain rfl | h := hds
    · exact absurd ((Decimal.isNumeral_iff.mp hnumeral).2 '-' List.mem_cons_self) (by decide)
    · cases h

theorem head?_of_assign_numLines {value : Bytes} (h : e.assign .numLines value = .ok e') :
    value.head? ≠ some 0x2D := by
  obtain ⟨text, n, hdecode, hread, -⟩ := assign_numLines h
  intro hdash
  obtain ⟨bs, rfl⟩ := List.head?_eq_some_iff.mp hdash
  obtain ⟨t, rfl⟩ := Utf8.eq_cons_of_encode (c := '-') (Utf8.decode?_eq_some_iff.mp hdecode).symm
  exact parseNumLines_dash hread

theorem numLines_of_assign_numLines {value : Bytes} (h : e.assign .numLines value = .ok e') :
    e.numLines = none := by
  obtain ⟨v, hv, -⟩ := ok_of_bind h
  exact (onlyOnce_eq_ok hv).1

theorem dashed_ne_dashes {item : Item} {name : String} (hname : item.long = some name) :
    dashed name ≠ [0x2D, 0x2D] := by
  cases item <;> cases hname <;> decide

theorem scan_take {d₁ : Draft} {arg : Bytes} (harg : arg ≠ [0x2D, 0x2D])
    (htake : d.take arg = .ok d₁) (rest : List Bytes) :
    scan false d (arg :: rest) = scan false d₁ rest := by
  rw [scan, if_neg Bool.false_ne_true, if_neg harg, htake]

theorem scan_attached {d₁ : Draft} {item : Item} {value arg : Bytes} (harg : arg ≠ [0x2D, 0x2D])
    (htake : d.take arg = d₁.attach item value) (hcommit : d₁.commit = .ok e)
    (hassign : e.assign item value = .ok e') (rest : List Bytes) :
    ∃ d', scan false d (arg :: rest) = scan false d' rest ∧ d'.commit = .ok e' := by
  rw [attach_of_commit hcommit, hassign] at htake
  have hpending : e'.pending = none :=
    (assign_frame hassign).1.trans (pending_of_commit hcommit)
  exact ⟨e', scan_take harg htake rest, commit_of_pending hpending⟩

theorem scan_apart {d₁ : Draft} {item : Item} {value arg : Bytes} (harg : arg ≠ [0x2D, 0x2D])
    (htake : d.take arg = d₁.start item none) (hcommit : d₁.commit = .ok e)
    (hdash : value.head? ≠ some 0x2D) (hassign : e.assign item value = .ok e')
    (rest : List Bytes) :
    ∃ d', scan false d (arg :: value :: rest) = scan false d' rest ∧ d'.commit = .ok e' := by
  rw [start_of_commit hcommit] at htake
  have hfill : { e with pending := some (item, none) }.take value =
      .ok { e with pending := some (item, some value) } := take_plain hdash _
  have hvalue : value ≠ [0x2D, 0x2D] := by
    rintro rfl
    exact hdash rfl
  exact ⟨_, (scan_take harg htake _).trans (scan_take hvalue hfill rest),
    (commit_pends (pending_of_commit hcommit) item value).trans hassign⟩

theorem scan_numLines {value : Bytes} (hcommit : d.commit = .ok e)
    (hassign : e.assign .numLines value = .ok e') (rest : List Bytes) :
    ∃ d', scan false d (value :: rest) = scan false d' rest ∧ d'.commit = .ok e' := by
  have hpending := pending_of_commit hcommit
  have hdash := head?_of_assign_numLines hassign
  have hgiven : d.hasNumLines = false := by
    rw [← hasNumLines_of_commit hcommit, hasNumLines, numLines_of_assign_numLines hassign,
      hpending]
    rfl
  have htake : d.take value = .ok { e with pending := some (.numLines, some value) } := by
    rw [take_plain hdash, plain, awaiting?_of_commit hcommit, positional, hgiven]
    exact start_of_commit hcommit _ _
  have hvalue : value ≠ [0x2D, 0x2D] := by
    rintro rfl
    exact hdash rfl
  exact ⟨_, scan_take hvalue htake rest, (commit_pends hpending _ value).trans hassign⟩

theorem pending_of_flags {flags : List Item} (hpending : e.pending = none)
    (h : flags.foldlM flag e = .ok e') : e'.pending = none := by
  induction flags generalizing e with
  | nil =>
    cases h
    exact hpending
  | cons i flags ih =>
    obtain ⟨e₁, hflag, hrest⟩ := ok_of_bind h
    exact ih (pending_of_flag hflag) hrest

/-- Flags that are set one after the other. -/
theorem flags_of_commit {flags : List Item} (hcommit : d.commit = .ok e)
    (hflags : flags.foldlM flag e = .ok e') :
    ∃ d', flags.foldlM flag d = .ok d' ∧ d'.commit = .ok e' := by
  have hpending := pending_of_flags (pending_of_commit hcommit) hflags
  cases flags with
  | nil =>
    cases hflags
    exact ⟨d, rfl, hcommit⟩
  | cons i flags =>
    rw [List.foldlM_cons, ← flag_of_commit hcommit, ← List.foldlM_cons] at hflags
    exact ⟨e', hflags, commit_of_pending hpending⟩

theorem foldlM_note_flags (flags : List Item) (e : Draft) :
    (flags.map Setting.flag).foldlM note e = flags.foldlM flag e :=
  List.foldlM_map

theorem foldlM_note_singleton (g : Setting) (e : Draft) : [g].foldlM note e = e.note g := by
  rw [List.foldlM_cons]
  exact bind_pure _

theorem letters_ne_dashes {flags : List Item} (hflags : ∀ i ∈ flags, i.isCounted = true)
    {bs : Bytes} (hbs : bs.head? ≠ some 0x2D) :
    (0x2D :: (flagLetters flags ++ bs) : Bytes) ≠ [0x2D, 0x2D] := by
  intro heq
  have hhead := head?_flagLetters hflags hbs
  rw [(List.cons_eq_cons.mp heq).2] at hhead
  exact hhead rfl

theorem lettersOf_output (d : Draft) (bs : Bytes) :
    d.lettersOf (String.utf8EncodeChar 'o' ++ bs) = match bs with
      | [] => d.start .output none
      | 0x3D :: value => d.attach .output value
      | value => d.attach .output value :=
  lettersOf_value rfl rfl d bs

/-- Flags and the letter of the output in one argument. -/
theorem take_output {flags : List Item} (hflags : ∀ i ∈ flags, i.isCounted = true)
    {value : Bytes} (hcommit : d.commit = .ok e)
    (hnotes : (flags.map Setting.flag ++ [Setting.valued .output value]).foldlM note e = .ok e') :
    ∃ d₁ e₁ : Draft, d₁.commit = .ok e₁ ∧ e₁.assign .output value = .ok e' ∧
      ∀ bs, d.take (0x2D :: (flagLetters flags ++ 0x6F :: bs)) =
        d₁.lettersOf (String.utf8EncodeChar 'o' ++ bs) := by
  rw [List.foldlM_append, foldlM_note_flags] at hnotes
  obtain ⟨e₁, hset, hassign⟩ := ok_of_bind hnotes
  obtain ⟨d₁, hd₁, hcommit₁⟩ := flags_of_commit hcommit hset
  refine ⟨d₁, e₁, hcommit₁, (foldlM_note_singleton _ e₁).symm.trans hassign, fun bs => ?_⟩
  have hdash : (0x6F :: bs : Bytes).head? ≠ some 0x2D := by simp
  rw [take_flagLetters hflags hdash (by simp), hd₁]
  rfl

theorem scan_flags {flags : List Item} (hflags : ∀ i ∈ flags, i.isCounted = true)
    (hne : flags ≠ []) (hcommit : d.commit = .ok e) (hset : flags.foldlM flag e = .ok e')
    (rest : List Bytes) :
    ∃ d', scan false d ((0x2D :: flagLetters flags) :: rest) = scan false d' rest ∧
      d'.commit = .ok e' := by
  obtain ⟨d', hd', hcommit'⟩ := flags_of_commit hcommit hset
  have hletters : flagLetters flags ++ [] ≠ [] := by
    obtain ⟨i, flags, rfl⟩ := List.exists_cons_of_ne_nil hne
    obtain ⟨c, hc⟩ := Item.exists_short_of_isCounted (hflags i List.mem_cons_self)
    simp [flagLetters_cons hc]
  have hdash : ([] : Bytes).head? ≠ some 0x2D := by simp
  have htake := take_flagLetters hflags hdash hletters d
  have harg := letters_ne_dashes hflags hdash
  rw [List.append_nil] at htake harg
  rw [hd'] at htake
  exact ⟨d', scan_take harg htake rest, hcommit'⟩

/-- **A spelling is read as what it spells.** -/
theorem scan_spells (hspells : Spells gs args) (hcommit : d.commit = .ok e)
    (hnotes : gs.foldlM note e = .ok e') (rest : List Bytes) :
    ∃ d', scan false d (args ++ rest) = scan false d' rest ∧ d'.commit = .ok e' := by
  cases hspells with
  | numLines value =>
    rw [foldlM_note_singleton] at hnotes
    exact scan_numLines hcommit hnotes rest
  | attached hname hvalue value =>
    rw [foldlM_note_singleton] at hnotes
    have htake := (take_dashed_value hname value d).trans (if_pos hvalue)
    exact scan_attached (by simp [dashed]) htake hcommit hnotes rest
  | apart hname hvalue hdash =>
    rw [foldlM_note_singleton] at hnotes
    have htake := (take_dashed hname d).trans (if_pos hvalue)
    exact scan_apart (dashed_ne_dashes hname) htake hcommit hdash hnotes rest
  | @flag item name hname hvalue =>
    rw [foldlM_note_singleton] at hnotes
    have hflag : e.flag item = .ok e' := hnotes
    have htake : d.take (dashed name) = .ok e' := by
      rw [take_dashed hname, if_neg (by simp [hvalue]), flag_of_commit hcommit, hflag]
    exact ⟨e', scan_take (dashed_ne_dashes hname) htake rest,
      commit_of_pending (pending_of_flag hflag)⟩
  | flags hflags hne =>
    rw [foldlM_note_flags] at hnotes
    exact scan_flags hflags hne hcommit hnotes rest
  | letterAttached hflags value =>
    obtain ⟨d₁, e₁, hcommit₁, hassign, htake⟩ := take_output hflags hcommit hnotes
    have hdash : (0x6F :: 0x3D :: value : Bytes).head? ≠ some 0x2D := by simp
    have hattach := (htake (0x3D :: value)).trans (lettersOf_output d₁ _)
    exact scan_attached (letters_ne_dashes hflags hdash) hattach hcommit₁ hassign rest
  | @letterJoined flags hflags value hne hequals =>
    obtain ⟨d₁, e₁, hcommit₁, hassign, htake⟩ := take_output hflags hcommit hnotes
    have hdash : (0x6F :: value : Bytes).head? ≠ some 0x2D := by simp
    have hattach : d.take (0x2D :: (flagLetters flags ++ 0x6F :: value)) =
        d₁.attach .output value := by
      rw [htake value, lettersOf_output]
      split
      · exact absurd rfl hne
      · exact absurd rfl hequals
      · rfl
    exact scan_attached (letters_ne_dashes hflags hdash) hattach hcommit₁ hassign rest
  | letterApart hflags hdash =>
    obtain ⟨d₁, e₁, hcommit₁, hassign, htake⟩ := take_output hflags hcommit hnotes
    have hletter : ([0x6F] : Bytes).head? ≠ some 0x2D := by simp
    have hstart := (htake []).trans (lettersOf_output d₁ _)
    exact scan_apart (letters_ne_dashes hflags hletter) hstart hcommit₁ hdash hassign rest

/-- **Arguments are read as what they spell.** -/
theorem scan_spellsAll (hspells : SpellsAll gs args) (hcommit : d.commit = .ok e)
    (hnotes : gs.foldlM note e = .ok e') :
    ∃ d', scan false d args = .ok d' ∧ d'.commit = .ok e' := by
  induction hspells generalizing d e with
  | nil =>
    cases hnotes
    exact ⟨d, rfl, hcommit⟩
  | @cons gs gs' args args' hfirst _ ih =>
    rw [List.foldlM_append] at hnotes
    obtain ⟨e₁, hnotes₁, hnotes'⟩ := ok_of_bind hnotes
    obtain ⟨d₁, hscan, hcommit₁⟩ := scan_spells hfirst hcommit hnotes₁ args'
    obtain ⟨d', hrest, hcommit'⟩ := ih hcommit₁ hnotes'
    exact ⟨d', hscan.trans hrest, hcommit'⟩

end CommandLine
end StressBench
