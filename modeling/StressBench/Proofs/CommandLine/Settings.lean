/-
# Settings in any order

Settings that fit together can be given in any order and spelling. Each of them sets a part of
the draft that no other one sets, so what has been read at any time depends only on which of
them have been given so far, and at the end it is all of them.

Key definitions: `Settings`, `Settings.args`, `Settings.given`, `Settings.Lists`,
`Settings.upTo`.
Key theorems: `Settings.note_upTo`, `Settings.foldlM_note_upTo`, `Settings.parse_of_lists`,
`settings_in_any_order`.
-/
import StressBench.Proofs.CommandLine.Occurrences
import StressBench.Proofs.CommandLine.Spelling

namespace StressBench
namespace CommandLine

/-- A text that is read, and what it is read as. -/
structure Written {α ε : Type} (read : Text → Except ε α) where
  text : Text
  value : α
  accepted : read text = .ok value

/-- A path that can be given: any bytes, at least one. -/
abbrev GivenPath :=
  { path : Path // path ≠ [] }

/-- One of the two flags that exclude each other. -/
inductive Mode
  | generateOnly
  | keep
  deriving DecidableEq, Repr

/-- The flag as an item. -/
def Mode.item : Mode → Item
  | .generateOnly => .generateOnly
  | .keep => .keep

/-- A set of settings that fit together. -/
structure Settings where
  numLines : Written parseNumLines
  baseDir : Option GivenPath
  compiler : Option GivenPath
  output : Option GivenPath
  seed : Option (Written parseSeed)
  timeout : Option (Written Timeout.parse)
  mode : Option Mode
  verbose : Nat
  quiet : Nat

namespace Settings

/-- The values of the settings, the flags counted up to the most that is counted. -/
def args (s : Settings) : Args where
  numLines := s.numLines.value
  baseDir := s.baseDir.map Subtype.val
  compiler := s.compiler.map Subtype.val
  output := s.output.map Subtype.val
  seed := s.seed.map Written.value
  timeout := s.timeout.map Written.value
  generateOnly := s.mode = some .generateOnly
  keep := s.mode = some .keep
  verbose := min 255 s.verbose
  quiet := min 255 s.quiet

/-- The value of an item, if it is given one. -/
def value? (s : Settings) : Item → Option Bytes
  | .numLines => some (Utf8.encode s.numLines.text)
  | .baseDir => s.baseDir.map Subtype.val
  | .compiler => s.compiler.map Subtype.val
  | .output => s.output.map Subtype.val
  | .seed => s.seed.map fun w => Utf8.encode w.text
  | .timeout => s.timeout.map fun w => Utf8.encode w.text
  | _ => none

/-- How often a flag is given. -/
def times (s : Settings) : Item → Nat
  | .generateOnly => if s.mode = some .generateOnly then 1 else 0
  | .keep => if s.mode = some .keep then 1 else 0
  | .verbose => s.verbose
  | .quiet => s.quiet
  | _ => 0

/-- The settings of an item, as they are given. -/
def ofItem (s : Settings) (item : Item) : List Setting :=
  (s.value? item).toList.map (.valued item) ++ List.replicate (s.times item) (.flag item)

/-- The settings as they are given, in one order of many. -/
def given (s : Settings) : List Setting :=
  (.numLines :: Item.named).flatMap s.ofItem

/-- Arguments that list the settings, in any order and spelling. -/
def Lists (s : Settings) (args : List Bytes) : Prop :=
  ∃ gs, gs.Perm s.given ∧ SpellsAll gs args

/-! ### How often an item is given -/

open Draft

variable {s : Settings} {g : Setting} {gs : List Setting} {i : Item} {items : List Item}

theorem mem_ofItem_iff : g ∈ s.ofItem i ↔
    (∃ value, s.value? i = some value ∧ g = .valued i value) ∨ 0 < s.times i ∧ g = .flag i := by
  simp [ofItem, List.mem_replicate, Nat.pos_iff_ne_zero, eq_comm]

theorem item_of_mem_ofItem (h : g ∈ s.ofItem i) : g.item = i := by
  obtain ⟨value, -, rfl⟩ | ⟨-, rfl⟩ := mem_ofItem_iff.mp h <;> rfl

theorem items_given (s : Settings) : s.given.map Setting.item =
    (Item.numLines :: Item.named).flatMap fun i => List.replicate (s.ofItem i).length i := by
  have hitems : ∀ i, (s.ofItem i).map Setting.item = List.replicate (s.ofItem i).length i :=
    fun _ => List.map_eq_replicate_iff.mpr fun _ => item_of_mem_ofItem
  rw [given, List.map_flatMap]
  simp only [hitems]

theorem count_given (s : Settings) (i : Item) :
    (s.given.map Setting.item).count i = (s.ofItem i).length := by
  rw [items_given]
  cases i <;> simp [Item.named, List.count_replicate]

/-- Only flags that are counted are given more than once. -/
theorem length_ofItem_le (s : Settings) (hcounted : i.isCounted = false) :
    (s.ofItem i).length ≤ 1 := by
  rw [ofItem, List.length_append, List.length_map, List.length_replicate]
  cases i with
  | verbose | quiet => cases hcounted
  | generateOnly | keep =>
    simp only [value?, times]
    split <;> simp
  | help | version => exact Nat.zero_le 1
  | _ => exact Option.length_toList_le

/-! ### The draft after some of the settings -/

/-- The mode, if it is among the items. -/
def modesIn (s : Settings) (items : List Item) : List Item :=
  match s.mode with
  | none => []
  | some m => if m.item ∈ items then [m.item] else []

/-- The draft after some of the settings. -/
def upTo (s : Settings) (items : List Item) : Draft where
  numLines := if .numLines ∈ items then some s.numLines.value else none
  baseDir := if .baseDir ∈ items then s.baseDir.map Subtype.val else none
  compiler := if .compiler ∈ items then s.compiler.map Subtype.val else none
  output := if .output ∈ items then s.output.map Subtype.val else none
  seed := if .seed ∈ items then s.seed.map Written.value else none
  timeout := if .timeout ∈ items then s.timeout.map Written.value else none
  modes := s.modesIn items
  verbose := min countMax (items.count .verbose)
  quiet := min countMax (items.count .quiet)

theorem modesIn_cons (hgenerate : i ≠ .generateOnly) (hkeep : i ≠ .keep) :
    s.modesIn (i :: items) = s.modesIn items := by
  unfold modesIn
  split
  · rfl
  · next m _ =>
    have hm : m.item ≠ i := by
      cases m
      · exact hgenerate.symm
      · exact hkeep.symm
    simp only [List.mem_cons, hm, false_or]

theorem upTo_cons (s : Settings) (i : Item) (items : List Item) : s.upTo (i :: items) =
    match i with
    | .numLines => { s.upTo items with numLines := some s.numLines.value }
    | .baseDir => { s.upTo items with baseDir := s.baseDir.map Subtype.val }
    | .compiler => { s.upTo items with compiler := s.compiler.map Subtype.val }
    | .output => { s.upTo items with output := s.output.map Subtype.val }
    | .seed => { s.upTo items with seed := s.seed.map Written.value }
    | .timeout => { s.upTo items with timeout := s.timeout.map Written.value }
    | .generateOnly | .keep =>
      { s.upTo items with modes := s.modesIn (i :: items) }
    | .verbose => { s.upTo items with verbose := min countMax (items.count .verbose + 1) }
    | .quiet => { s.upTo items with quiet := min countMax (items.count .quiet + 1) }
    | .help | .version => s.upTo items := by
  cases i with
  | generateOnly | keep => simp [upTo]
  | _ => simp [upTo, modesIn_cons]

theorem textValue_written {α ε : Type} {read : Text → Except ε α} (w : Written read) (item : Item)
    (fault : ε → ValueFault) :
    textValue item (Utf8.encode w.text) read fault = .ok w.value := by
  unfold textValue
  simp only [Utf8.decode?_eq_some_iff.mpr rfl, w.accepted]

theorem pathValue_given (p : GivenPath) (item : Item) : pathValue item p.val = .ok p.val := by
  unfold pathValue
  rw [if_neg (by simp [p.property])]

theorem note_mode {m : Mode} (hmode : s.mode = some m) (hnew : m.item ∉ items) :
    (s.upTo items).note (.flag m.item) =
      .ok { s.upTo items with modes := s.modesIn (m.item :: items) } := by
  have hbefore : (s.upTo items).modes = [] := by
    simp [upTo, modesIn, hmode, hnew]
  have hafter : s.modesIn (m.item :: items) = [m.item] := by
    simp [modesIn, hmode]
  have hflag : (s.upTo items).flag m.item = if m.item ∈ (s.upTo items).modes
      then .error (.repeated m.item)
      else .ok { s.upTo items with modes := (s.upTo items).modes ++ [m.item] } := by
    cases m <;> rfl
  rw [note, hflag, hbefore, hafter]
  rfl

/-- **A setting is noted, wherever it comes.** -/
theorem note_upTo (hg : g ∈ s.ofItem i) (honce : i.isCounted = false → i ∉ items) :
    (s.upTo items).note g = .ok (s.upTo (i :: items)) := by
  rw [upTo_cons]
  obtain ⟨value, hvalue, rfl⟩ | ⟨htimes, rfl⟩ := mem_ofItem_iff.mp hg
  · cases i with
    | numLines =>
      cases hvalue
      simp only [note, assign, upTo, if_neg (honce rfl), textValue_written]
      rfl
    | baseDir | compiler | output =>
      obtain ⟨p, hp, rfl⟩ := Option.map_eq_some_iff.mp hvalue
      simp only [note, assign, upTo, if_neg (honce rfl), pathValue_given, hp]
      rfl
    | seed | timeout =>
      obtain ⟨w, hw, rfl⟩ := Option.map_eq_some_iff.mp hvalue
      simp only [note, assign, upTo, if_neg (honce rfl), textValue_written, hw]
      rfl
    | _ => cases hvalue
  · cases i with
    | verbose =>
      have hcount : min countMax ((s.upTo items).verbose + 1) =
          min countMax (items.count .verbose + 1) := by
        show min countMax (min countMax _ + 1) = _
        omega
      rw [note, ← hcount]
      rfl
    | quiet =>
      have hcount : min countMax ((s.upTo items).quiet + 1) =
          min countMax (items.count .quiet + 1) := by
        show min countMax (min countMax _ + 1) = _
        omega
      rw [note, ← hcount]
      rfl
    | generateOnly =>
      have hmode : s.mode = some .generateOnly := Decidable.of_not_not fun hne =>
        absurd htimes (by simp [times, hne])
      exact note_mode hmode (honce rfl)
    | keep =>
      have hmode : s.mode = some .keep := Decidable.of_not_not fun hne =>
        absurd htimes (by simp [times, hne])
      exact note_mode hmode (honce rfl)
    | _ => cases htimes

/-! ### All settings -/

/-- The settings are noted in any order. -/
theorem foldlM_note_upTo {done : List Setting} (h : (gs ++ done).Perm s.given) :
    gs.foldlM note (s.upTo (done.map Setting.item)) =
      .ok (s.upTo ((gs.reverse ++ done).map Setting.item)) := by
  induction gs generalizing done with
  | nil => rfl
  | cons g gs ih =>
    have hmem : g ∈ s.given := h.mem_iff.mp List.mem_cons_self
    obtain ⟨i, -, hg⟩ := List.mem_flatMap.mp hmem
    have hitem : g.item = i := item_of_mem_ofItem hg
    have honce : i.isCounted = false → i ∉ done.map Setting.item := by
      intro hcounted hdone
      have hcount : ((g :: gs ++ done).map Setting.item).count i = (s.ofItem i).length :=
        ((h.map Setting.item).count_eq i).trans (count_given s i)
      rw [List.cons_append, List.map_cons, hitem, List.count_cons_self, List.map_append,
        List.count_append] at hcount
      have hpos := List.count_pos_iff.mpr hdone
      have hle := length_ofItem_le s hcounted
      omega
    have hrest := ih (List.perm_middle.trans h)
    rw [List.map_cons, hitem] at hrest
    rw [List.foldlM_cons, note_upTo hg honce, List.reverse_cons, List.append_assoc]
    exact hrest

theorem count_of_perm (h : items.Perm (s.given.map Setting.item)) (i : Item) :
    items.count i = (s.ofItem i).length :=
  (h.count_eq i).trans (count_given s i)

theorem ite_mem_of_perm {α : Type} {o : Option α} (h : items.Perm (s.given.map Setting.item))
    (hnone : s.value? i = none → o = none) : (if i ∈ items then o else none) = o := by
  split
  · rfl
  · next hi =>
    refine (hnone ?_).symm
    have hcount := count_of_perm h i
    rw [List.count_eq_zero.mpr hi, ofItem, List.length_append, List.length_map] at hcount
    exact Option.length_toList_eq_zero_iff.mp (by omega)

theorem modesIn_of_perm (h : items.Perm (s.given.map Setting.item)) :
    s.modesIn items = (s.mode.map Mode.item).toList := by
  unfold modesIn
  rcases hmode : s.mode with _ | m
  · rfl
  · refine if_pos (List.count_pos_iff.mp ?_)
    rw [count_of_perm h]
    cases m <;> simp [ofItem, Mode.item, value?, times, hmode]

theorem upTo_of_perm (h : items.Perm (s.given.map Setting.item)) : s.upTo items =
    { numLines := some s.numLines.value
      baseDir := s.baseDir.map Subtype.val
      compiler := s.compiler.map Subtype.val
      output := s.output.map Subtype.val
      seed := s.seed.map Written.value
      timeout := s.timeout.map Written.value
      modes := (s.mode.map Mode.item).toList
      verbose := min countMax s.verbose
      quiet := min countMax s.quiet } := by
  have hverbose : items.count .verbose = s.verbose := by
    rw [count_of_perm h]
    simp [ofItem, value?, times]
  have hquiet : items.count .quiet = s.quiet := by
    rw [count_of_perm h]
    simp [ofItem, value?, times]
  unfold upTo
  rw [modesIn_of_perm h, hverbose, hquiet]
  congr 1
  · exact ite_mem_of_perm h nofun
  · exact ite_mem_of_perm h id
  · exact ite_mem_of_perm h id
  · exact ite_mem_of_perm h id
  · exact ite_mem_of_perm h fun hnone => by simpa [value?] using hnone
  · exact ite_mem_of_perm h fun hnone => by simpa [value?] using hnone

/-- All settings together are the values that they stand for. -/
theorem finish_upTo (h : items.Perm (s.given.map Setting.item)) :
    (s.upTo items).finish = .ok s.args := by
  rw [upTo_of_perm h]
  unfold finish args
  rcases s.mode with _ | _ | _ <;> rfl

/-- **Order and spelling do not matter.** -/
theorem parse_of_lists (called : Bytes) {args : List Bytes} (h : s.Lists args) :
    parse (called :: args) = .ok s.args := by
  obtain ⟨gs, hperm, hspells⟩ := h
  have hstart : s.upTo [] = {} := by
    have hmodes : s.modesIn [] = [] := by
      unfold modesIn
      cases s.mode <;> rfl
    unfold upTo
    rw [hmodes]
    rfl
  have hnotes : gs.foldlM note (s.upTo []) = .ok (s.upTo ((gs.reverse ++ []).map Setting.item)) :=
    foldlM_note_upTo ((List.append_nil gs).symm ▸ hperm)
  rw [hstart] at hnotes
  obtain ⟨d', hscan, hcommit⟩ := scan_spellsAll hspells (commit_of_pending rfl) hnotes
  have hitems : ((gs.reverse ++ []).map Setting.item).Perm (s.given.map Setting.item) := by
    rw [List.append_nil]
    exact ((List.reverse_perm gs).trans hperm).map _
  unfold parse
  rw [List.tail_cons, hscan]
  exact (finish_of_commit hcommit).trans (finish_upTo hitems)

end Settings

theorem parseSeed_digits (seed : UInt64) :
    parseSeed (Decimal.digits seed.toNat) = .ok seed := by
  unfold parseSeed
  rw [Decimal.readBelow_digits seed.toNat_lt]
  exact congrArg Except.ok UInt64.ofNat_toNat

/-- **Settings in any order and spelling.** Arguments that list settings that fit together are
accepted and give these settings, whatever the order and the spelling; every seed can be
written. What is accepted has two lines at least and one mode at most, and an item that is not
counted is not named twice. -/
theorem settings_in_any_order :
    (∀ (s : Settings) (called : Bytes) (args : List Bytes), s.Lists args →
      parse (called :: args) = .ok s.args) ∧
    (∀ seed : UInt64, parseSeed (Decimal.digits seed.toNat) = .ok seed) ∧
    (∀ (argv : List Bytes) (a : Args), parse argv = .ok a →
      2 ≤ a.numLines ∧ ¬ (a.keep = true ∧ a.generateOnly = true)) ∧
    ∀ (argv : List Bytes) (item : Item) (x y : Bytes), item.isCounted = false →
      [x, y].Sublist (beforeDashes argv.tail) → item.Names x → item.Names y →
      ∃ e, parse argv = .error e := by
  refine ⟨fun s called args h => s.parse_of_lists called h, parseSeed_digits,
    fun argv a h => ⟨minLines_le_numLines h, not_both_modes h⟩, ?_⟩
  intro argv item x y hcounted hnamed hx hy
  rcases hparse : parse argv with e | a
  · exact ⟨e, rfl⟩
  · have hlength : [x, y].length ≤ 1 :=
      length_le_one_of_names hcounted hparse hnamed (by simp [hx, hy])
    exact absurd hlength (by simp)

theorem parse_twoAndAHalf : Timeout.parse "2.5".toList = .ok ⟨2500000000⟩ := by
  have hnumeral : Numeral.parse? (Text.trim "2.5".toList) = some (.finite false 25 (-1)) := rfl
  have hvalue : (Numeral.finite false 25 (-1)).toBinary64 = .finite (5 / 2) := by decide +kernel
  have hpositive : ¬ (5 / 2 : Rat) ≤ 0 := by decide +kernel
  have hspan : Duration.ofSeconds? (5 / 2) = some ⟨2500000000⟩ := by decide +kernel
  unfold Timeout.parse
  rw [hnumeral]
  simp only [hvalue, Timeout.ofBinary64, if_neg hpositive, hspan]

/-- Settings whose values look like options, are no text, or have blanks and zeros in front. -/
def mixedSettings : Settings where
  numLines := ⟨" +1000".toList, 1000, rfl⟩
  baseDir := some ⟨Utf8.encode "--keep".toList, by decide⟩
  compiler := none
  output := some ⟨[0x3D, 0xFF], by decide⟩
  seed := some ⟨"042".toList, 42, rfl⟩
  timeout := some ⟨"2.5".toList, ⟨2500000000⟩, parse_twoAndAHalf⟩
  mode := some .keep
  verbose := 2
  quiet := 1

/-- Settings in a mixed order and spelling, and an item that is named twice. -/
theorem mixedSettings_parsed :
    parse [Utf8.encode "sasm-stress".toList, Utf8.encode "-vqo".toList, [0x3D, 0xFF],
        Utf8.encode "--timeout=2.5".toList, Utf8.encode " +1000".toList,
        Utf8.encode "--keep".toList, Utf8.encode "--base-dir=--keep".toList,
        Utf8.encode "--verbose".toList, Utf8.encode "--seed".toList,
        Utf8.encode "042".toList] =
      .ok {
        numLines := 1000
        baseDir := some (Utf8.encode "--keep".toList)
        compiler := none
        output := some [0x3D, 0xFF]
        seed := some 42
        timeout := some ⟨2500000000⟩
        generateOnly := false
        keep := true
        verbose := 2
        quiet := 1 } ∧
    ∃ e, parse [Utf8.encode "sasm-stress".toList, Utf8.encode "--output=a".toList,
        Utf8.encode "5".toList, Utf8.encode "-qob".toList] = .error e := by
  constructor
  · have houtput : Spells [.flag .verbose, .flag .quiet, .valued .output [0x3D, 0xFF]]
        [Utf8.encode "-vqo".toList, [0x3D, 0xFF]] := by
      have hflags : ∀ i ∈ [Item.verbose, Item.quiet], i.isCounted = true := by decide
      have hdash : ([0x3D, 0xFF] : Bytes).head? ≠ some 0x2D := by decide
      exact .letterApart hflags hdash
    have htimeout : Spells [.valued .timeout (Utf8.encode "2.5".toList)]
        [Utf8.encode "--timeout=2.5".toList] :=
      .attached (show Item.timeout.long = some "timeout" from rfl) rfl _
    have hlines := Spells.numLines (Utf8.encode " +1000".toList)
    have hkeep : Spells [.flag .keep] [Utf8.encode "--keep".toList] :=
      .flag (show Item.keep.long = some "keep" from rfl) rfl
    have hbase : Spells [.valued .baseDir (Utf8.encode "--keep".toList)]
        [Utf8.encode "--base-dir=--keep".toList] :=
      .attached (show Item.baseDir.long = some "base-dir" from rfl) rfl _
    have hverbose : Spells [.flag .verbose] [Utf8.encode "--verbose".toList] :=
      .flag (show Item.verbose.long = some "verbose" from rfl) rfl
    have hseed : Spells [.valued .seed (Utf8.encode "042".toList)]
        [Utf8.encode "--seed".toList, Utf8.encode "042".toList] := by
      have hdash : (Utf8.encode "042".toList).head? ≠ some 0x2D := by decide
      exact .apart (show Item.seed.long = some "seed" from rfl) rfl hdash
    have hall := SpellsAll.cons houtput (.cons htimeout (.cons hlines (.cons hkeep
      (.cons hbase (.cons hverbose (.cons hseed .nil))))))
    exact settings_in_any_order.1 mixedSettings _ _ ⟨_, by decide, hall⟩
  · have hlong : Item.output.Names (Utf8.encode "--output=a".toList) :=
      .valued (show Item.output.long = some "output" from rfl) [0x61]
    have hletter : Item.output.Names (Utf8.encode "-qob".toList) := by
      have hflags : ∀ i ∈ [Item.quiet], i.isCounted = true := by decide
      exact .letter rfl hflags [0x62]
    exact settings_in_any_order.2.2.2 _ .output _ _ rfl (by decide) hlong hletter

end CommandLine
end StressBench
