/-
# Flags that only count

The flags `-v` and `-q` end the item that has begun, as every flag does, and are counted. No
other part of the reading looks at the counts. So a command line that is accepted is accepted
without these flags too, and gives the same settings but for the counts. The two readings go
step by step; where a flag is left out, the shorter one lags behind by an item that it has
not ended yet, and every step that does not count makes up for it.

Key definitions: `withoutLevelFlags`, `Draft.Matches`, `Draft.Follows`.
Key theorems: `Draft.take_follows`, `Draft.Matches.take`, `scan_withoutLevelFlags`,
`parse_withoutLevelFlags`, `bare_eq_of_withoutLevelFlags`.
-/
import StressBench.Proofs.CommandLine.Scanning
import StressBench.Proofs.Text.Encoding

namespace StressBench
namespace CommandLine

/-! ### Command lines without the flags -/

/-- Whether a letter after one dash is one of the two flags. -/
def isLevelLetter (b : UInt8) : Bool :=
  b == 0x76 || b == 0x71

/-- An argument without the flags, or none if nothing is left. Letters after a flag may
begin an option. -/
def withoutLevels? : Bytes → Option Bytes
  | 0x2D :: 0x2D :: name =>
    if name ∈ ["verbose", "quiet"].map (fun flag => Utf8.encode flag.toList) then none
    else some (0x2D :: 0x2D :: name)
  | [0x2D] => some [0x2D]
  | 0x2D :: letters =>
    match letters.dropWhile isLevelLetter with
    | [] => none
    | rest => some (0x2D :: rest)
  | arg => some arg

/-- Arguments without the flags. After `--` there are none. -/
def withoutLevelFlags : List Bytes → List Bytes
  | [] => []
  | arg :: rest =>
    if arg = [0x2D, 0x2D] then arg :: rest
    else (withoutLevels? arg).toList ++ withoutLevelFlags rest

/-- The settings but for the counts. -/
def Args.bare (a : Args) : Args :=
  { a with verbose := 0, quiet := 0 }

namespace Draft

/-- A draft but for its counts. -/
def bare (d : Draft) : Draft :=
  { d with verbose := 0, quiet := 0 }

variable {op f : Draft → Except UsageError Draft} {d d' e e₁ : Draft}

/-! ### Ending the item that has begun -/

theorem pending_of_commit (h : e.commit = .ok e₁) : e₁.pending = none := by
  obtain ⟨hp, rfl⟩ | ⟨item, value, -, hassign⟩ := commit_cases h
  · exact hp
  · exact (assign_frame hassign).1

theorem commit_of_commit (h : e.commit = .ok e₁) : e₁.commit = .ok e₁ := by
  unfold commit
  rw [pending_of_commit h]

theorem hasNumLines_of_commit (h : e.commit = .ok e₁) : e₁.hasNumLines = e.hasNumLines := by
  have hpending := pending_of_commit h
  obtain ⟨-, rfl⟩ | ⟨item, value, hp, hassign⟩ := commit_cases h
  · rfl
  · unfold hasNumLines
    rw [hp, hpending]
    by_cases hitem : item = .numLines
    · subst hitem
      obtain ⟨text, n, -, -, rfl⟩ := assign_numLines hassign
      simp
    · rw [(assign_frame hassign).2 hitem]
      simp [hitem]

theorem awaiting?_of_commit (h : e.commit = .ok e₁) : e.awaiting? = none := by
  unfold awaiting?
  obtain ⟨hp, -⟩ | ⟨item, value, hp, -⟩ := commit_cases h <;> rw [hp]

/-! ### A reading that lags behind -/

/-- The draft `d` has read more level flags than `e`: either the drafts differ in the counts
only, or `d` has also ended the item that has begun in `e`. -/
def Matches (d e : Draft) : Prop :=
  d.bare = e.bare ∨ ∃ e₁, e.commit = .ok e₁ ∧ d.bare = e₁.bare

/-- An operation that does not look at the counts. -/
def Blind (op : Draft → Except UsageError Draft) : Prop :=
  ∀ d e, d.bare = e.bare → (op d).map bare = (op e).map bare

/-- An operation that makes up for the item that one of the readings has not ended. -/
def Follows (op : Draft → Except UsageError Draft) : Prop :=
  ∀ d e, Matches d e → (op d).map bare = (op e).map bare

theorem hasNumLines_of_bare (h : d.bare = e.bare) : d.hasNumLines = e.hasNumLines := by
  show d.bare.hasNumLines = e.bare.hasNumLines
  rw [h]

theorem awaiting?_of_bare (h : d.bare = e.bare) : d.awaiting? = e.awaiting? := by
  show d.bare.awaiting? = e.bare.awaiting?
  rw [h]

theorem blind_of_bare (h : ∀ d, (op d).map bare = (op d.bare).map bare) : Blind op := by
  intro d e hbare
  rw [h d, h e, hbare]

theorem Matches.step (hop : Follows op) (h : Matches d e) (hd : op d = .ok d') :
    ∃ e', op e = .ok e' ∧ d'.bare = e'.bare := by
  have hmap := hop d e h
  rw [hd] at hmap
  rcases he : op e with error | e' <;> rw [he] at hmap
  · cases hmap
  · exact ⟨e', rfl, Except.ok.inj hmap⟩

/-- Once it has been made up for, it is enough not to look at the counts. -/
theorem Follows.bind (hf : Follows f) (hop : Blind op) : Follows fun d => f d >>= op := by
  intro d e h
  have hmap := hf d e h
  show (f d >>= op).map bare = (f e >>= op).map bare
  rcases hd : f d with error | d₁ <;> rcases he : f e with error' | e₁ <;> rw [hd, he] at hmap
  · cases hmap
    rfl
  · cases hmap
  · cases hmap
  · exact hop d₁ e₁ (Except.ok.inj hmap)

/-! ### The operations, one by one -/

theorem assign_blind (item : Item) (value : Bytes) : Blind (·.assign item value) := by
  refine blind_of_bare fun d => ?_
  cases item with
  | numLines | baseDir | compiler | output | seed | timeout =>
    dsimp only [assign, bare]
    generalize onlyOnce _ _ _ = v
    cases v <;> rfl
  | _ => rfl

theorem commit_blind : Blind commit := by
  refine blind_of_bare fun d => ?_
  unfold commit
  rw [show d.bare.pending = d.pending from rfl]
  rcases d.pending with _ | ⟨item, _ | value⟩
  · rfl
  · rfl
  · exact assign_blind item value { d with pending := none } _ rfl

theorem commit_follows : Follows commit := by
  rintro d e (hbare | ⟨e₁, he, hbare⟩)
  · exact commit_blind d e hbare
  · rw [commit_blind d e₁ hbare, commit_of_commit he, he]

theorem attach_follows (item : Item) (value : Bytes) : Follows (·.attach item value) :=
  commit_follows.bind (assign_blind item value)

theorem pends_blind (pending : Option (Item × Option Bytes)) :
    Blind fun d => .ok { d with pending } :=
  blind_of_bare fun _ => rfl

theorem start_follows (item : Item) (value : Option Bytes) : Follows (·.start item value) :=
  commit_follows.bind (pends_blind _)

theorem flag_follows (item : Item) : Follows (·.flag item) := by
  refine commit_follows.bind (blind_of_bare fun d => ?_)
  cases item with
  | help | version | verbose | quiet => rfl
  | _ =>
    dsimp only
    rw [show d.bare.modes = d.modes from rfl]
    split <;> rfl

theorem positional_follows (arg : Bytes) : Follows (·.positional arg) := by
  intro d e h
  have hgiven : d.hasNumLines = e.hasNumLines := by
    rcases h with hbare | ⟨e₁, he, hbare⟩
    · exact hasNumLines_of_bare hbare
    · exact (hasNumLines_of_bare hbare).trans (hasNumLines_of_commit he)
  dsimp only [positional]
  rw [hgiven]
  split
  · rfl
  · exact start_follows _ _ d e h

theorem plain_follows (arg : Bytes) : Follows (·.plain arg) := by
  intro d e h
  dsimp only [plain]
  rcases h with hbare | ⟨e₁, he, hbare⟩
  · rw [awaiting?_of_bare hbare]
    split
    · exact pends_blind _ d e hbare
    · exact positional_follows arg d e (.inl hbare)
  · have hd : d.awaiting? = none :=
      (awaiting?_of_bare hbare).trans (awaiting?_of_commit (commit_of_commit he))
    rw [hd, awaiting?_of_commit he]
    exact positional_follows arg d e (.inr ⟨e₁, he, hbare⟩)

theorem long_follows (name : Bytes) (value : Option Bytes) : Follows (·.long name value) := by
  intro d e h
  dsimp only [long]
  split
  · rfl
  · split
    · exact attach_follows _ _ d e h
    · exact start_follows _ _ d e h
    · rfl
    · exact flag_follows _ d e h

theorem letters_flag {c : Char} {item : Item} (hitem : Item.ofShort? c = some item)
    (hvalue : item.takesValue = false) (d : Draft) (broken : Bytes) (cs : Text) :
    d.letters broken (c :: cs) = d.flag item >>= (·.letters broken cs) := by
  rw [letters, hitem]
  simp only [hvalue, Bool.false_eq_true, if_false]
  cases d.flag item <;> rfl

theorem letters_follow (broken : Bytes) : ∀ (text : Text) {d e : Draft}, Matches d e →
    (text = [] → broken = [] → d.bare = e.bare) →
    (d.letters broken text).map bare = (e.letters broken text).map bare
  | [], d, e, _, hnone => by
    cases broken with
    | nil => exact congrArg Except.ok (hnone rfl rfl)
    | cons b bs => rfl
  | c :: cs, d, e, h, _ => by
    rcases hitem : Item.ofShort? c with _ | item
    · rw [letters, letters, hitem]
    · rcases hvalue : item.takesValue
      · have hrest : Blind (·.letters broken cs) := fun d e hbare =>
          letters_follow broken cs (.inl hbare) fun _ _ => hbare
        simp only [letters_flag hitem hvalue]
        exact (flag_follows item).bind hrest d e h
      · rw [letters, letters, hitem]
        simp only [hvalue, if_true]
        split
        · exact start_follows _ _ d e h
        · exact attach_follows _ _ d e h
        · exact attach_follows _ _ d e h

/-- The letters that bytes after one dash stand for. -/
def lettersOf (d : Draft) (bs : Bytes) : Except UsageError Draft :=
  d.letters (Utf8.splitAtBreak bs).2 (Utf8.splitAtBreak bs).1

theorem lettersOf_flag {c : Char} {item : Item} (hitem : Item.ofShort? c = some item)
    (hvalue : item.takesValue = false) (d : Draft) (bs : Bytes) :
    d.lettersOf (String.utf8EncodeChar c ++ bs) = d.flag item >>= (·.lettersOf bs) := by
  unfold lettersOf
  rw [Utf8.splitAtBreak_encodeChar]
  exact letters_flag hitem hvalue d _ _

theorem lettersOf_follows {bs : Bytes} (h : bs ≠ []) : Follows (·.lettersOf bs) := by
  intro d e hmatches
  refine letters_follow _ _ hmatches fun htext hbroken => absurd ?_ h
  -- without a character all bytes are left over
  have hdrop : (Utf8.splitAtBreak bs).2 = bs.drop (Utf8.encode (Utf8.splitAtBreak bs).1).length :=
    rfl
  rw [htext, hbroken] at hdrop
  exact hdrop.symm

end Draft

/-! ### One argument, by its kind -/

/-- An argument begins with two dashes, is one dash, has something else after one dash, or
begins otherwise. -/
theorem arg_cases (arg : Bytes) : (∃ name, arg = 0x2D :: 0x2D :: name) ∨ arg = [0x2D] ∨
    (∃ b bs, b ≠ 0x2D ∧ arg = 0x2D :: b :: bs) ∨ arg.head? ≠ some 0x2D := by
  rcases arg with _ | ⟨a, _ | ⟨b, bs⟩⟩
  · exact .inr (.inr (.inr nofun))
  · by_cases ha : a = 0x2D
    · exact .inr (.inl (by rw [ha]))
    · exact .inr (.inr (.inr fun h => ha (Option.some.inj h)))
  · by_cases ha : a = 0x2D
    · subst ha
      by_cases hb : b = 0x2D
      · exact .inl ⟨bs, by rw [hb]⟩
      · exact .inr (.inr (.inl ⟨b, bs, hb, rfl⟩))
    · exact .inr (.inr (.inr fun h => ha (Option.some.inj h)))

theorem withoutLevels?_letters {b : UInt8} (hb : b ≠ 0x2D) (bs : Bytes) :
    withoutLevels? (0x2D :: b :: bs) = match (b :: bs).dropWhile isLevelLetter with
      | [] => none
      | rest => some (0x2D :: rest) := by
  unfold withoutLevels?
  split
  · next h =>
    cases h
    exact absurd rfl hb
  · next h => cases h
  · next h =>
    cases h
    rfl
  · next h => exact absurd rfl (h _)

theorem withoutLevels?_plain {arg : Bytes} (h : arg.head? ≠ some 0x2D) :
    withoutLevels? arg = some arg := by
  unfold withoutLevels?
  split
  · exact absurd rfl h
  · rfl
  · exact absurd rfl h
  · rfl

namespace Draft

theorem take_letters {b : UInt8} (hb : b ≠ 0x2D) (bs : Bytes) (d : Draft) :
    d.take (0x2D :: b :: bs) = d.lettersOf (b :: bs) := by
  unfold take
  split
  · next h =>
    cases h
    exact absurd rfl hb
  · next h => cases h
  · next h =>
    cases h
    rfl
  · next h => exact absurd rfl (h _)

theorem take_plain {arg : Bytes} (h : arg.head? ≠ some 0x2D) (d : Draft) :
    d.take arg = d.plain arg := by
  unfold take
  split
  · exact absurd rfl h
  · rfl
  · exact absurd rfl h
  · rfl

theorem take_follows (arg : Bytes) : Follows (·.take arg) := by
  rcases arg_cases arg with ⟨name, rfl⟩ | rfl | ⟨b, bs, hb, rfl⟩ | h
  · exact long_follows _ _
  · exact plain_follows _
  · simp only [take_letters hb]
    exact lettersOf_follows (List.cons_ne_nil b bs)
  · simp only [take_plain h]
    exact plain_follows arg

/-! ### One argument in both readings -/

variable {d d' e : Draft}

theorem Matches.flag {item : Item} (hitem : item.isCounted = true) (h : Matches d e)
    (hd : d.flag item = .ok d') : Matches d' e := by
  obtain ⟨d₁, hcommit, hflag⟩ := ok_of_bind hd
  obtain ⟨e₁, he, hbare⟩ := h.step commit_follows hcommit
  refine .inr ⟨e₁, he, ?_⟩
  rw [← hbare]
  cases item with
  | verbose | quiet =>
    cases hflag
    rfl
  | _ => cases hitem

/-- A letter that is a level flag is counted, and the others come after it. -/
theorem lettersOf_level {b : UInt8} (hb : isLevelLetter b = true) : ∃ item : Item,
    item.isCounted = true ∧
      ∀ (d : Draft) bs, d.lettersOf (b :: bs) = d.flag item >>= (·.lettersOf bs) := by
  rcases Bool.or_eq_true_iff.mp hb with hb | hb <;> rw [eq_of_beq hb]
  · exact ⟨.verbose, rfl, lettersOf_flag (c := 'v') rfl rfl⟩
  · exact ⟨.quiet, rfl, lettersOf_flag (c := 'q') rfl rfl⟩

theorem lettersOf_dash (d : Draft) (bs : Bytes) :
    d.lettersOf (0x2D :: bs) = .error (.unknownArgument ['-', '-']) := by
  have hsplit := Utf8.splitAtBreak_encodeChar '-' bs
  unfold lettersOf
  rw [show (0x2D :: bs : Bytes) = String.utf8EncodeChar '-' ++ bs from rfl, hsplit]
  rfl

/-- Letters after one dash, with the level flags in front of them left out. -/
theorem Matches.letters : ∀ {bs : Bytes} {d : Draft}, Matches d e → d.lettersOf bs = .ok d' →
    bs.dropWhile isLevelLetter = [] ∧ Matches d' e ∨
      ∃ b rest, bs.dropWhile isLevelLetter = b :: rest ∧ b ≠ 0x2D ∧
        ∃ e', e.lettersOf (b :: rest) = .ok e' ∧ d'.bare = e'.bare
  | [], d, h, hd => by
    cases hd
    exact .inl ⟨rfl, h⟩
  | b :: bs, d, h, hd => by
    rcases hb : isLevelLetter b
    · right
      refine ⟨b, bs, ?_, ?_, h.step (lettersOf_follows (List.cons_ne_nil b bs)) hd⟩
      · rw [List.dropWhile_cons_of_neg (by simp [hb])]
      · rintro rfl
        rw [lettersOf_dash] at hd
        cases hd
    · obtain ⟨item, hitem, hletters⟩ := lettersOf_level hb
      rw [hletters] at hd
      obtain ⟨d₁, hflag, hrest⟩ := ok_of_bind hd
      rw [List.dropWhile_cons_of_pos hb]
      exact Matches.letters (h.flag hitem hflag) hrest

theorem take_level {name : Bytes}
    (h : name ∈ ["verbose", "quiet"].map fun flag => Utf8.encode flag.toList) :
    ∃ item : Item, item.isCounted = true ∧
      ∀ d : Draft, d.take (0x2D :: 0x2D :: name) = d.flag item := by
  simp only [List.map_cons, List.map_nil, List.mem_cons, List.not_mem_nil, or_false] at h
  rcases h with rfl | rfl
  · exact ⟨.verbose, rfl, fun d => rfl⟩
  · exact ⟨.quiet, rfl, fun d => rfl⟩

/-- **An argument in both readings.** What is left of it without the level flags is read by
the shorter one. -/
theorem Matches.take {arg : Bytes} (h : Matches d e) (hd : d.take arg = .ok d')
    (harg : arg ≠ [0x2D, 0x2D]) : withoutLevels? arg = none ∧ Matches d' e ∨
      ∃ arg', withoutLevels? arg = some arg' ∧ arg' ≠ [0x2D, 0x2D] ∧
        ∃ e', e.take arg' = .ok e' ∧ Matches d' e' := by
  have hsame : ∃ e', e.take arg = .ok e' ∧ Matches d' e' := by
    obtain ⟨e', he, hbare⟩ := h.step (take_follows arg) hd
    exact ⟨e', he, .inl hbare⟩
  rcases arg_cases arg with ⟨name, rfl⟩ | rfl | ⟨b, bs, hb, rfl⟩ | hhead
  · by_cases hname : name ∈ ["verbose", "quiet"].map fun flag => Utf8.encode flag.toList
    · obtain ⟨item, hitem, htake⟩ := take_level hname
      rw [htake] at hd
      exact .inl ⟨if_pos hname, h.flag hitem hd⟩
    · exact .inr ⟨_, if_neg hname, harg, hsame⟩
  · exact .inr ⟨_, rfl, harg, hsame⟩
  · rw [take_letters hb] at hd
    rw [withoutLevels?_letters hb]
    obtain ⟨hdrop, hmatches⟩ | ⟨b', rest, hdrop, hb', e', he, hbare⟩ := h.letters hd
    · rw [hdrop]
      exact .inl ⟨rfl, hmatches⟩
    · rw [hdrop]
      refine .inr ⟨_, rfl, fun hdashes => ?_, e', (take_letters hb' rest e).trans he, .inl hbare⟩
      cases hdashes
      exact hb' rfl
  · exact .inr ⟨arg, withoutLevels?_plain hhead, harg, hsame⟩

end Draft

/-! ### The whole command line in both readings -/

open Draft

theorem scan_positional {args : List Bytes} {d d' e : Draft} (h : Matches d e)
    (hd : scan true d args = .ok d') : ∃ e', scan true e args = .ok e' ∧ Matches d' e' := by
  induction args generalizing d e with
  | nil =>
    cases hd
    exact ⟨e, rfl, h⟩
  | cons arg rest ih =>
    unfold scan at hd ⊢
    rw [if_pos rfl] at hd ⊢
    rcases hpositional : d.positional arg with error | d₁ <;> rw [hpositional] at hd
    · cases hd
    · obtain ⟨e₁, he, hbare⟩ := h.step (positional_follows arg) hpositional
      rw [he]
      exact ih (.inl hbare) hd

theorem scan_withoutLevelFlags {args : List Bytes} {d d' e : Draft} (h : Matches d e)
    (hd : scan false d args = .ok d') :
    ∃ e', scan false e (withoutLevelFlags args) = .ok e' ∧ Matches d' e' := by
  induction args generalizing d e with
  | nil =>
    cases hd
    exact ⟨e, rfl, h⟩
  | cons arg rest ih =>
    by_cases harg : arg = [0x2D, 0x2D]
    · subst harg
      exact scan_positional h hd
    · unfold scan at hd
      rw [if_neg Bool.false_ne_true, if_neg harg] at hd
      rcases htake : d.take arg with error | d₁ <;> rw [htake] at hd
      · cases hd
      · unfold withoutLevelFlags
        rw [if_neg harg]
        obtain ⟨hnone, h₁⟩ | ⟨arg', hsome, harg', e₁, he, h₁⟩ := h.take htake harg
        · rw [hnone]
          exact ih h₁ hd
        · obtain ⟨e', hscan, h'⟩ := ih h₁ hd
          refine ⟨e', ?_, h'⟩
          rw [hsome]
          show scan false e (arg' :: withoutLevelFlags rest) = _
          unfold scan
          rw [if_neg Bool.false_ne_true, if_neg harg', he]
          exact hscan

theorem finish_of_matches {d e : Draft} {a : Args} (h : Matches d e) (hd : d.finish = .ok a) :
    ∃ a', e.finish = .ok a' ∧ a.bare = a'.bare := by
  obtain ⟨d₁, hcommit, hfinish⟩ := ok_of_bind hd
  obtain ⟨e₁, he, hbare⟩ := h.step commit_follows hcommit
  have hmap : e.finish.map Args.bare = (Except.ok a).map Args.bare := by
    unfold finish
    rw [he, ← hfinish]
    cases d₁
    cases e₁
    cases hbare
    dsimp only [bind, Except.bind]
    split <;> rfl
  rcases hfinish' : e.finish with error | a' <;> rw [hfinish'] at hmap
  · cases hmap
  · exact ⟨a', rfl, (Except.ok.inj hmap).symm⟩

/-- **The level flags only count.** Without them a command line that is accepted is accepted,
and gives the same settings but for the counts. -/
theorem parse_withoutLevelFlags {argv : List Bytes} {a : Args} (h : parse argv = .ok a)
    (called : Bytes) : ∃ a', parse (called :: withoutLevelFlags argv.tail) = .ok a' ∧
      a.bare = a'.bare := by
  unfold parse at h
  rcases hscan : scan false {} argv.tail with error | d <;> rw [hscan] at h
  · cases h
  · obtain ⟨e, he, hmatches⟩ := scan_withoutLevelFlags (.inl rfl) hscan
    unfold parse
    rw [List.tail_cons, he]
    exact finish_of_matches hmatches h

example : withoutLevelFlags (["-vqo", "s", "--verbose", "5", "--"].map fun arg =>
      Utf8.encode arg.toList) =
    ["-o", "s", "5", "--"].map fun arg => Utf8.encode arg.toList := by decide

/-- Two command lines that differ in the level flags only give the same settings but for the
counts. -/
theorem bare_eq_of_withoutLevelFlags {argv argv' : List Bytes} {a a' : Args}
    (h : parse argv = .ok a) (h' : parse argv' = .ok a')
    (hflags : withoutLevelFlags argv.tail = withoutLevelFlags argv'.tail) : a.bare = a'.bare := by
  obtain ⟨b, hb, hbare⟩ := parse_withoutLevelFlags h []
  obtain ⟨b', hb', hbare'⟩ := parse_withoutLevelFlags h' []
  rw [hflags] at hb
  rw [hbare, hbare', Except.ok.inj (hb.symm.trans hb')]

end CommandLine
end StressBench
