/-
# A sink that fills up has an exact prefix

However small the sink, what it has taken of a file is the first part of the text,
up to the last byte that fits, and the failure says so: the error is the one of the
full sink, and nothing is flushed. A line is made only when all before it has been
taken. One write of the library stands for as many offers as it takes to hand all
bytes over; an offer may be taken in part, and one that was interrupted is made again.
A writer that claims to be interrupted whenever it is full is asked without end, so that
a file that does not fit into it is never done with.

Key definitions: `Sink.offer`, `Sink.HandsOver`, `Sink.HandsAll`, `LineFeed.skip`, `Delivery`.
Key theorems: `Sink.handsOver_iff`, `Sink.handsAll_iff`, `Sink.not_handsAll`, `writeFeed_rest`,
`writeLines_rest`, `writeLines_delivery`.
-/
import StressBench.Proofs.Sink.Writing

namespace StressBench

/-! ### Offers -/

namespace Sink

/-- Offers bytes to a writer once: it takes all that fit and says how many these
are, and gives an answer of its own when it is full. -/
def offer (s : Sink) (full : WhenFull) (bs : Bytes) : Except IoError Nat × Sink :=
  if s.room bs.length = 0 ∧ bs ≠ [] then
    match full with
    | .fail e => (.error e, s)
    | .takeNothing => (.ok 0, s)
  else
    (.ok (s.room bs.length), { s with latest := (bs.take (s.room bs.length)).reverse ++ s.latest })

/-- Bytes are offered until none is left or an offer fails. It is a failure if none
of some bytes is taken, but none if an offer is interrupted, which may happen at any time
before something is taken: it is made again. -/
inductive HandsOver (full : WhenFull) : Sink → Bytes → Option IoError → Sink → Prop
  | done (s : Sink) : HandsOver full s [] none s
  | part {s s₁ s₂ : Sink} {bs : Bytes} {n : Nat} {r : Option IoError} (hbs : bs ≠ [])
      (h : s.offer full bs = (.ok (n + 1), s₁)) (hrest : HandsOver full s₁ (bs.drop (n + 1)) r s₂) :
      HandsOver full s bs r s₂
  | nothing {s s₁ : Sink} {bs : Bytes} (hbs : bs ≠ []) (h : s.offer full bs = (.ok 0, s₁)) :
      HandsOver full s bs (some (.custom .writeZero "failed to write whole buffer")) s₁
  | again {s s₁ : Sink} {bs : Bytes} {r : Option IoError} (hbs : bs ≠ [])
      (hrest : HandsOver full s bs r s₁) : HandsOver full s bs r s₁
  | failed {s s₁ : Sink} {bs : Bytes} {e : IoError} (hbs : bs ≠ [])
      (h : s.offer full bs = (.error e, s₁)) (he : e.kind ≠ .interrupted) :
      HandsOver full s bs (some e) s₁

/-- Pieces are handed over in turn, up to the first that fails. -/
inductive HandsAll (full : WhenFull) : Sink → List Bytes → Option IoError → Sink → Prop
  | done (s : Sink) : HandsAll full s [] none s
  | next {s s₁ s₂ : Sink} {piece : Bytes} {pieces : List Bytes} {r : Option IoError}
      (h : HandsOver full s piece none s₁) (hrest : HandsAll full s₁ pieces r s₂) :
      HandsAll full s (piece :: pieces) r s₂
  | failed {s s₁ : Sink} {piece : Bytes} {pieces : List Bytes} {e : IoError}
      (h : HandsOver full s piece (some e) s₁) : HandsAll full s (piece :: pieces) (some e) s₁

variable {full : WhenFull} {s s' : Sink} {bs : Bytes}

/-! ### One offer -/

theorem offer_of_room (hroom : s.room bs.length ≠ 0) :
    s.offer full bs = (.ok (s.room bs.length),
      { s with latest := (bs.take (s.room bs.length)).reverse ++ s.latest }) := by
  unfold offer
  rw [if_neg fun h => hroom h.1]

theorem offer_of_full (hbs : bs ≠ []) (hroom : s.room bs.length = 0) :
    s.offer full bs = match full with
      | .fail e => (.error e, s)
      | .takeNothing => (.ok 0, s) := by
  unfold offer
  rw [if_pos ⟨hroom, hbs⟩]

/-- After bytes that fit there is room for as many more as would have fitted with them. -/
theorem fits_after {as : Bytes} (h : s.Fits as.length) (n : Nat) :
    Fits { s with latest := as.reverse ++ s.latest } n ↔ s.Fits (as.length + n) := by
  constructor <;> intro hn c hc
  · have := hn c hc
    have := h c hc
    simp only [List.length_append, List.length_reverse] at *
    omega
  · have := hn c hc
    simp only [List.length_append, List.length_reverse]
    omega

theorem fits_mono {m n : Nat} (h : s.Fits n) (hmn : m ≤ n) : s.Fits m :=
  fun c hc => Nat.le_trans hmn (h c hc)

theorem not_fits_iff {n : Nat} :
    ¬s.Fits n ↔ ∃ c, s.capacity = some c ∧ c - s.latest.length < n := by
  simp only [Fits, Classical.not_forall, Nat.not_le, exists_prop]

theorem write_of_not_fits_room (h : ¬s.Fits bs.length) :
    s.write bs = (some s.fullError,
      { s with latest := (bs.take (s.room bs.length)).reverse ++ s.latest }) := by
  obtain ⟨c, hc, hlt⟩ := not_fits_iff.mp h
  have hroom : s.room bs.length = c - s.latest.length := by
    unfold room
    rw [hc]
    exact Nat.min_eq_right (Nat.le_of_lt hlt)
  rw [write_of_not_fits hc hlt, hroom]

/-- What is left after an offer is written as the whole would have been, and fits if the
whole did. -/
theorem write_of_offer {n : Nat} {s₁ : Sink} (hbs : bs ≠ [])
    (h : s.offer full bs = (.ok (n + 1), s₁)) :
    s₁.whenFull = s.whenFull ∧ s.write bs = s₁.write (bs.drop (n + 1)) ∧
      (s₁.Fits (bs.drop (n + 1)).length ↔ s.Fits bs.length) := by
  have hroom : s.room bs.length ≠ 0 := by
    intro h0
    rw [offer_of_full hbs h0] at h
    cases full <;> cases h
  rw [offer_of_room hroom, Prod.mk.injEq, Except.ok.injEq] at h
  obtain ⟨hn, rfl⟩ := h
  have hfits : s.Fits (bs.take (n + 1)).length := by
    intro c hc
    rw [List.length_take, ← hn]
    unfold room
    rw [hc]
    simp only
    omega
  have happ := s.write_append (bs.take (n + 1)) (bs.drop (n + 1))
  rw [List.take_append_drop, write_of_fits hfits] at happ
  have hrest := fits_after hfits (bs.drop (n + 1)).length
  rw [← List.length_append, List.take_append_drop] at hrest
  rw [hn]
  exact ⟨rfl, happ, hrest⟩

theorem write_of_full (hbs : bs ≠ []) (hroom : s.room bs.length = 0) :
    s.write bs = (some s.fullError, s) := by
  have hpos : 0 < bs.length := List.length_pos_iff.mpr hbs
  unfold write
  simp only [hroom, if_pos hpos, List.take_zero, List.reverse_nil, List.nil_append]

theorem room_ne_zero (hbs : bs ≠ []) (h : s.Fits bs.length) : s.room bs.length ≠ 0 := by
  intro hroom
  have hwrite := write_of_full hbs hroom
  rw [write_of_fits h] at hwrite
  cases hwrite

/-! ### One write -/

/-- However the bytes are handed over, the write says what becomes of them. If they fit, it
does not matter what a full writer would answer. -/
theorem write_of_handsOver {r : Option IoError} (h : s.HandsOver full bs r s')
    (hs : full = s.whenFull ∨ s.Fits bs.length) : s.write bs = (r, s') := by
  induction h with
  | done s => exact s.write_nil
  | part hbs h _ ih =>
    obtain ⟨hfull, hw, hfits⟩ := write_of_offer hbs h
    rw [hw]
    exact ih (hs.imp (fun heq => heq.trans hfull.symm) hfits.mpr)
  | @nothing s s₁ bs hbs h =>
    by_cases hroom : s.room bs.length = 0
    · obtain rfl := hs.resolve_right fun hfits => room_ne_zero hbs hfits hroom
      rw [offer_of_full hbs hroom] at h
      rw [write_of_full hbs hroom, fullError]
      cases hw : s.whenFull <;> rw [hw] at h <;> cases h
      rfl
    · rw [offer_of_room hroom, Prod.mk.injEq, Except.ok.injEq] at h
      exact absurd h.1 hroom
  | again _ _ ih => exact ih hs
  | @failed s s₁ bs e hbs h he =>
    by_cases hroom : s.room bs.length = 0
    · obtain rfl := hs.resolve_right fun hfits => room_ne_zero hbs hfits hroom
      rw [offer_of_full hbs hroom] at h
      rw [write_of_full hbs hroom, fullError]
      cases hw : s.whenFull <;> rw [hw] at h <;> cases h
      rfl
    · rw [offer_of_room hroom] at h
      cases h

theorem handsOver_write (n : Nat) : ∀ {s : Sink} {bs : Bytes}, bs.length ≤ n →
    s.HandsOver s.whenFull bs (s.write bs).1 (s.write bs).2 := by
  -- by the number of bytes: every offer that is taken leaves fewer
  induction n with
  | zero =>
    intro s bs hlen
    obtain rfl := List.length_eq_zero_iff.mp (Nat.le_zero.mp hlen)
    rw [write_nil]
    exact .done s
  | succ n ih =>
    intro s bs hlen
    by_cases hbs : bs = []
    · rw [hbs, write_nil]
      exact .done s
    by_cases hroom : s.room bs.length = 0
    · rw [write_of_full hbs hroom]
      have hoffer : s.offer s.whenFull bs = match s.whenFull with
          | .fail e => (.error e, s)
          | .takeNothing => (.ok 0, s) := offer_of_full hbs hroom
      have hkind := s.fullError_kind
      unfold fullError at hkind ⊢
      cases hw : s.whenFull with
      | fail e =>
        rw [hw] at hoffer hkind
        exact .failed hbs hoffer hkind
      | takeNothing =>
        rw [hw] at hoffer
        exact .nothing hbs hoffer
    · obtain ⟨k, hk⟩ := Nat.exists_eq_succ_of_ne_zero hroom
      obtain ⟨s₁, hoffer⟩ : ∃ s₁, s.offer s.whenFull bs = (.ok (k + 1), s₁) :=
        ⟨_, hk ▸ offer_of_room hroom⟩
      obtain ⟨hfull, hw, -⟩ := write_of_offer hbs hoffer
      rw [hw]
      refine .part hbs hoffer ?_
      rw [← hfull]
      refine ih ?_
      rw [List.length_drop]
      omega

/-- **One write is as many offers as it takes.** -/
theorem handsOver_iff {r : Option IoError} :
    s.HandsOver s.whenFull bs r s' ↔ s.write bs = (r, s') := by
  constructor
  · exact fun h => write_of_handsOver h (.inl rfl)
  · intro h
    have := handsOver_write bs.length (s := s) (Nat.le_refl _)
    rw [h] at this
    exact this

/-- **A writer that is interrupted whenever it is full** never has done with bytes that do not
fit. -/
theorem not_handsOver {r : Option IoError} (hfull : ¬full.IsFinal) (hfits : ¬s.Fits bs.length) :
    ¬s.HandsOver full bs r s' := by
  intro h
  induction h with
  | done s => exact hfits fun c _ => Nat.zero_le _
  | part hbs h _ ih => exact ih fun hrest => hfits ((write_of_offer hbs h).2.2.mp hrest)
  | @nothing s s₁ bs hbs h =>
    by_cases hroom : s.room bs.length = 0
    · rw [offer_of_full hbs hroom] at h
      cases full with
      | fail e => cases h
      | takeNothing => exact hfull trivial
    · rw [offer_of_room hroom, Prod.mk.injEq, Except.ok.injEq] at h
      exact hroom h.1
  | again _ _ ih => exact ih hfits
  | @failed s s₁ bs e hbs h he =>
    by_cases hroom : s.room bs.length = 0
    · rw [offer_of_full hbs hroom] at h
      cases full with
      | fail e' =>
        cases h
        exact hfull he
      | takeNothing => cases h
    · rw [offer_of_room hroom] at h
      cases h

/-! ### One write after another -/

variable {pieces : List Bytes}

/-- **All writes are one,** as long as none has failed. -/
theorem handsAll_iff {r : Option IoError} : ∀ {s : Sink} {pieces : List Bytes},
    s.HandsAll s.whenFull pieces r s' ↔ s.write pieces.flatten = (r, s')
  | s, [] => by
    rw [List.flatten_nil, write_nil, Prod.mk.injEq]
    constructor
    · rintro ⟨⟩
      exact ⟨rfl, rfl⟩
    · rintro ⟨rfl, rfl⟩
      exact .done s
  | s, piece :: pieces => by
    rw [List.flatten_cons, write_append]
    rcases hw : s.write piece with ⟨_ | e, s₁⟩
    · -- the next sink is as full as this one is, and answers in the same way
      have hfull : s₁.whenFull = s.whenFull := (congrArg (fun w => w.2.whenFull) hw).symm
      show s.HandsAll s.whenFull (piece :: pieces) r s' ↔ s₁.write pieces.flatten = (r, s')
      rw [← handsAll_iff, hfull]
      constructor
      · rintro (_ | ⟨hpiece, hrest⟩ | hfailed)
        · obtain ⟨-, rfl⟩ := Prod.mk.inj (hw.symm.trans (handsOver_iff.mp hpiece))
          exact hrest
        · cases hw.symm.trans (handsOver_iff.mp hfailed)
      · exact fun hrest => .next (handsOver_iff.mpr hw) hrest
    · constructor
      · rintro (_ | ⟨hpiece, -⟩ | hfailed)
        · cases hw.symm.trans (handsOver_iff.mp hpiece)
        · exact hw.symm.trans (handsOver_iff.mp hfailed)
      · rintro ⟨⟩
        exact .failed (handsOver_iff.mpr hw)

/-- Such a writer never has done with pieces that do not fit together either. -/
theorem not_handsAll {r : Option IoError} (hfull : ¬full.IsFinal)
    (hfits : ¬s.Fits pieces.flatten.length) : ¬s.HandsAll full pieces r s' := by
  intro h
  induction h with
  | done s => exact hfits fun c _ => Nat.zero_le _
  | @next s s₁ _ piece pieces _ h _ ih =>
    by_cases hpiece : s.Fits piece.length
    · have hw := write_of_handsOver h (.inr hpiece)
      rw [write_of_fits hpiece] at hw
      obtain ⟨-, rfl⟩ := Prod.mk.inj hw
      refine ih fun hrest => hfits ?_
      rw [List.flatten_cons, List.length_append]
      exact (fits_after hpiece _).mp hrest
    · exact not_handsOver hfull hpiece h
  | @failed s s₁ piece pieces e h =>
    by_cases hpiece : s.Fits piece.length
    · have hw := write_of_handsOver h (.inr hpiece)
      rw [write_of_fits hpiece] at hw
      cases hw
    · exact not_handsOver hfull hpiece h

end Sink

/-! ### Which lines are made -/

/-- The feed after `k` lines have been made. -/
def LineFeed.skip {α : Type} : Nat → LineFeed α → LineFeed α
  | 0, feed => feed
  | k + 1, feed => skip k ⟨feed.count - 1, (feed.next feed.state).2, feed.next⟩

/-- The bytes of lines, with the break after each. -/
def lineBytes (lines : List Text) : Bytes :=
  Utf8.encode (lines.flatMap (· ++ ['\n']))

theorem lineBytes_cons (line : Text) (lines : List Text) :
    lineBytes (line :: lines) = Utf8.encode (line ++ ['\n']) ++ lineBytes lines := by
  rw [lineBytes, List.flatMap_cons, Utf8.encode_append, lineBytes]

/-- **A line of a feed is made when all before it has been taken,** and none after the
first that does not fit. -/
theorem writeFeed_rest {α : Type} (next : α → Text × α) : ∀ (n : Nat) (s : Sink) (a : α),
    ∃ k ≤ n, (writeFeed s next n a).rest = LineFeed.skip k ⟨n, a, next⟩ ∧
      (∀ j < k, s.Fits (lineBytes ((LineFeed.lines.make next n a).take j)).length) ∧
      (k < n → ¬s.Fits (lineBytes ((LineFeed.lines.make next n a).take k)).length)
  | 0, s, a => ⟨0, Nat.le_refl 0, rfl, nofun, nofun⟩
  | n + 1, s, a => by
    have hnil : s.Fits (lineBytes []).length := fun c _ => Nat.zero_le _
    rw [LineFeed.lines.make]
    simp only [writeFeed]
    rw [writeLine_eq_write]
    by_cases hfit : s.Fits (Utf8.encode ((next a).1 ++ ['\n'])).length
    · rw [Sink.write_of_fits hfit]
      simp only
      obtain ⟨k, hk, hrest, hbefore, hafter⟩ := writeFeed_rest next n
        { s with latest := (Utf8.encode ((next a).1 ++ ['\n'])).reverse ++ s.latest } (next a).2
      refine ⟨k + 1, Nat.succ_le_succ hk, hrest, fun j hj => ?_, fun hlt => ?_⟩
      · cases j with
        | zero => exact hnil
        | succ j =>
          rw [List.take_succ_cons, lineBytes_cons, List.length_append, ← Sink.fits_after hfit]
          exact hbefore j (Nat.lt_of_succ_lt_succ hj)
      · rw [List.take_succ_cons, lineBytes_cons, List.length_append, ← Sink.fits_after hfit]
        exact hafter (Nat.lt_of_succ_lt_succ hlt)
    · rw [Sink.write_of_not_fits_room hfit]
      refine ⟨1, Nat.succ_le_succ (Nat.zero_le n), rfl, fun j hj => ?_, fun _ => ?_⟩
      · obtain rfl := Nat.lt_one_iff.mp hj
        exact hnil
      · rw [List.take_succ_cons, List.take_zero, lineBytes_cons, List.length_append]
        exact fun h => hfit (Sink.fits_mono h (Nat.le_add_right _ _))

/-! ### Files -/

section Files

variable {α : Type} (s : Sink) (header : Text) (feed : LineFeed α) (terminator : Text)

/-- The bytes of a file. -/
def fileBytes (header : Text) (lines : List Text) (terminator : Text) : Bytes :=
  Utf8.encode (fileText header lines terminator)

theorem fileBytes_eq (lines : List Text) : fileBytes header lines terminator =
    Utf8.encode (header ++ ['\n']) ++ (lineBytes lines ++ Utf8.encode terminator) := by
  rw [fileBytes, fileText, List.append_cons, Utf8.encode_append (header ++ ['\n']),
    Utf8.encode_append _ terminator, lineBytes]

theorem fileBytes_ne_nil {header terminator : Text} {lines : List Text} :
    fileBytes header lines terminator ≠ [] := by
  rw [fileBytes]
  exact encode_fileText_ne_nil header lines terminator

/-- What has become of a sink and a feed when a file has been written. -/
structure Delivery (w : Written α) : Prop where
  /-- The sink has taken the first bytes of the file, all that fit. -/
  taken : w.sink.taken = s.taken ++ (fileBytes header feed.lines terminator).take
    (s.room (fileBytes header feed.lines terminator).length)
  /-- A file that does not fit fails as the full sink does, and nothing is flushed. -/
  full : ¬s.Fits (fileBytes header feed.lines terminator).length →
    w.error = some s.fullError ∧ w.sink.flushes = s.flushes
  /-- A file that fits is flushed once, and only this can fail. -/
  flushed : s.Fits (fileBytes header feed.lines terminator).length →
    w.error = s.flushError ∧ w.sink.flushes = s.flushes + 1
  /-- As many lines have been made as it takes to find one that does not fit, or all of
  them: before each the header and the lines in front of it fit, and if some line has
  not been made, then the last one made does not fit, or the header if none was. -/
  made : ∃ k ≤ feed.count, w.rest = feed.skip k ∧
    (∀ j < k, s.Fits (fileBytes header (feed.lines.take j) []).length) ∧
    (k < feed.count → ¬s.Fits (fileBytes header (feed.lines.take k) []).length)

theorem writeLines_rest : ∃ k ≤ feed.count,
    (writeLines s header feed terminator).rest = feed.skip k ∧
    (∀ j < k, s.Fits (fileBytes header (feed.lines.take j) []).length) ∧
    (k < feed.count → ¬s.Fits (fileBytes header (feed.lines.take k) []).length) := by
  have hbytes : ∀ lines : List Text, (fileBytes header lines []).length =
      (Utf8.encode (header ++ ['\n'])).length + (lineBytes lines).length := by
    intro lines
    rw [fileBytes_eq, show Utf8.encode [] = [] from rfl, List.append_nil, List.length_append]
  simp only [hbytes]
  unfold writeLines
  rw [writeLine_eq_write]
  by_cases hfit : s.Fits (Utf8.encode (header ++ ['\n'])).length
  · rw [Sink.write_of_fits hfit]
    simp only
    obtain ⟨k, hk, hrest, hbefore, hafter⟩ := writeFeed_rest feed.next feed.count
      { s with latest := (Utf8.encode (header ++ ['\n'])).reverse ++ s.latest } feed.state
    refine ⟨k, hk, ?_, fun j hj => (Sink.fits_after hfit _).mp (hbefore j hj),
      fun hlt h => hafter hlt ((Sink.fits_after hfit _).mpr h)⟩
    -- the terminator and the flush make no line
    generalize writeFeed _ feed.next feed.count feed.state = w at hrest ⊢
    rcases w with ⟨_ | e, sink, rest⟩
    · simp only at hrest ⊢
      rcases sink.write (Utf8.encode terminator) with ⟨_ | e, sink'⟩ <;> exact hrest
    · exact hrest
  · rw [Sink.write_of_not_fits_room hfit]
    exact ⟨0, Nat.zero_le _, rfl, fun j hj => absurd hj (Nat.not_lt_zero j),
      fun _ h => hfit (Sink.fits_mono h (Nat.le_add_right _ _))⟩

/-- **A sink that fills up has an exact prefix of the file.** Whatever its capacity,
and wherever in the file it runs out, the sink has all bytes up to there, the failure
is reported, and no line has been made in vain but the one that does not fit. In whatever
pieces a file is written, and in whatever offers each of them is handed over, it comes to
the one write of all its bytes; a writer that is interrupted whenever it is full, which is no
sink, never has done with a file that does not fit. -/
theorem writeLines_delivery :
    Delivery s header feed terminator (writeLines s header feed terminator) ∧
    (∀ (t : Sink) pieces r t',
      t.HandsAll t.whenFull pieces r t' ↔ t.write pieces.flatten = (r, t')) ∧
    ∀ full : WhenFull, ¬full.IsFinal →
      ¬s.Fits (fileBytes header feed.lines terminator).length →
      ∀ pieces, pieces.flatten = fileBytes header feed.lines terminator →
      ∀ r t, ¬s.HandsAll full pieces r t := by
  refine ⟨⟨?_, fun h => ?_, fun h => ?_, writeLines_rest s header feed terminator⟩,
    fun t pieces r t' => Sink.handsAll_iff,
    fun full hfull hfits pieces hpieces r t => Sink.not_handsAll hfull (hpieces ▸ hfits)⟩
  all_goals
    have hw := writeLines_eq_write s header feed terminator
    rw [← fileBytes] at hw
  · -- the flush takes nothing
    have hsink := congrArg (fun p => p.2.taken) hw
    rw [← Sink.taken_write]
    refine hsink.trans ?_
    rcases s.write (fileBytes header feed.lines terminator) with ⟨_ | e, sink⟩ <;> rfl
  · rw [Sink.write_of_not_fits_room h, Prod.mk.injEq] at hw
    exact ⟨hw.1, by rw [hw.2]⟩
  · rw [Sink.write_of_fits h] at hw
    obtain ⟨herr, hsink⟩ := Prod.mk.inj hw
    exact ⟨herr, by rw [hsink]⟩

end Files

/-- A sink of six bytes that fails when it is full. -/
def sixBytes : Sink :=
  { capacity := some 6
    whenFull := .fail (.system Errno.noSpace)
    final := WhenFull.isFinal_noSpace
    flushError := none }

/-- An empty line, one of three characters and one of one. -/
def threeLines : List Text :=
  [[], ['c', 'd', 'e'], ['f']]

/-- The sink has a part of the second line, and the third one has not been made. -/
theorem sixBytes_delivery :
    let w := writeLines sixBytes ['a', 'b'] (.ofList threeLines) ['.']
    ¬sixBytes.Fits (fileBytes ['a', 'b'] threeLines ['.']).length ∧
      w.sink.taken = Utf8.encode ['a', 'b', '\n', '\n', 'c', 'd'] ∧
      w.error = some (.system Errno.noSpace) ∧ w.sink.flushes = 0 ∧
      w.rest = (LineFeed.ofList threeLines).skip 2 ∧
      ∀ r t, ¬sixBytes.HandsAll (.fail (.plain .interrupted))
        [fileBytes ['a', 'b'] threeLines ['.']] r t := by
  intro w
  have hfull : ¬sixBytes.Fits (fileBytes ['a', 'b'] threeLines ['.']).length :=
    fun h => absurd (h 6 rfl) (by decide)
  obtain ⟨hdelivery, -, hinterrupted⟩ :=
    writeLines_delivery sixBytes ['a', 'b'] (.ofList threeLines) ['.']
  obtain ⟨herr, hflushes⟩ := hdelivery.full hfull
  obtain ⟨k, hk, hrest, hbefore, hafter⟩ := hdelivery.made
  -- four bytes fit before the second line, and eight do not after it
  have hfits : ∀ lines : List Text, (fileBytes ['a', 'b'] lines []).length ≤ 6 →
      sixBytes.Fits (fileBytes ['a', 'b'] lines []).length := by
    rintro lines hlen c hc
    obtain rfl := Option.some.inj hc
    exact hlen
  have htwo : k = 2 := by
    have hk' : k ≤ 3 := hk
    match k, hk' with
    | 0, _ => exact absurd (hfits _ (by decide)) (hafter (by decide))
    | 1, _ => exact absurd (hfits _ (by decide)) (hafter (by decide))
    | 2, _ => rfl
    | 3, _ => exact absurd (hbefore 2 (by decide) 6 rfl) (by decide)
  rw [htwo] at hrest
  exact ⟨hfull, hdelivery.taken, herr, hflushes, hrest,
    hinterrupted _ (by decide) hfull _ (List.append_nil _)⟩

end StressBench
