/-
# The stream is cut the same way by every request

A request takes from a synthesizer as many instructions as it is answered with: a stream as
many as are pulled from it, a corpus as many as it has body lines, and a corpus that cannot
be made none. So the answers to any requests, one after another, are the sequence of the
synthesizer from its beginning, cut into pieces. A clone has a sequence of its own from the
place where it was made: what the others are asked does not move it.

Key definitions: `Corpus.Fits`, `Synthesis.Request.size`, `Synthesis.drawn`,
`Synthesis.Session.requestsTo`, `Synthesis.Session.answersOf`.
Key theorems: `Corpus.generate_of_not_fits`, `Synthesis.answers_eq`,
`Synthesis.Session.run_at`, `Synthesis.stream_cut_by_requests`.
-/
import StressBench.Proofs.Corpus.Shape
import StressBench.Synthesis.Requests

namespace StressBench

/-! ### Corpora that cannot be made -/

namespace Corpus

variable {σ : Type} [WordSource σ] {memory : Memory}

/-- A corpus of so many lines has its first and its last line, and the memory grants room for
its body. -/
def Fits (memory : Memory) (total : Nat) : Prop :=
  minLines ≤ total ∧ memory.grants (total - minLines) = true

instance (memory : Memory) (total : Nat) : Decidable (Fits memory total) :=
  inferInstanceAs (Decidable (_ ∧ _))

/-- The failure to make a corpus of so many lines. -/
def sizeFailure (total : Nat) : Failure :=
  if total < minLines then .tooFewLines total else .tooManyLines total

/-- **A corpus that cannot be made** leaves the source untouched. -/
theorem generate_of_not_fits {total : Nat} (h : ¬Fits memory total) (s : σ) :
    generate memory total s = (.error (sizeFailure total), s) := by
  unfold generate sizeFailure
  rcases Nat.lt_or_ge total minLines with hlt | hge
  · rw [bodyLength?_of_lt hlt, if_pos hlt]
  · have hrefused : ¬memory.grants (total - minLines) = true := fun hfit => h ⟨hge, hfit⟩
    rw [bodyLength?_of_le hge, if_neg (Nat.not_lt.mpr hge)]
    simp only [if_neg hrefused]

theorem generate_ok_iff {total : Nat} (s : σ) :
    (∃ c, (generate memory total s).1 = .ok c) ↔ Fits memory total := by
  by_cases h : Fits memory total
  · rw [generate_of_fits s h.1 h.2]
    exact iff_of_true ⟨_, rfl⟩ h
  · rw [generate_of_not_fits h]
    refine iff_of_false ?_ h
    rintro ⟨c, hc⟩
    cases hc

theorem not_fits_of_le {total : Nat} (h : 1 <<< 63 ≤ total) : ¬Fits memory total := by
  rintro ⟨-, hfit⟩
  have hrange : 1 <<< 62 ≤ total - minLines :=
    Nat.le_trans (by decide) (Nat.sub_le_sub_right h minLines)
  rw [memory.refuses _ hrange] at hfit
  cases hfit

/-- A corpus of two lines, which has no body, fits into every memory. -/
theorem fits_minLines : Fits memory minLines :=
  ⟨Nat.le_refl _, by rw [Nat.sub_self, memory.grants_zero]⟩

end Corpus

namespace Synthesis

variable {σ : Type} [WordSource σ]

/-! ### Pieces of the sequence -/

theorem sourceAt_add (s : σ) (m : Nat) : ∀ k, sourceAt (sourceAt s m) k = sourceAt s (m + k)
  | 0 => rfl
  | k + 1 => by
    show (nextInstruction (sourceAt (sourceAt s m) k)).2 = _
    rw [sourceAt_add s m k]
    rfl

theorem instructionAt_add (s : σ) (m k : Nat) :
    instructionAt (sourceAt s m) k = instructionAt s (m + k) := by
  rw [instructionAt, sourceAt_add, instructionAt]

theorem map_range_add (s : σ) (m n : Nat) :
    (List.range m).map (instructionAt s) ++
        (List.range n).map (instructionAt (sourceAt s m)) =
      (List.range (m + n)).map (instructionAt s) := by
  have hpiece : (List.range n).map (instructionAt (sourceAt s m)) =
      (List.range n).map (instructionAt s ∘ (m + ·)) :=
    List.map_congr_left fun k _ => instructionAt_add s m k
  rw [List.range_add, List.map_append, List.map_map, hpiece]

/-! ### One request -/

theorem LineStream.pulls_eq : ∀ (k n : Nat) (s : σ),
    LineStream.pulls k ⟨n, s⟩ =
      ((instructions (min k n) s).1, ⟨n - min k n, (instructions (min k n) s).2⟩)
  | 0, n, s => by
    rw [Nat.zero_min]
    rfl
  | k + 1, 0, s => by
    rw [Nat.min_zero]
    rfl
  | k + 1, n + 1, s => by
    simp only [pulls, pull, pulls_eq k n, Nat.succ_min_succ, instructions, Nat.succ_sub_succ]

/-- The number of instructions that a request takes. -/
def Request.size : Request → Nat
  | .next => 1
  | .several count => count
  | .stream count taken => min taken count
  | .corpus memory total => if Corpus.Fits memory total then total - minLines else 0

/-- **One request** takes its number of instructions from the sequence. -/
theorem Request.answer_eq (s : σ) (r : Request) :
    (r.answer s).1.lines = (List.range r.size).map (instructionAt s) ∧
      (r.answer s).2 = sourceAt s r.size := by
  cases r with
  | next => exact ⟨rfl, rfl⟩
  | several count =>
    simp only [answer, size, instructions_eq, Answer.lines, and_self]
  | stream count taken =>
    simp only [answer, size, LineStream.pulls_eq, instructions_eq, Answer.lines, and_self]
  | corpus memory total =>
    by_cases h : Corpus.Fits memory total
    · simp only [answer, size, if_pos h, Corpus.generate_of_fits s h.1 h.2, instructions_eq,
        Answer.lines, and_self]
    · simp only [answer, size, if_neg h, Corpus.generate_of_not_fits h, Answer.lines,
        List.range_zero, List.map_nil, sourceAt, and_self]

/-! ### Requests one after another -/

/-- The number of instructions that requests take together. -/
def drawn : List Request → Nat
  | [] => 0
  | r :: rs => r.size + drawn rs

/-- **Requests one after another** take the beginning of the sequence. -/
theorem answers_eq : ∀ (rs : List Request) (s : σ),
    (answers rs s).1.flatMap Answer.lines = (List.range (drawn rs)).map (instructionAt s) ∧
      (answers rs s).2 = sourceAt s (drawn rs)
  | [], _ => ⟨rfl, rfl⟩
  | r :: rs, s => by
    obtain ⟨hlines, hsource⟩ := r.answer_eq s
    obtain ⟨ihlines, ihsource⟩ := answers_eq rs (sourceAt s r.size)
    simp only [answers, hsource]
    constructor
    · rw [List.flatMap_cons, hlines, ihlines, map_range_add, drawn]
    · rw [ihsource, sourceAt_add, drawn]

/-! ### Several synthesizers -/

namespace Session

/-- The request that an event makes to the synthesizer of a number. -/
def Event.requestTo (who : Nat) : Event → Option Request
  | .ask asked r => if asked = who then some r else none
  | .clone _ => none

/-- The requests to the synthesizer of a number, in order. -/
def requestsTo (who : Nat) (events : List Event) : List Request :=
  events.filterMap (Event.requestTo who)

/-- The answers of the synthesizer of a number, in order. -/
def answersOf (who : Nat) (log : List (Nat × Answer)) : List Answer :=
  (log.filter fun p => p.1 = who).map Prod.snd

theorem step_at {ss : Session σ} {who : Nat} {s : σ} (h : ss[who]? = some s) (e : Event) :
    match e.requestTo who with
    | some r => ss.step e = (some (who, (r.answer s).1), (ss.step e).2) ∧
        (ss.step e).2[who]? = some (r.answer s).2
    | none => answersOf who (ss.step e).1.toList = [] ∧ (ss.step e).2[who]? = some s := by
  obtain ⟨hlt, -⟩ := List.getElem?_eq_some_iff.mp h
  cases e with
  | ask asked r =>
    by_cases hwho : asked = who
    · subst hwho
      simp only [Event.requestTo, if_true, step, h]
      exact ⟨trivial, List.getElem?_set_self hlt⟩
    · simp only [Event.requestTo, if_neg hwho, step]
      cases hasked : ss[asked]? with
      | none => exact ⟨rfl, h⟩
      | some t =>
        refine ⟨?_, (List.getElem?_set_ne hwho).trans h⟩
        simp [answersOf, hwho]
  | clone asked =>
    simp only [Event.requestTo, step]
    cases ss[asked]? with
    | none => exact ⟨rfl, h⟩
    | some t => exact ⟨rfl, (List.getElem?_append_left hlt).trans h⟩

theorem answersOf_append (who : Nat) (log log' : List (Nat × Answer)) :
    answersOf who (log ++ log') = answersOf who log ++ answersOf who log' := by
  rw [answersOf, List.filter_append, List.map_append]
  rfl

/-- **A synthesizer among others** answers what it is asked as if it were alone. -/
theorem run_at {who : Nat} : ∀ (events : List Event) {ss : Session σ} {s : σ},
    ss[who]? = some s →
    answersOf who (run ss events).1 = (answers (requestsTo who events) s).1 ∧
      (run ss events).2[who]? = some (answers (requestsTo who events) s).2
  | [], _, _, h => ⟨rfl, h⟩
  | e :: events, ss, s, h => by
    have hstep := step_at h e
    simp only [run, requestsTo, List.filterMap_cons, answersOf_append]
    cases hr : e.requestTo who with
    | some r =>
      rw [hr] at hstep
      obtain ⟨hanswer, hsource⟩ := hstep
      obtain ⟨ihanswers, ihsource⟩ := run_at events hsource
      refine ⟨?_, ihsource⟩
      rw [ihanswers, hanswer]
      simp [answersOf, answers, requestsTo]
    | none =>
      rw [hr] at hstep
      obtain ⟨hanswer, hsource⟩ := hstep
      obtain ⟨ihanswers, ihsource⟩ := run_at events hsource
      exact ⟨by rw [hanswer, ihanswers]; rfl, ihsource⟩

/-- A clone stands where the synthesizer stands that it was made of. -/
theorem step_clone {ss : Session σ} {who : Nat} {s : σ} (h : ss[who]? = some s) :
    (ss.step (.clone who)).1 = none ∧ (ss.step (.clone who)).2[who]? = some s ∧
      (ss.step (.clone who)).2[ss.length]? = some s := by
  obtain ⟨hlt, -⟩ := List.getElem?_eq_some_iff.mp h
  simp only [step, h]
  exact ⟨trivial, (List.getElem?_append_left hlt).trans h, List.getElem?_concat_length⟩

end Session

/-- **The stream is cut the same way by every request.** The answers to any requests are
the beginning of the sequence of the synthesizer, and leave it at the place after them. A
corpus that is too small, or for which the memory has no room when it is asked for, takes
nothing; for two lines there is always room, and for 2^63 and more never. A synthesizer of which
a clone was made and the clone go on from the same place, each with the requests made to itself,
whatever is asked in between. A draw that never ends has a value here, so that nothing is
assumed of the source. -/
theorem stream_cut_by_requests (s : σ) (rs : List Request) :
    (answers rs s).1.flatMap Answer.lines = (List.range (drawn rs)).map (instructionAt s) ∧
      (answers rs s).2 = sourceAt s (drawn rs) ∧
      (∀ (memory : Memory) (total : Nat) (t : σ),
        ((∃ c, (Corpus.generate memory total t).1 = .ok c) ↔ Corpus.Fits memory total) ∧
          (¬Corpus.Fits memory total →
            Corpus.generate memory total t = (.error (Corpus.sizeFailure total), t))) ∧
      (∀ memory : Memory, Corpus.Fits memory 2 ∧
        ∀ total, total < 2 ∨ 1 <<< 63 ≤ total → ¬Corpus.Fits memory total) ∧
      ∀ (ss : Session σ) (who : Nat) (t : σ) (events : List Session.Event), ss[who]? = some t →
        ∀ either, either = who ∨ either = ss.length →
          Session.answersOf either (Session.run ss (.clone who :: events)).1 =
              (answers (Session.requestsTo either events) t).1 ∧
            (Session.run ss (.clone who :: events)).2[either]? =
              some (sourceAt t (drawn (Session.requestsTo either events))) := by
  obtain ⟨hlines, hsource⟩ := answers_eq rs s
  refine ⟨hlines, hsource,
    fun _ _ t => ⟨Corpus.generate_ok_iff t, fun h => Corpus.generate_of_not_fits h t⟩,
    fun memory => ⟨Corpus.fits_minLines, ?_⟩, ?_⟩
  · rintro total (hsmall | hlarge)
    · exact fun hfits => absurd hfits.1 (Nat.not_le.mpr hsmall)
    · exact Corpus.not_fits_of_le hlarge
  · intro ss who t events h either heither
    obtain ⟨hnone, horiginal, hclone⟩ := Session.step_clone h
    have hat : (ss.step (.clone who)).2[either]? = some t := by
      rcases heither with rfl | rfl
      · exact horiginal
      · exact hclone
    obtain ⟨hanswers, hleft⟩ := Session.run_at events hat
    simp only [Session.run, hnone, Option.toList_none, List.nil_append]
    exact ⟨hanswers, by rw [hleft, (answers_eq _ t).2]⟩

end Synthesis
end StressBench
