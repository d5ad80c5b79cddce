import SourceIndex.Proofs.Exclusion.Directories

set_option autoImplicit false

namespace SourceIndex.Exclusion

open PathName (normalized)

/-- Whether a pattern stands in a path as it is shown, as both are written or with backslashes taken
for slashes in both. -/
def StandsIn (pattern : String) (path : PathName) : Prop :=
  pattern.toList <:+: Text.decodeLossy path ∨ normalized pattern <:+: normalized path

/-- Whether the patterns take effect on a path: it is left out if one of them stands in it, and by
the built-in rules alone if none does. -/
structure AppliesPatterns (rules : Exclusion) (path : PathName) : Prop where
  excludes : (∃ pattern ∈ rules.patterns, StandsIn pattern path) → rules.skips path = true
  keeps : (¬ ∃ pattern ∈ rules.patterns, StandsIn pattern path) → skipsFile path = false →
    rules.skips path = false

/-- What stands in a path as both are written also does with backslashes taken for slashes. -/
theorem standsIn_iff (pattern : String) (path : PathName) :
    StandsIn pattern path ↔ normalized pattern <:+: normalized path := by
  constructor
  · rintro (written | read)
    · rw [normalized, Text.encode, Text.decodeLossy_utf8]
      exact written.map _
    · exact read
  · exact .inr

theorem normalized_of_not_mem (pattern : String) (plain : '\\' ∉ pattern.toList) :
    normalized pattern = pattern.toList := by
  rw [normalized, Text.encode, Text.decodeLossy_utf8]
  refine (List.map_congr_left fun c inside => if_neg ?_).trans (List.map_id' pattern.toList)
  exact fun backslash => plain (beq_iff_eq.mp backslash ▸ inside)

theorem skips_iff (rules : Exclusion) (path : PathName) : rules.skips path = true ↔
    skipsFile path = true ∨ ∃ pattern ∈ rules.patterns, pattern.toList <:+: normalized path := by
  simp only [skips, Bool.or_eq_true, List.any_eq_true, Text.hasInfix_iff]

theorem backslash_not_mem_of_found {pattern : String} {path : PathName}
    (found : pattern.toList <:+: normalized path) : '\\' ∉ pattern.toList :=
  fun backslash => backslash_not_mem_normalized path (found.mem backslash)

/-- A pattern is found in the paths that it stands in, if it has no backslash. -/
theorem found_iff (pattern : String) (path : PathName) : pattern.toList <:+: normalized path ↔
    '\\' ∉ pattern.toList ∧ StandsIn pattern path := by
  rw [standsIn_iff]
  constructor
  · intro found
    have plain := backslash_not_mem_of_found found
    exact ⟨plain, (normalized_of_not_mem pattern plain).symm ▸ found⟩
  · rintro ⟨plain, stands⟩
    rwa [normalized_of_not_mem pattern plain] at stands

/-- The patterns take effect on a path if and only if it is left out, or no pattern with a backslash
stands in it. -/
theorem appliesPatterns_iff (rules : Exclusion) (path : PathName) :
    rules.AppliesPatterns path ↔ rules.skips path = true ∨
      ∀ pattern ∈ rules.patterns, '\\' ∈ pattern.toList → ¬ StandsIn pattern path := by
  constructor
  · intro applies
    refine or_iff_not_imp_left.mpr fun kept pattern among _ stands => kept ?_
    exact applies.excludes ⟨pattern, among, stands⟩
  · intro either
    constructor
    · rintro ⟨pattern, among, stands⟩
      rcases either with skipped | absent
      · exact skipped
      · have plain : '\\' ∉ pattern.toList := fun backslash =>
          absent pattern among backslash stands
        have found := (found_iff pattern path).mpr ⟨plain, stands⟩
        exact (skips_iff rules path).mpr (.inr ⟨pattern, among, found⟩)
    · intro none builtIn
      rw [← Bool.not_eq_true, skips_iff]
      rintro (skipped | ⟨pattern, among, found⟩)
      · exact absurd (builtIn.symm.trans skipped) Bool.false_ne_true
      · exact none ⟨pattern, among, ((found_iff pattern path).mp found).2⟩

/-- A pattern with a backslash leaves out no file, even if it stands in the path as both are
written. -/
theorem not_appliesPatterns_of_backslash :
    ¬ (⟨["gen\\api"], []⟩ : Exclusion).AppliesPatterns "repo\\gen\\api\\server.go" := by
  intro applies
  have stands : StandsIn "gen\\api" "repo\\gen\\api\\server.go" :=
    .inl ⟨"repo\\".toList, "\\server.go".toList, by decide⟩
  have skipped := applies.excludes ⟨_, List.mem_cons_self, stands⟩
  exact absurd skipped (by decide)

end SourceIndex.Exclusion
