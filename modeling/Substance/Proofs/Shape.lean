import Substance.Proofs.Growth

/-!
# The shape of generated programs

Over a usable schema and setting a generator with no names and no statements always comes to a
program, and that is composed of a header and blocks as the policy has it
(`addProgram_composed`).  The statements stand in one flat list; header and blocks are how it splits.
-/

namespace Substance

open Substance.Random

/-- A schema is usable when it declares a type and every type has a name. -/
theorem Schema.fault?_eq_none_iff (s : Schema) :
    s.fault? = none ↔ s.typeNames ≠ [] ∧ "" ∉ s.typeNames := by
  rw [fault?, Catalog.isEmpty, ← typeNames]
  split
  · next h => simp [List.isEmpty_iff.mp h]
  · next h =>
    rw [List.isEmpty_iff] at h
    split <;> simp_all

namespace Generator

variable {σ : Type} [Source σ]

/-- Over a usable schema and setting a program is added, with all that `Composed` says. -/
theorem extends_addProgram_total {schema : Schema} {setting : Setting} (hs : schema.fault? = none)
    (ht : setting.fault? = none) (before : List Statement) :
    Extends (σ := σ) (addProgram schema setting) before
      (fun p added n => p.statements = before ++ added ∧
        ∃ header blocks, Composed schema setting before p header blocks ∧
          n = 2 + header.length + 2 * blocks.length +
            setting.policy.draws * argumentCount added) Never := by
  obtain ⟨htypes, -⟩ := schema.fault?_eq_none_iff.mp hs
  obtain ⟨-, hlength⟩ := setting.fault?_eq_none_iff.mp ht
  refine (extends_addProgram schema setting).mono (fun _ _ _ => id) ?_
  rintro e (⟨-, hlt⟩ | ⟨-, hnil, -⟩)
  · omega
  · exact htypes hnil

/-- A generator with no names and no statements comes to a program, which opens with one or two
declarations of declared types and goes on with blocks, in a number between the bounds of the
setting. -/
theorem addProgram_composed {schema : Schema} {setting : Setting} (hs : schema.fault? = none)
    (ht : setting.fault? = none) (g : Generator σ) (hg : g.IsClear) :
    ∃ p h header blocks, addProgram schema setting g = .ok p h ∧
      Composed schema setting [] p header blocks ∧ p.bodyCount = blocks.length := by
  obtain ⟨p, h, hr, -, added, n, -, -, -, header, blocks, hc, -⟩ :=
    (extends_addProgram_total hs ht []).exists_ok hg.coherent hg.statements
  obtain ⟨hmin, -⟩ := setting.fault?_eq_none_iff.mp ht
  have hbody := hc.bodyCount
  have hrange := hc.bodyRange
  exact ⟨p, h, header, blocks, hr, hc, by omega⟩

/-- One program over sets and points. -/
theorem addProgram_composed_setsAndPoints :
    Schema.setsAndPoints.fault? = none ∧ Setting.fault? ⟨2, 5, .mixed⟩ = none ∧
      ∃ p h header blocks, addProgram Schema.setsAndPoints ⟨2, 5, .mixed⟩
          (new (Twister.ofSeed 7)) = .ok p h ∧
        Composed Schema.setsAndPoints ⟨2, 5, .mixed⟩ [] p header blocks ∧
        p.bodyCount = blocks.length :=
  ⟨by decide, by decide, addProgram_composed (by decide) (by decide) _ (isClear_new _)⟩

end Generator

end Substance
