import TableScript.Proofs.Read.Compared.Script
import TableScript.Proofs.Read.Sound.Inline

namespace TableScript

/-- Lines that have the same place among the lines of their scripts that count. -/
def SourceLine.SamePlace (script other : String) (line same : SourceLine) : Prop :=
  ∃ index : Nat, (ofScript script)[index]? = some line ∧ (ofScript other)[index]? = some same

variable {script other : String}

theorem SourceLine.forall₂_samePlace
    (sameLength : (ofScript script).length = (ofScript other).length) :
    List.Forall₂ (SamePlace script other) (ofScript script) (ofScript other) := by
  refine List.forall₂_iff_get.mpr ⟨sameLength, fun index inside within => ⟨index, ?_, ?_⟩⟩
  · exact List.getElem?_eq_getElem inside
  · exact List.getElem?_eq_getElem within

/-- Scripts whose lines say the same, side by side from their beginnings. -/
def Comparison.ofContent
    (sameContent : (SourceLine.ofScript other).map SourceLine.text =
      (SourceLine.ofScript script).map SourceLine.text) : Comparison where
  pairs := SourceLine.SamePlace script other
  sameText := by
    rintro line same ⟨index, first, second⟩
    have text := congrArg (·[index]?) sameContent
    simp only [List.getElem?_map, first, second, Option.map_some] at text
    exact Option.some.inj text

/-- Reading gives the same for scripts whose lines say the same. Diagnostics that correspond say the same
and stand at the same distance from where the contents of the same line begin. -/
theorem Reading.ofScript_alike (policy : Policy)
    (sameContent : (SourceLine.ofScript other).map SourceLine.text =
      (SourceLine.ofScript script).map SourceLine.text) :
    let first := ofScript policy script
    let second := ofScript policy other
    second.tables = first.tables ∧ second.references = first.references ∧
      second.features = first.features ∧ second.lineCount = first.lineCount ∧
      List.Forall₂ (Diagnostic.Alike (SourceLine.SamePlace script other)) first.errors second.errors ∧
      List.Forall₂ (Diagnostic.Alike (SourceLine.SamePlace script other)) first.warnings
        second.warnings := by
  have sameLength : (SourceLine.ofScript script).length = (SourceLine.ofScript other).length := by
    simpa using (congrArg List.length sameContent).symm
  obtain ⟨read, after, lines, _, checked, _, whole⟩ := ReadState.ofLines_checked policy script
  obtain ⟨reread, last, others, _, rechecked, _, again⟩ := ReadState.ofLines_checked policy other
  have initial : ReadState.Alike (.ofContent sameContent) {} {} :=
    ReadState.Alike.refl {} _ (Comparison.ofContent sameContent).sameText (by simp)
  obtain ⟨_, sameLines, together⟩ :=
    initial.readLines (SourceLine.forall₂_samePlace sameLength) lines
  rw [others] at sameLines
  cases sameLines
  obtain ⟨_, sameCheck, alike⟩ := together.checkInlines checked
  rw [rechecked] at sameCheck
  cases sameCheck
  have found : ∀ severity, List.Forall₂ (Diagnostic.Alike (SourceLine.SamePlace script other))
      (after.journal.ofSeverity severity) (last.journal.ofSeverity severity) := by
    intro severity
    obtain ⟨one, two, first, second, same⟩ := alike.ofSeverity severity
    rw [first, second]
    exact same
  have features : last.featuresUsed = after.featuresUsed := by
    simpa [Comparison.ofContent] using alike.featuresUsed
  simp only [ofScript, ofInterrupted, whole, again]
  exact ⟨congrArg Catalog.tables alike.catalog, alike.references, features, sameLength.symm,
    found .error, found .warning⟩

/-- An index block, a line that is no column and a reference to nowhere, set out in two ways. -/
theorem Reading.ofScript_alike_indented :
    let script := "Table a \x7b\n  id integer [ref: > b.x]\n  ?\n" ++
      "  indexes \x7b\n    id\n  \x7d\n\x7d\nRef: a.id > b.x"
    let other := "// tables\nTable a \x7b  \n\n\tid integer [ref: > b.x]\n?\n" ++
      "indexes \x7b\nid\n\x7d\n  \x7d\n\n    Ref: a.id > b.x "
    (SourceLine.ofScript other).map SourceLine.text =
        (SourceLine.ofScript script).map SourceLine.text ∧
      (ofScript ⟨.warn, true⟩ other).tables = (ofScript ⟨.warn, true⟩ script).tables ∧
      List.Forall₂ (Diagnostic.Alike (SourceLine.SamePlace script other))
        (ofScript ⟨.warn, true⟩ script).warnings (ofScript ⟨.warn, true⟩ other).warnings := by
  intro script other
  have sameContent : (SourceLine.ofScript other).map SourceLine.text =
      (SourceLine.ofScript script).map SourceLine.text := by decide +kernel
  obtain ⟨tables, _, _, _, _, warnings⟩ := ofScript_alike ⟨.warn, true⟩ sameContent
  exact ⟨sameContent, tables, warnings⟩

end TableScript
