import TableScript.Proofs.Grammar.ReferenceLine
import TableScript.Proofs.LineKind
import TableScript.Proofs.Read.Sound.Inline
import TableScript.Read.Cursor

namespace TableScript

theorem Cursor.exists_advance {cursor : Cursor} (inFront : 0 ≤ cursor.position + 1)
    (next : cursor.hasNext = true) : ∃ line, cursor.advance.2 = .ok line := by
  have inside : cursor.position + 1 < cursor.lines.length := by simpa [hasNext] using next
  have index : (cursor.position + 1).toNat < cursor.lines.length := by omega
  refine ⟨cursor.lines[(cursor.position + 1).toNat], ?_⟩
  have found : positionIndex cursor.lines.length (cursor.position + 1) =
      .ok (cursor.position + 1).toNat := by
    have notNegative : ¬cursor.position + 1 < 0 := by omega
    simp only [positionIndex, if_neg notNegative, if_pos (And.intro inFront inside)]
  simp only [advance, atPosition, found, bind, Except.bind, List.getElem?_eq_getElem index]

/-- An endpoint that was read falls into two or three parts at its dots. -/
theorem Endpoint.length_parts {text rest : List Char} {endpoint : Endpoint}
    (read : Endpoint.read? text = some (endpoint, rest)) :
    ∃ matched, text = matched ++ rest ∧
      ((matched.splitOn '.').length = 2 ∨ (matched.splitOn '.').length = 3) := by
  obtain ⟨same, wordy⟩ := Endpoint.eq_written_append_of_read? read
  obtain ⟨schema, table, column⟩ := endpoint
  have noDot : ∀ {word : List Char}, IsWordText word → '.' ∉ word := by
    intro word words dot
    have isWord := words.2 '.' dot
    rw [isWord_dot] at isWord
    cases isWord
  refine ⟨_, same, ?_⟩
  cases schema with
  | none =>
      refine .inl ?_
      rw [toList_written_two]
      have parts : (['.'].intercalate [table.toList, column.toList]).splitOn '.' = _ :=
        List.splitOn_intercalate '.' (by simpa using ⟨noDot wordy.table, noDot wordy.column⟩)
          (by simp)
      simpa [List.intercalate] using congrArg List.length parts
  | some schema =>
      refine .inr ?_
      have schemaWord := wordy.schema schema rfl
      rw [toList_written_three _ _ schemaWord.1]
      have parts : (['.'].intercalate [schema.toList, table.toList, column.toList]).splitOn '.' =
          _ :=
        List.splitOn_intercalate '.'
          (by simpa using ⟨noDot schemaWord, noDot wordy.table, noDot wordy.column⟩) (by simp)
      simpa [List.intercalate] using congrArg List.length parts

/-- Reading a script never stops before its end. No diagnostic says that it did; no step fails, so that
no table is declared twice, and every inline reference that is dropped was there. What the steps take
for granted is so: a line that is taken for a note has the text of one, what is taken for an index
block in a body is one at the top level too, an endpoint has two or three parts, and a cursor with a
next line can move to it. -/
theorem ReadState.completes (policy : Policy) (script : String) :
    (∀ diagnostic ∈ (Reading.ofScript policy script).errors ++
        (Reading.ofScript policy script).warnings, diagnostic.kind ≠ .internal) ∧
      (readLines policy .none {} (SourceLine.ofScript script)).2 = none ∧
      (∃ after, checkInlines policy.targetCheck
        (readLines policy .none {} (SourceLine.ofScript script)).1 = .ok after) ∧
      (∀ text, LineKind.classify true text = .note → (noteText? text).isSome = true) ∧
      (∀ text, LineKind.classify true text = .indexes → LineKind.classify false text = .indexes) ∧
      (∀ text endpoint rest, Endpoint.read? text = some (endpoint, rest) →
        ∃ matched, text = matched ++ rest ∧
          ((matched.splitOn '.').length = 2 ∨ (matched.splitOn '.').length = 3)) ∧
      ∀ cursor : Cursor, 0 ≤ cursor.position + 1 → cursor.hasNext = true →
        ∃ line, cursor.advance.2 = .ok line := by
  obtain ⟨read, after, lines, _, done, checked, complete⟩ := ofLines_checked policy script
  refine ⟨?_, ?_, ?_, fun text classified => ?_, fun text => LineKind.classify_top_of_indexes,
    fun text endpoint rest => Endpoint.length_parts, fun cursor => Cursor.exists_advance⟩
  · intro diagnostic member
    have found : diagnostic ∈ after.journal := by
      simp only [Reading.ofScript, Reading.ofInterrupted, complete] at member
      rcases List.mem_append.mp member with error | warning
      · exact List.mem_of_mem_filter error
      · exact List.mem_of_mem_filter warning
    exact checked.grounded.calm diagnostic found
  · rw [lines]
  · rw [lines]
    exact ⟨after, done⟩
  · exact noteText?_isSome (LineKind.precedes_of_classify_note classified)

end TableScript
