import TableScript.Proofs.Read.Replacement

namespace TableScript

/-- The lines that a header needs in front of its body are the same whatever the body is. -/
theorem TableHeader.bodyLines?_front {header : TableHeader} {following lines : List SourceLine}
    (begun : header.bodyLines? following = some lines) :
    ∃ front, following = front ++ lines ∧ ∀ others, header.bodyLines? (front ++ others) = some others := by
  unfold bodyLines? at begun ⊢
  by_cases begins : header.opensBody = true
  · rw [if_pos begins] at begun
    exact ⟨[], Option.some.inj begun, fun others => if_pos begins⟩
  · rw [if_neg begins] at begun
    cases following with
    | nil => cases begun
    | cons brace rest =>
        dsimp only at begun
        split at begun
        · rename_i opening
          refine ⟨[brace], congrArg (brace :: ·) (Option.some.inj begun), fun others => ?_⟩
          rw [if_neg begins, List.singleton_append]
          exact if_pos opening
        · cases begun

/-- What stands behind a skipped block may be replaced. -/
theorem Skipped.exists_taken (header : SourceLine) (lines : List SourceLine) :
    ∃ taken, lines = taken ++ (ofHeader header lines).rest ∧
      ∀ block, Replaces (ofHeader header lines).rest block →
        ofHeader header (taken ++ block) = ⟨(ofHeader header lines).closed, block⟩ := by
  obtain ⟨taken, whole⟩ := ofHeader_suffix header lines
  refine ⟨taken, whole.symm, fun block replaces => ?_⟩
  have kept : (ofHeader header lines).rest <:+
      (ofHeader header (taken ++ (ofHeader header lines).rest)).rest :=
    ⟨[], (congrArg (fun front => (ofHeader header front).rest) whole).symm⟩
  have cut := ofHeader_append kept
  rw [whole] at cut
  have nothing : (ofHeader header taken).rest = [] := by
    simpa [before] using (congrArg Skipped.rest cut).symm
  rw [ofHeader_replace kept replaces, cut]
  simp only [before, nothing, List.nil_append]

namespace Body

variable {line first : SourceLine} {lines taken tail before after : List SourceLine} {item : BodyItem}
  {earlier later : List BodyItem}

/-- A body begins with an item, which takes a line and perhaps some that follow it. Other lines behind these
do not change it. -/
structure Begins (first : SourceLine) (item : BodyItem) (taken tail : List SourceLine) : Prop where
  plain : LineKind.opensBlock first.text.toList = false
  column : ∀ line, item = .column line → line = first ∧ taken = []
  goesOn : ofLines (first :: (taken ++ tail)) = (ofLines tail).cons item
  goesOnBefore : ∀ block, Replaces tail block →
    ofLines (first :: (taken ++ block)) = (ofLines block).cons item

theorem Begins.ofLine (plain : LineKind.opensBlock first.text.toList = false)
    (column : ∀ line, item = .column line → line = first)
    (goesOn : ∀ block, ofLines (first :: block) = (ofLines block).cons item) (tail : List SourceLine) :
    Begins first item [] tail where
  plain := plain
  column := fun line same => ⟨column line same, rfl⟩
  goesOn := goesOn tail
  goesOnBefore := fun block _ => goesOn block

theorem exists_eq_append_and_begins (nonempty : (ofLines lines).items ≠ []) :
    ∃ first item taken tail, lines = first :: (taken ++ tail) ∧ Begins first item taken tail := by
  cases lines with
  | nil => simp [ofLines] at nonempty
  | cons first rest =>
      rw [ofLines] at nonempty
      split at nonempty
      · exact absurd rfl nonempty
      · rename_i other
        split at nonempty
        · exact absurd rfl nonempty
        · rename_i inside
          have plain : LineKind.opensBlock first.text.toList = false := Bool.eq_false_iff.mpr inside
          cases kind : LineKind.classify true first.text.toList with
          | columnLike =>
              have goesOn : ∀ block, ofLines (first :: block) = (ofLines block).cons (.column first) := by
                intro block
                rw [ofLines, if_neg other, if_neg inside, kind]
              refine ⟨first, .column first, [], rest, rfl, .ofLine plain (fun line same => ?_) goesOn rest⟩
              cases same
              rfl
          | note =>
              have goesOn : ∀ block, ofLines (first :: block) = (ofLines block).cons (.note first) := by
                intro block
                rw [ofLines, if_neg other, if_neg inside, kind]
              refine ⟨first, .note first, [], rest, rfl, .ofLine plain (fun line same => ?_) goesOn rest⟩
              cases same
          | indexes =>
              obtain ⟨taken, whole, replaced⟩ := Skipped.exists_taken first rest
              have goesOn : ∀ block, Skipped.ofHeader first (taken ++ block) =
                    ⟨(Skipped.ofHeader first rest).closed, block⟩ →
                  ofLines (first :: (taken ++ block)) =
                    (ofLines block).cons (.indexes first (Skipped.ofHeader first rest).closed) := by
                intro block skipped
                rw [ofLines, if_neg other, if_neg inside, kind]
                dsimp only
                rw [skipped]
              refine ⟨first, .indexes first (Skipped.ofHeader first rest).closed, taken, _,
                congrArg (first :: ·) whole, plain, fun line same => ?_, goesOn _ (by rw [← whole]),
                fun block replaces => goesOn block (replaced block replaces)⟩
              cases same
          | table | ref | enum | project | tableGroup | brace | unknown =>
              have goesOn : ∀ block, ofLines (first :: block) = (ofLines block).cons (.other first) := by
                intro block
                rw [ofLines, if_neg other, if_neg inside, kind]
              refine ⟨first, .other first, [], rest, rfl, .ofLine plain (fun line same => ?_) goesOn rest⟩
              cases same

/-- The line of a column has its place among the lines of a body. Without it the other items are the same,
unless a brace is behind it. -/
structure HasPlace (lines : List SourceLine) (earlier : List BodyItem) (line : SourceLine)
    (later : List BodyItem) (before after : List SourceLine) : Prop where
  split : lines = before ++ line :: after
  plain : LineKind.opensBlock line.text.toList = false
  without : (∀ next ∈ after.head?, next.isOpening = false) →
    ofLines (before ++ after) = { ofLines lines with items := earlier ++ later }

/-- The items of a body stand in its lines one after the other. In front of any of them other lines may stand
behind those of the items before. -/
theorem exists_itemPlace (items : (ofLines lines).items = earlier ++ item :: later) :
    ∃ before tail, lines = before ++ tail ∧ (ofLines tail).items = item :: later ∧
      ∀ block, Replaces tail block →
        ofLines (before ++ block) = { ofLines block with items := earlier ++ (ofLines block).items } := by
  induction length : lines.length using Nat.strong_induction_on generalizing lines earlier with
  | _ count ih =>
      cases earlier with
      | nil => exact ⟨[], lines, rfl, items, fun _ _ => rfl⟩
      | cons first earlier =>
          have nonempty : (ofLines lines).items ≠ [] := by simp [items]
          obtain ⟨line, begun, taken, rest, rfl, begins⟩ := exists_eq_append_and_begins nonempty
          rw [begins.goesOn] at items
          obtain ⟨rfl, others⟩ := List.cons.inj items
          have shorter : rest.length < count := by
            rw [← length, List.length_cons, List.length_append]
            omega
          obtain ⟨before, tail, rfl, inside, replaced⟩ := ih rest.length shorter others rfl
          refine ⟨line :: (taken ++ before), tail, by simp, inside, fun block replaces => ?_⟩
          have whole := begins.goesOnBefore (before ++ block) (replaces.behind before)
          rw [replaced block replaces] at whole
          rw [List.cons_append, List.append_assoc, whole]
          rfl

/-- A body that begins with a column begins with its line. -/
theorem exists_cons_of_items_column (items : (ofLines lines).items = .column line :: later) :
    ∃ after, lines = line :: after ∧ line.isClosing = false ∧
      LineKind.opensBlock line.text.toList = false ∧
      LineKind.classify true line.text.toList = .columnLike := by
  cases lines with
  | nil => simp [ofLines] at items
  | cons first rest =>
      rw [ofLines] at items
      split at items
      · cases items
      · rename_i other
        split at items
        · cases items
        · rename_i inside
          split at items <;> cases items
          exact ⟨rest, rfl, Bool.eq_false_iff.mpr other, Bool.eq_false_iff.mpr inside, by assumption⟩

theorem exists_place (items : (ofLines lines).items = earlier ++ .column line :: later) :
    ∃ before after, HasPlace lines earlier line later before after := by
  obtain ⟨before, tail, rfl, inside, replaced⟩ := exists_itemPlace items
  obtain ⟨after, rfl, other, plain, column⟩ := exists_cons_of_items_column inside
  rw [ofLines_column other plain column] at inside
  obtain ⟨_, rfl⟩ := List.cons.inj inside
  refine ⟨before, after, rfl, plain, fun next => ?_⟩
  rw [replaced after (.ofMissing plain next []), replaced (line :: after) (.ofSameHead line after after),
    ofLines_column other plain column]
  rfl

end Body

end TableScript
