import TableScript.Text.LetterCase

/-! Letter case and ASCII. Only the Kelvin sign and the dotted capital I have ASCII letters in their lower
case, and the lower case of the latter is not all ASCII. So a text whose lower case is ASCII without a `k` is
ASCII itself, and its two cases are letter by letter those of ASCII. -/

namespace TableScript.Text

variable {c : Char} {text before : List Char}

/-- The letters of a run map to characters that are not ASCII. -/
def CaseRun.StaysHigh (run : CaseRun) : Prop :=
  128 ≤ run.first + run.offset ∧
    (run.last + run.offset < 0xD800 ∨
      (0xDFFF < run.first + run.offset ∧ run.last + run.offset < 0x110000))

instance : DecidablePred CaseRun.StaysHigh := fun _ => inferInstanceAs (Decidable (_ ∧ _))

/-- Only the Kelvin sign, a run of its own, maps to ASCII. -/
theorem staysHigh_or_kelvin : ∀ run ∈ lowerRuns, run.StaysHigh ∨
    (run.last = run.first ∧ Char.ofNat (run.first + run.offset).toNat = 'k') := by
  decide +kernel

theorem CaseRun.StaysHigh.le_toNat {run : CaseRun} {code : Nat} (stays : run.StaysHigh)
    (lower : run.first ≤ code) (upper : code ≤ run.last) :
    128 ≤ (Char.ofNat (code + run.offset).toNat).toNat := by
  unfold StaysHigh at stays
  have valid : (code + run.offset).toNat.isValidChar := by
    unfold Nat.isValidChar
    omega
  rw [Char.ofNat, dif_pos valid]
  change 128 ≤ (code + run.offset).toNat
  omega

theorem mapRuns_lowerRuns (high : 128 ≤ c.toNat) :
    128 ≤ (mapRuns lowerRuns c).toNat ∨ mapRuns lowerRuns c = 'k' := by
  unfold mapRuns
  cases found : lowerRuns.find? (·.contains c.toNat) with
  | none => exact .inl high
  | some run =>
      have inside := List.find?_some found
      simp only [CaseRun.contains, Bool.and_eq_true, decide_eq_true_eq] at inside
      obtain ⟨⟨lower, upper⟩, _⟩ := inside
      rcases staysHigh_or_kelvin run (List.mem_of_find?_eq_some found) with stays | ⟨single, kelvin⟩
      · exact .inl (stays.le_toNat lower upper)
      · right
        have code : c.toNat = run.first := by omega
        dsimp only
        rw [code, kelvin]

/-- The lower case of a character that is not ASCII shows that it is not, unless it is a `k`. -/
theorem exists_mem_lowerChar (high : 128 ≤ c.toNat) :
    ∃ d ∈ lowerChar c, 128 ≤ d.toNat ∨ d = 'k' := by
  rw [lowerChar, if_neg (by omega)]
  split
  · exact ⟨'\u0307', by simp, .inl (by decide)⟩
  · exact ⟨_, List.mem_singleton_self _, mapRuns_lowerRuns high⟩

theorem toNat_lt_of_lowerAfter (plain : ∀ d ∈ lowerAfter before text, d.toNat < 128 ∧ d ≠ 'k') :
    ∀ c ∈ text, c.toNat < 128 := by
  induction text generalizing before with
  | nil => simp
  | cons first rest ih =>
      rw [lowerAfter] at plain
      have later : ∀ c ∈ rest, c.toNat < 128 :=
        ih fun d member => plain d (List.mem_append_right _ member)
      refine List.forall_mem_cons.mpr ⟨?_, later⟩
      refine Nat.lt_of_not_le fun high => ?_
      obtain ⟨d, member, notPlain⟩ : ∃ d ∈ (if first = capitalSigma then
          if meetsCased before && !meetsCased rest then ['\u03C2'] else ['\u03C3']
        else lowerChar first), 128 ≤ d.toNat ∨ d = 'k' := by
        split
        · split
          · exact ⟨_, List.mem_singleton_self _, .inl (by decide)⟩
          · exact ⟨_, List.mem_singleton_self _, .inl (by decide)⟩
        · exact exists_mem_lowerChar high
      have shown := plain d (List.mem_append_left _ member)
      rcases notPlain with above | letter
      · omega
      · exact shown.2 letter

theorem lowerAfter_eq_map (plain : ∀ c ∈ text, c.toNat < 128) :
    lowerAfter before text = text.map Char.toLower := by
  induction text generalizing before with
  | nil => rfl
  | cons first rest ih =>
      obtain ⟨low, later⟩ := List.forall_mem_cons.mp plain
      have notSigma : first ≠ capitalSigma := by
        rintro rfl
        exact absurd low (by decide)
      rw [lowerAfter, if_neg notSigma, lowerChar, if_pos low, ih later]
      rfl

theorem upper_eq_map (plain : ∀ c ∈ text, c.toNat < 128) : upper text = text.map Char.toUpper := by
  have each : ∀ c ∈ text, upperChar c = [c.toUpper] := fun c member => by
    rw [upperChar, if_pos (plain c member)]
  rw [upper, List.flatMap, List.map_congr_left each]
  exact List.map_eq_flatMap.symm

theorem toUpper_toLower (low : c.toNat < 128) : c.toLower.toUpper = c.toUpper := by
  have each : ∀ code < 128, (Char.ofNat code).toLower.toUpper = (Char.ofNat code).toUpper := by decide
  simpa only [Char.ofNat_toNat] using each c.toNat low

theorem upper_eq_of_lower (plain : ∀ d ∈ lower text, d.toNat < 128 ∧ d ≠ 'k') :
    upper text = (lower text).map Char.toUpper := by
  have low := toNat_lt_of_lowerAfter plain
  rw [upper_eq_map low, lower, lowerAfter_eq_map low, List.map_map]
  exact List.map_congr_left fun c member => (toUpper_toLower (low c member)).symm

end TableScript.Text
