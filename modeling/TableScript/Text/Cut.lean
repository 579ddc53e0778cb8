namespace TableScript.Text

/-- What follows `word` when the text starts with it. -/
def after? : (word text : List Char) → Option (List Char)
  | [], text => some text
  | _ :: _, [] => none
  | w :: word, c :: text => if w = c then after? word text else none

theorem after?_append (word rest : List Char) : after? word (word ++ rest) = some rest := by
  induction word with
  | nil => rfl
  | cons w word ih => simpa [after?] using ih

theorem eq_append_of_after? {word text rest : List Char} (found : after? word text = some rest) :
    text = word ++ rest := by
  induction word generalizing text with
  | nil =>
      rw [after?] at found
      exact Option.some.inj found
  | cons w word ih =>
      cases text with
      | nil => simp [after?] at found
      | cons c text =>
          by_cases same : w = c
          · simp only [after?, same, if_true] at found
            rw [ih found, same, List.cons_append]
          · simp [after?, same] at found

def cutAtFirst (mark : Char) : List Char → Option (List Char × List Char)
  | [] => none
  | c :: rest =>
      if c = mark then some ([], rest)
      else (cutAtFirst mark rest).map fun (before, behind) => (c :: before, behind)

def cutAtLast (mark : Char) : List Char → Option (List Char × List Char)
  | [] => none
  | c :: rest =>
      match cutAtLast mark rest with
      | some (before, behind) => some (c :: before, behind)
      | none => if c = mark then some ([], rest) else none

def join (separator : String) (pieces : List String) : String :=
  String.ofList (separator.toList.intercalate (pieces.map String.toList))

end TableScript.Text
