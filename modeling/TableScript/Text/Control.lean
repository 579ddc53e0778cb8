import TableScript.Text.Character
import TableScript.Text.Cut

namespace TableScript.Text.Control

def escape : Char := '\x1b'

def isParameter (c : Char) : Bool := 0x30 ≤ c.toNat && c.toNat ≤ 0x3F
def isIntermediate (c : Char) : Bool := 0x20 ≤ c.toNat && c.toNat ≤ 0x2F
def isFinal (c : Char) : Bool := 0x40 ≤ c.toNat && c.toNat ≤ 0x7E

/-- What follows the control sequence at the start of the text: an escape and a bracket, parameters,
intermediate characters and one final character. -/
def afterSequence? (text : List Char) : Option (List Char) :=
  (after? [escape, '['] text).bind fun rest =>
    match (rest.dropWhile isParameter).dropWhile isIntermediate with
    | c :: behind => if isFinal c then some behind else none
    | [] => none

/-- Keys and values: words joined by equals signs, where a word in the middle is the value of one
key and the next key, so that it has two characters or more. -/
def isParameterRun (run : List Char) : Bool :=
  let words := run.splitOn '='
  words.length ≥ 2 && words.all (fun word => !word.isEmpty && word.all isWord) &&
    (words.tail.dropLast).all (·.length ≥ 2)

def isParameterList (text : List Char) : Bool :=
  if text.isEmpty then true
  else
    let runs := text.splitOn ':'
    (if runs.getLast? = some [] then runs.dropLast else runs).all isParameterRun

/-- The characters up to the next escape, which must be some, and what follows them. -/
def readPlain? (text : List Char) : Option (List Char × List Char) :=
  match text with
  | [] => none
  | c :: _ =>
      if c = escape then none
      else some (text.takeWhile (· != escape), text.dropWhile (· != escape))

/-- The shown part of the link at the start of the text, and what follows the link. -/
def link? (text : List Char) : Option (List Char × List Char) := do
  let behindOpening ← after? [escape, ']', '8', ';'] text
  let (parameters, behindParameters) ← cutAtFirst ';' behindOpening
  if isParameterList parameters then
    let (_, behindTarget) ← readPlain? behindParameters
    let (shown, behindShown) ← readPlain? (← after? [escape, '\\'] behindTarget)
    let behind ← after? [escape, ']', '8', ';', ';', escape, '\\'] behindShown
    pure (shown, behind)
  else none

def unseen? (text : List Char) : Option (List Char × List Char) :=
  match afterSequence? text with
  | some rest => some ([], rest)
  | none => link? text

theorem length_after? {word text rest : List Char} (found : after? word text = some rest) :
    rest.length + word.length = text.length := by
  rw [eq_append_of_after? found, List.length_append]
  omega

theorem length_cutAtFirst {mark : Char} {text before behind : List Char}
    (found : cutAtFirst mark text = some (before, behind)) : behind.length < text.length := by
  induction text generalizing before with
  | nil => cases found
  | cons c rest ih =>
      rw [cutAtFirst] at found
      split at found
      · cases found
        simp
      · obtain ⟨⟨inner, tail⟩, inside, same⟩ := Option.map_eq_some_iff.mp found
        cases same
        exact Nat.lt_succ_of_lt (ih inside)

theorem length_readPlain? {text plain rest : List Char}
    (found : readPlain? text = some (plain, rest)) : rest.length ≤ text.length := by
  cases text with
  | nil => cases found
  | cons c more =>
      simp only [readPlain?] at found
      split at found
      · cases found
      · cases found
        exact (List.dropWhile_sublist _).length_le

theorem length_afterSequence? {text rest : List Char} (found : afterSequence? text = some rest) :
    rest.length < text.length := by
  obtain ⟨behind, opened, closed⟩ := Option.bind_eq_some_iff.mp found
  have opening := length_after? opened
  have shorter : ((behind.dropWhile isParameter).dropWhile isIntermediate).length
      ≤ behind.length :=
    Nat.le_trans (List.dropWhile_sublist _).length_le (List.dropWhile_sublist _).length_le
  split at closed
  · rename_i heading
    rw [heading, List.length_cons] at shorter
    split at closed
    · cases closed
      simp only [List.length_cons, List.length_nil] at opening
      omega
    · cases closed
  · cases closed

theorem length_link? {text shown rest : List Char} (found : link? text = some (shown, rest)) :
    rest.length < text.length := by
  simp only [link?, Option.bind_eq_bind, Option.bind_eq_some_iff, Prod.exists] at found
  obtain ⟨behindOpening, opened, parameters, behindParameters, cut, found⟩ := found
  split at found
  · simp only [Option.bind_eq_some_iff, Prod.exists, Option.pure_def, Option.some.injEq,
      Prod.mk.injEq] at found
    obtain ⟨_, behindTarget, target, behindBreak, broken, _, behindShown, plain, behind, closed,
      _, same⟩ := found
    subst same
    have := length_after? opened
    have := length_cutAtFirst cut
    have := length_readPlain? target
    have := length_after? broken
    have := length_readPlain? plain
    have := length_after? closed
    omega
  · cases found

theorem length_unseen? {text shown rest : List Char} (found : unseen? text = some (shown, rest)) :
    rest.length < text.length := by
  rw [unseen?] at found
  split at found
  · rename_i passed
    cases found
    exact length_afterSequence? passed
  · exact length_link? found

/-- There is something in the text that a terminal does not show. -/
def holdsUnseen : List Char → Bool
  | [] => false
  | c :: rest => (unseen? (c :: rest)).isSome || holdsUnseen rest

/-- What is seen of the text behind `seen`, which has the last character first. -/
def visibleAfter (seen text : List Char) : List Char :=
  match text with
  | [] => seen.reverse
  | c :: rest =>
      match _found : unseen? (c :: rest) with
      | some (shown, behind) => visibleAfter (shown.reverse ++ seen) behind
      | none => visibleAfter (c :: seen) rest
termination_by text.length
decreasing_by
  · exact length_unseen? _found
  · simp

def visible (text : List Char) : List Char :=
  visibleAfter [] text

end TableScript.Text.Control
