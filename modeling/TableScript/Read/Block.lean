import TableScript.LineKind
import TableScript.SourceLine
import TableScript.Text.Quote

/-! Which lines belong to a block. A block that is skipped ends where its braces balance, those in
quotes left out. The body of a table ends at a line that holds only a closing brace, or where the
header of another block shows that it was never closed. In both cases nothing but the lines
themselves decides, and what follows is a tail of the lines given. -/

namespace TableScript

namespace SourceLine

def balance (line : SourceLine) : Int :=
  Text.braceBalance .outside line.text.toList

def isOpening (line : SourceLine) : Bool :=
  line.text == "\x7b"

def isClosing (line : SourceLine) : Bool :=
  line.text == "\x7d"

end SourceLine

/-- A block that was skipped: whether it was closed, and the lines behind it. -/
structure Skipped where
  closed : Bool
  rest : List SourceLine
deriving Repr, DecidableEq

namespace Skipped

def toDepthZero (depth : Int) : List SourceLine → Skipped
  | [] => ⟨depth ≤ 0, []⟩
  | line :: rest =>
      if depth ≤ 0 then ⟨true, line :: rest⟩ else toDepthZero (depth + line.balance) rest

/-- Passes the block that the header begins. Where the header opens nothing, a brace on the next
line does. -/
def ofHeader (header : SourceLine) (following : List SourceLine) : Skipped :=
  if header.balance ≤ 0 then
    match following with
    | line :: rest => if line.isOpening then toDepthZero 1 rest else ⟨true, line :: rest⟩
    | [] => ⟨true, []⟩
  else toDepthZero header.balance following

theorem toDepthZero_suffix (depth : Int) (lines : List SourceLine) :
    (toDepthZero depth lines).rest <:+ lines := by
  induction lines generalizing depth with
  | nil => exact List.suffix_refl []
  | cons line rest ih =>
      rw [toDepthZero]
      split
      · exact List.suffix_refl _
      · exact (ih _).trans (List.suffix_cons line rest)

theorem ofHeader_suffix (header : SourceLine) (following : List SourceLine) :
    (ofHeader header following).rest <:+ following := by
  unfold ofHeader
  split
  · cases following with
    | nil => exact List.suffix_refl []
    | cons line rest =>
        dsimp only
        split
        · exact (toDepthZero_suffix 1 rest).trans (List.suffix_cons line rest)
        · exact List.suffix_refl _
  · exact toDepthZero_suffix _ following

end Skipped

/-- What a line in the body of a table is, with the lines that belong to it. -/
inductive BodyItem where
  | column (line : SourceLine)
  | note (line : SourceLine)
  | indexes (line : SourceLine) (closed : Bool)
  | other (line : SourceLine)
deriving Repr, DecidableEq

/-- The body of a table: its items, whether it was closed, and the lines behind it. -/
structure Body where
  items : List BodyItem
  closed : Bool
  rest : List SourceLine
deriving Repr, DecidableEq

namespace Body

def cons (item : BodyItem) (body : Body) : Body :=
  { body with items := item :: body.items }

def ofLines : List SourceLine → Body
  | [] => ⟨[], false, []⟩
  | line :: rest =>
      if line.isClosing then ⟨[], true, rest⟩
      else if LineKind.opensBlock line.text.toList then ⟨[], false, line :: rest⟩
      else
        match LineKind.classify true line.text.toList with
        | .columnLike => (ofLines rest).cons (.column line)
        | .note => (ofLines rest).cons (.note line)
        | .indexes =>
            let skipped := Skipped.ofHeader line rest
            (ofLines skipped.rest).cons (.indexes line skipped.closed)
        | _ => (ofLines rest).cons (.other line)
termination_by lines => lines.length
decreasing_by
  · simp
  · simp
  · have := (Skipped.ofHeader_suffix line rest).length_le
    simp only [List.length_cons]
    omega
  · simp

theorem ofLines_suffix (lines : List SourceLine) : (ofLines lines).rest <:+ lines := by
  fun_induction ofLines lines with
  | case1 => exact List.suffix_refl []
  | case2 line rest => exact List.suffix_cons line rest
  | case3 line rest => exact List.suffix_refl _
  | case4 line rest _ _ _ ih => exact ih.trans (List.suffix_cons line rest)
  | case5 line rest _ _ _ ih => exact ih.trans (List.suffix_cons line rest)
  | case6 line rest _ _ _ skipped ih =>
      exact (ih.trans (Skipped.ofHeader_suffix line rest)).trans (List.suffix_cons line rest)
  | case7 line rest _ _ _ _ _ ih => exact ih.trans (List.suffix_cons line rest)

end Body

end TableScript
