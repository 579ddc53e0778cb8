import TableScript.Proofs.Read.Table
import TableScript.Read.Cursor
import TableScript.Read.Script

/-! Reading a script by a cursor. The cursor moves over the lines of a block one after the other and moves
back by one line where the header of another block stands in the body of a table. So it moves in three
loops, one in the other, and yet every turn of the outer one begins behind the place where the one
before began. -/

namespace TableScript

/-- A cursor on its way through the lines that belong to one line, with all lines that it was moved to. -/
structure Walk where
  cursor : Cursor
  visited : List SourceLine := []
deriving Repr, DecidableEq

/-- How many lines stand from the cursor on. -/
def Cursor.linesLeft (cursor : Cursor) : Nat :=
  (cursor.lines.length - cursor.position).toNat

namespace Walk

def next? (walk : Walk) : Option (SourceLine × Walk) :=
  if walk.cursor.hasNext then
    match walk.cursor.advance with
    | (cursor, .ok line) => some (line, ⟨cursor, walk.visited ++ [line]⟩)
    | (_, .error _) => none
  else none

def stepBack (walk : Walk) : Walk :=
  { walk with cursor := walk.cursor.stepBack }

def update (walk : Walk) (change : ReadState → ReadState) : Walk :=
  { walk with cursor := { walk.cursor with state := change walk.cursor.state } }

theorem next?_eq_some {walk after : Walk} {line : SourceLine}
    (moved : walk.next? = some (line, after)) :
    walk.cursor.position + 1 < walk.cursor.lines.length ∧
      after = ⟨{ walk.cursor with position := walk.cursor.position + 1 }, walk.visited ++ [line]⟩ := by
  unfold next? Cursor.hasNext at moved
  split at moved
  · rename_i inside
    refine ⟨of_decide_eq_true inside, ?_⟩
    split at moved
    · rename_i advanced
      obtain ⟨rfl, _⟩ := Prod.mk.inj advanced
      cases moved
      rfl
    · cases moved
  · cases moved

theorem linesLeft_of_next? {walk after : Walk} {line : SourceLine}
    (moved : walk.next? = some (line, after)) :
    after.cursor.linesLeft + 1 = walk.cursor.linesLeft := by
  obtain ⟨inside, rfl⟩ := next?_eq_some moved
  simp only [Cursor.linesLeft]
  omega

/-- Moves to the end of a block in which so many braces are open. The answer is whether it is closed. -/
def passDepth (depth : Int) (walk : Walk) : Bool × Walk :=
  if depth ≤ 0 then (true, walk)
  else
    match _moved : walk.next? with
    | some (line, after) => passDepth (depth + line.balance) after
    | none => (false, walk)
termination_by walk.cursor.linesLeft
decreasing_by
  have := linesLeft_of_next? _moved
  omega

/-- Moves to the end of the block that the header begins. -/
def passBlock (header : SourceLine) (walk : Walk) : Bool × Walk :=
  if header.balance ≤ 0 then
    match walk.next? with
    | some (line, after) => if line.isOpening then passDepth 1 after else (true, walk)
    | none => (true, walk)
  else passDepth header.balance walk

theorem linesLeft_passDepth (depth : Int) (walk : Walk) :
    (passDepth depth walk).2.cursor.linesLeft ≤ walk.cursor.linesLeft := by
  fun_induction passDepth depth walk with
  | case1 => exact Nat.le_refl _
  | case2 depth walk _ line after moved ih =>
      have := linesLeft_of_next? moved
      omega
  | case3 => exact Nat.le_refl _

theorem linesLeft_passBlock (header : SourceLine) (walk : Walk) :
    (walk.passBlock header).2.cursor.linesLeft ≤ walk.cursor.linesLeft := by
  unfold passBlock
  split
  · split
    · rename_i line after moved
      have fewer := linesLeft_of_next? moved
      split
      · exact (linesLeft_passDepth 1 after).trans (by omega)
      · exact Nat.le_refl _
    · exact Nat.le_refl _
  · exact linesLeft_passDepth _ walk

def skipBlock (header : SourceLine) (walk : Walk) : Walk :=
  let (closed, after) := walk.passBlock header
  if closed then after else after.update (·.report (.unclosedBlock header.text) header)

def takeBodyItem (policy : Policy) (progress : Walk × Table) (item : BodyItem) : Walk × Table :=
  let (walk, table) := progress
  let (state, table) := ReadState.takeBodyItem policy (walk.cursor.state, table) item
  (walk.update fun _ => state, table)

@[simp] theorem linesLeft_takeBodyItem (policy : Policy) (walk : Walk) (table : Table)
    (item : BodyItem) :
    (takeBodyItem policy (walk, table) item).1.cursor.linesLeft = walk.cursor.linesLeft :=
  rfl

/-- Reads the body of a table. The answer is whether it is closed; the cursor is moved back from the header
of another block, which stays unread. -/
def readBody (policy : Policy) (progress : Walk × Table) : Bool × Walk × Table :=
  match _moved : progress.1.next? with
  | none => (false, progress)
  | some (line, walk) =>
      if line.isClosing then (true, walk, progress.2)
      else if LineKind.opensBlock line.text.toList then (false, walk.stepBack, progress.2)
      else
        match LineKind.classify true line.text.toList with
        | .columnLike => readBody policy (takeBodyItem policy (walk, progress.2) (.column line))
        | .note => readBody policy (takeBodyItem policy (walk, progress.2) (.note line))
        | .indexes =>
            let passed := walk.passBlock line
            readBody policy
              (takeBodyItem policy (passed.2, progress.2) (.indexes line passed.1))
        | _ => readBody policy (takeBodyItem policy (walk, progress.2) (.other line))
termination_by progress.1.cursor.linesLeft
decreasing_by
  all_goals
    have fewer := linesLeft_of_next? _moved
    have less := linesLeft_passBlock line walk
    simp only [linesLeft_takeBodyItem]
    omega

theorem linesLeft_readBody (policy : Policy) (progress : Walk × Table) :
    (readBody policy progress).2.1.cursor.linesLeft ≤ progress.1.cursor.linesLeft := by
  fun_induction readBody policy progress with
  | case1 => exact Nat.le_refl _
  | case2 progress line walk moved _ =>
      have := linesLeft_of_next? moved
      exact Nat.le_of_succ_le (Nat.le_of_eq this)
  | case3 progress line walk moved _ _ =>
      obtain ⟨_, rfl⟩ := next?_eq_some moved
      simp [stepBack, Cursor.stepBack, Cursor.linesLeft]
  | case4 progress line walk moved _ _ _ ih | case5 progress line walk moved _ _ _ ih
  | case7 progress line walk moved _ _ _ _ _ ih =>
      have fewer := linesLeft_of_next? moved
      rw [linesLeft_takeBodyItem] at ih
      omega
  | case6 progress line walk moved _ _ _ passed ih =>
      have fewer := linesLeft_of_next? moved
      have less : passed.2.cursor.linesLeft ≤ walk.cursor.linesLeft := linesLeft_passBlock line walk
      rw [linesLeft_takeBodyItem] at ih
      omega

/-- Moves into the body that the header begins, if it begins one. -/
def enterBody? (header : TableHeader) (walk : Walk) : Option Walk :=
  if header.opensBody then some walk
  else
    match walk.next? with
    | some (line, after) => if line.isOpening then some after else none
    | none => none

def readTableBody (policy : Policy) (line : SourceLine) (header : TableHeader)
    (progress : Walk × Table) : Walk × Table :=
  match progress.1.enterBody? header with
  | none => progress
  | some inside =>
      let (closed, walk, table) := readBody policy (inside, progress.2)
      (if closed then walk else walk.update (·.report (.unclosedTable table.qualifiedName) line), table)

def readAcceptedTable (policy : Policy) (line : SourceLine) (header : TableHeader) (walk : Walk) :
    Except AlreadyDeclared Walk :=
  let (walk, table) := readTableBody policy line header
    (walk.update (·.withHeader policy line header), header.table walk.cursor.state.tablesNumbered)
  match walk.cursor.state.catalog.declare table with
  | .ok catalog => .ok (walk.update ({ · with catalog }))
  | .error refusal => .error refusal

def readTable (policy : Policy) (line : SourceLine) (walk : Walk) : Except AlreadyDeclared Walk :=
  match TableHeader.read? line.text.toList with
  | none => .ok ((walk.update (·.report (.badTableHeader line.text) line)).skipBlock line)
  | some header =>
      match header.nameProblems walk.cursor.state.catalog with
      | [] => walk.readAcceptedTable policy line header
      | problems => .ok ((walk.update (·.reportAll line problems)).skipBlock line)

def skipNoticed (block : SkippedBlock) (kind : LineKind) (line : SourceLine) (walk : Walk) : Walk :=
  (walk.update (·.noticeBlock block kind.featureTag line)).skipBlock line

/-- Reads what a line of the top level begins. The cursor stands at the line, and stays in front of the first
line that does not belong to it. -/
def readKind (policy : Policy) (kind : LineKind) (line : SourceLine) (walk : Walk) :
    Except AlreadyDeclared Walk :=
  match kind with
  | .table => walk.readTable policy line
  | .ref => .ok (walk.update (ReadState.readReference policy · line))
  | .enum => .ok (walk.skipNoticed .enum kind line)
  | .project => .ok (walk.skipNoticed .project kind line)
  | .tableGroup => .ok (walk.skipNoticed .tableGroup kind line)
  | .indexes => .ok (walk.skipNoticed .indexes kind line)
  | .columnLike | .note | .brace | .unknown => .ok (walk.update (·.report (.unknownLine line.text) line))

theorem linesLeft_skipBlock (header : SourceLine) (walk : Walk) :
    (walk.skipBlock header).cursor.linesLeft ≤ walk.cursor.linesLeft := by
  have passed := linesLeft_passBlock header walk
  unfold skipBlock
  dsimp only
  split
  · exact passed
  · exact passed

theorem linesLeft_enterBody? {header : TableHeader} {walk inside : Walk}
    (entered : walk.enterBody? header = some inside) :
    inside.cursor.linesLeft ≤ walk.cursor.linesLeft := by
  unfold enterBody? at entered
  split at entered
  · cases entered
    exact Nat.le_refl _
  · split at entered
    · rename_i moved
      have fewer := linesLeft_of_next? moved
      split at entered
      · cases entered
        exact Nat.le_of_succ_le (Nat.le_of_eq fewer)
      · cases entered
    · cases entered

theorem linesLeft_readTableBody (policy : Policy) (line : SourceLine) (header : TableHeader)
    (progress : Walk × Table) :
    (readTableBody policy line header progress).1.cursor.linesLeft ≤ progress.1.cursor.linesLeft := by
  unfold readTableBody
  split
  · exact Nat.le_refl _
  · rename_i inside entered
    have body := (linesLeft_readBody policy (inside, progress.2)).trans (linesLeft_enterBody? entered)
    dsimp only
    split
    · exact body
    · exact body

theorem linesLeft_readAcceptedTable {policy : Policy} {line : SourceLine} {header : TableHeader}
    {walk after : Walk} (done : walk.readAcceptedTable policy line header = .ok after) :
    after.cursor.linesLeft ≤ walk.cursor.linesLeft := by
  have body := linesLeft_readTableBody policy line header
    (walk.update (·.withHeader policy line header), header.table walk.cursor.state.tablesNumbered)
  unfold readAcceptedTable at done
  dsimp only at done
  split at done
  · cases done
    exact body
  · cases done

theorem linesLeft_readKind {policy : Policy} {kind : LineKind} {line : SourceLine} {walk after : Walk}
    (done : walk.readKind policy kind line = .ok after) :
    after.cursor.linesLeft ≤ walk.cursor.linesLeft := by
  cases kind with
  | table =>
      simp only [readKind, readTable] at done
      split at done
      · cases done
        exact linesLeft_skipBlock line _
      · split at done
        · exact linesLeft_readAcceptedTable done
        · cases done
          exact linesLeft_skipBlock line _
  | enum | project | tableGroup | indexes =>
      cases done
      exact linesLeft_skipBlock line _
  | ref | columnLike | note | brace | unknown =>
      cases done
      exact Nat.le_refl _

end Walk

/-- One turn of the loop over the lines: where it began and ended, the line at which it began, and the lines
to which the cursor was moved in between. -/
structure Turn where
  start : Int
  line : SourceLine
  visited : List SourceLine
  stop : Int
deriving Repr, DecidableEq

/-- Reads what the lines from the cursor on begin, turn after turn, to the end or to a turn that fails. -/
def Cursor.readLines (policy : Policy) (cursor : Cursor) : Cursor × List Turn :=
  if _inside : cursor.position < cursor.lines.length then
    match atPosition cursor.lines cursor.position with
    | .error _ => (cursor, [])
    | .ok line =>
        match _done : Walk.readKind policy (LineKind.classify false line.text.toList) line ⟨cursor, []⟩ with
        | .error _ => (cursor, [])
        | .ok walk =>
            let next : Cursor := ⟨walk.cursor.lines, walk.cursor.position + 1, walk.cursor.state⟩
            let (last, turns) := next.readLines policy
            (last, ⟨cursor.position, line, walk.visited, next.position⟩ :: turns)
  else (cursor, [])
termination_by cursor.linesLeft
decreasing_by
  have := Walk.linesLeft_readKind _done
  simp only [Cursor.linesLeft] at this ⊢
  omega

end TableScript
