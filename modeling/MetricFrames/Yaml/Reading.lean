import MetricFrames.Yaml.Scalar

/-!
# Reading YAML

A reader for plain single documents in the block and the flow style. Documents with anchors,
aliases, tags, directives or explicit keys are left to other readers. In the block style the column
of its first token tells where a collection ends: its entries start in that column, what stands
further right belongs to an entry, and what stands further left ends the collection. A collection
may start on the line of a dash but not on the line of a key.
-/

namespace MetricFrames.Yaml

/-- Whether an item of a block sequence starts here. -/
def startsItem : List Char → Bool
  | '-' :: s => endsToken s
  | _ => false

/-! ### The flow style -/

mutual

/-- Reads a node in the flow style that starts here. -/
def flowNode : (fuel : Nat) → List Char → Option (Node × List Char)
  | 0, _ => none
  | fuel + 1, s =>
    match s with
    | '[' :: t => (flowItems fuel [] t).map fun (items, rest) => (.sequence items, rest)
    | '\x7b' :: t => (flowEntries fuel [] t).map fun (entries, rest) => (.mapping entries, rest)
    | s => (readScalar? true 0 s).map fun r => (.scalar r.scalar, r.rest)

/-- Reads a value after its colon; nothing before a comma or the closing mark stands for null. -/
def flowValue (close : Char) : (fuel : Nat) → List Char → Option (Node × List Char)
  | 0, _ => none
  | fuel + 1, s =>
    match (Place.inside s).gap.rest with
    | [] => none
    | c :: t => if c = ',' ∨ c = close then some (.empty, c :: t) else flowNode fuel (c :: t)

/-- Reads an item of a flow sequence; a key with its value is a mapping of its own. -/
def flowItem : (fuel : Nat) → List Char → Option (Node × List Char)
  | 0, _ => none
  | fuel + 1, s =>
    match readScalar? true 0 s with
    | none => flowNode fuel s
    | some r =>
      match r.afterKey? true s with
      | none => some (.scalar r.scalar, r.rest)
      | some after =>
        (flowValue ']' fuel after).map fun (value, rest) => (.mapping [(r.scalar, value)], rest)

/-- Reads the items of a flow sequence and its closing bracket; `done` holds the items before, last
one first. -/
def flowItems : (fuel : Nat) → (done : List Node) → List Char → Option (List Node × List Char)
  | 0, _, _ => none
  | fuel + 1, done, s =>
    match (Place.inside s).gap.rest with
    | ']' :: rest => some (done.reverse, rest)
    | t =>
      match flowItem fuel t with
      | none => none
      | some (item, rest) =>
        match (Place.inside rest).gap.rest with
        | ']' :: rest => some ((item :: done).reverse, rest)
        | ',' :: rest => flowItems fuel (item :: done) rest
        | _ => none

/-- Reads the entries of a flow mapping and its closing brace; `done` holds the entries before. A
key without a value has null. -/
def flowEntries : (fuel : Nat) → (done : List (Scalar × Node)) → List Char →
    Option (List (Scalar × Node) × List Char)
  | 0, _, _ => none
  | fuel + 1, done, s =>
    match (Place.inside s).gap.rest with
    | '\x7d' :: rest => some (done.reverse, rest)
    | t =>
      match readScalar? true 0 t with
      | none => none
      | some r =>
        let value :=
          match r.afterKey? true t with
          | none => some (.empty, r.rest)
          | some after => flowValue '\x7d' fuel after
        match value with
        | none => none
        | some (value, rest) =>
          match (Place.inside rest).gap.rest with
          | '\x7d' :: rest => some (((r.scalar, value) :: done).reverse, rest)
          | ',' :: rest => flowEntries fuel ((r.scalar, value) :: done) rest
          | _ => none

end

/-! ### The block style -/

/-- Whether a collection in a column ends before a token: the text ends, or the token starts a line
further left. -/
def endsBefore (column : Nat) (p : Place) : Bool := p.rest.isEmpty || (p.fresh && p.column < column)

mutual

/-- Reads a node that starts here, in or beyond the column `least`. Only if `compact` may it be a
block collection. -/
def blockNode : (fuel : Nat) → (least : Nat) → (compact : Bool) → Place → Option (Node × Place)
  | 0, _, _, _ => none
  | fuel + 1, least, compact, p =>
    if startsItem p.rest then
      if compact then blockItems fuel p.column false [] p else none
    else
      match p.rest with
      | '|' :: s => (readBlock? false least s).map fun (s, next) => (.scalar s, next)
      | '>' :: s => (readBlock? true least s).map fun (s, next) => (.scalar s, next)
      | s =>
        match readScalar? false least s with
        | none =>
          if s.head? = some '[' ∨ s.head? = some '\x7b' then
            (flowNode (3 * s.length + 4) s).map fun (node, rest) => (node, .inside rest)
          else none
        | some r =>
          if (r.afterKey? false s).isSome then
            if compact then blockEntries fuel p.column [] p else none
          else some (.scalar r.scalar, .inside r.rest)

/-- Reads the value of a key in a column. A sequence may start in the column of its key. -/
def blockValue : (fuel : Nat) → (column : Nat) → List Char → Option (Node × Place)
  | 0, _, _ => none
  | fuel + 1, column, s =>
    let p := (Place.inside s).gap
    if p.rest.isEmpty then some (.empty, p)
    else if !p.fresh then blockNode fuel (column + 1) false p
    else if column < p.column then blockNode fuel (column + 1) true p
    else if p.column = column ∧ startsItem p.rest then blockItems fuel column true [] p
    else some (.empty, p)

/-- Reads the entries of a mapping in a column; `done` holds the entries before, last one first. -/
def blockEntries : (fuel : Nat) → (column : Nat) → (done : List (Scalar × Node)) → Place →
    Option (Node × Place)
  | 0, _, _, _ => none
  | fuel + 1, column, done, p =>
    match readScalar? false (column + 1) p.rest with
    | none => none
    | some r =>
      match r.afterKey? false p.rest with
      | none => none
      | some after =>
        match blockValue fuel column after with
        | none => none
        | some (value, next) =>
          let done := (r.scalar, value) :: done
          let next := next.gap
          if endsBefore column next then some (.mapping done.reverse, next)
          else if next.fresh ∧ next.column = column then blockEntries fuel column done next
          else none

/-- Reads the items of a sequence in a column; `done` holds the items before, last one first. The
sequence of a key in the same column ends before the next key. -/
def blockItems : (fuel : Nat) → (column : Nat) → (ofKey : Bool) → (done : List Node) → Place →
    Option (Node × Place)
  | 0, _, _, _, _ => none
  | fuel + 1, column, ofKey, done, p =>
    let start := (⟨column + 1, false, p.rest.drop 1⟩ : Place).gap
    let item :=
      if start.rest.isEmpty ∨ (start.fresh ∧ start.column ≤ column) then some (.empty, start)
      else blockNode fuel (column + 1) true start
    match item with
    | none => none
    | some (item, next) =>
      let done := item :: done
      let next := next.gap
      if endsBefore column next then some (.sequence done.reverse, next)
      else if next.fresh ∧ next.column = column then
        if startsItem next.rest then blockItems fuel column ofKey done next
        else if ofKey then some (.sequence done.reverse, next)
        else none
      else none

end

/-! ### Documents -/

/-- The characters that may stand in a text. -/
def isAllowed (c : Char) : Bool :=
  let n := c.toNat
  n == 9 || n == 10 || n == 13 || (32 ≤ n && n ≤ 126) || n == 0x85 || (0xA0 ≤ n && n ≤ 0xD7FF) ||
    (0xE000 ≤ n && n ≤ 0xFFFD) || 0x10000 ≤ n

/-- What follows a mark of three characters, if a line starts with it. -/
def afterMark? (mark : String) (line : List Char) : Option (List Char) :=
  match Text.after? mark.toList line with
  | some rest => if endsToken rest then some rest else none
  | none => none

/-- Whether a line starts or ends a document. -/
def isMark (line : Line) : Bool :=
  (afterMark? "---" line.text).isSome || (afterMark? "..." line.text).isSome

/-- Whether lines hold nothing but blanks and comments. -/
def isVoid (lines : List Line) : Bool := (skip false 0 true (textOf lines)).rest.isEmpty

/-- Whether no further document follows. -/
def isLast (lines : List Line) : Bool :=
  lines.all (fun l => (afterMark? "---" l.text).isNone) &&
    match lines with
    | [] => true
    | mark :: after =>
      isVoid (⟨mark.text.drop 3, mark.ended⟩ :: after.filter fun l => !isMark l)

/-- The start of the only document of some lines. -/
def documentOf? (lines : List Line) : Option Place :=
  let (before, rest) := lines.span fun l => !isMark l
  match rest with
  | [] => some ⟨0, true, textOf before⟩
  | mark :: after =>
    match afterMark? "---" mark.text with
    | some text =>
      if isVoid before then
        let (inside, others) := after.span fun l => !isMark l
        if isLast others then some ⟨3, false, textOf (⟨text, mark.ended⟩ :: inside)⟩ else none
      else none
    | none => if isLast (mark :: after) then some ⟨0, true, textOf before⟩ else none

/-- The node of a document. -/
def nodeOf? (start : Place) : Option Node :=
  let p := start.gap
  if p.rest.isEmpty then some .empty
  else
    match blockNode (3 * p.rest.length + 4) 0 p.fresh p with
    | none => none
    | some (node, next) => if next.gap.rest.isEmpty then some node else none

/-- A text with all its line breaks in the usual form and without a byte order mark. -/
def plainBreaks (s : List Char) : List Char :=
  let s := if s.head? = some (Char.ofNat 0xFEFF) then s.drop 1 else s
  s.map fun c => if c.toNat = 0x85 then '\n' else c

/-- Reads the only document of a text. -/
def readNode? (s : List Char) : Option Node :=
  if s.all isAllowed then (documentOf? (linesOf (plainBreaks s))).bind nodeOf? else none

end MetricFrames.Yaml
