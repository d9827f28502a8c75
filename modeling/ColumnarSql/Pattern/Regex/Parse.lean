import ColumnarSql.Pattern.Regex.Automaton
import ColumnarSql.Pattern.Regex.Bracket
import ColumnarSql.Pattern.Regex.Match

/-!
# Patterns

Reading a pattern from left to right, with the open groups on a stack. A pattern
is refused if it is malformed, if it is nested too deeply, or if its automaton
would be too large.
-/

set_option autoImplicit false

namespace ColumnarSql.Regex

/-- A piece of a pattern. -/
structure Piece where
  regex : Regex
  /-- How deeply the piece is nested; a single character is not nested. -/
  depth : Nat
  /-- Whether a repetition may follow. -/
  repeatable : Bool

/-- A group being read. -/
structure Group where
  flags : Flags
  /-- The number of a group that has one. -/
  index : Option Nat
  /-- Finished alternatives, the last one first. -/
  alternatives : List Piece
  /-- Pieces of the alternative being read, the last one first. -/
  pieces : List Piece

namespace Group

def start (fl : Flags) (index : Option Nat) : Group := ⟨fl, index, [], []⟩

def add (g : Group) (p : Piece) : Group := { g with pieces := p :: g.pieces }

/-- One more level around some pieces. -/
def depthAround (ps : List Piece) : Nat := (ps.map Piece.depth).foldl max 0 + 1

/-- The pieces of an alternative, last first, as one piece. -/
def sequence : List Piece → Piece
  | [] => ⟨.empty, 0, true⟩
  | [p] => p
  | ps => ⟨concat (ps.reverse.map Piece.regex), depthAround ps, true⟩

/-- Ends the alternative being read. -/
def nextAlternative (g : Group) : Group :=
  { g with alternatives := sequence g.pieces :: g.alternatives, pieces := [] }

/-- Alternatives, last first, as one piece. -/
def choice : List Piece → Piece
  | [] => ⟨.empty, 0, true⟩
  | [p] => p
  | ps => ⟨alternation (ps.reverse.map Piece.regex), depthAround ps, true⟩

/-- All of the group as one piece. -/
def content (g : Group) : Piece := choice g.nextAlternative.alternatives

/-- The closed group. -/
def close (g : Group) : Piece :=
  let p := g.content
  ⟨g.index.elim p.regex (.group · p.regex), p.depth + 1, true⟩

end Group

/-- Reading in progress. -/
structure State where
  flags : Flags
  /-- How many groups have numbers. -/
  groups : Nat
  names : List String
  inner : Group
  /-- The groups around it, the nearest first. -/
  outer : List Group

namespace State

def start : State := ⟨.initial, 0, [], .start .initial none, []⟩

def add (st : State) (p : Piece) : State := { st with inner := st.inner.add p }

def addRegex (st : State) (r : Regex) : State := st.add ⟨r, 0, true⟩

/-- Opens a group without a number; its end restores the flags. -/
def openGroup (st : State) (fl : Flags) : State :=
  { st with flags := fl, inner := .start st.flags none, outer := st.inner :: st.outer }

/-- Opens a group with the next number. -/
def openNumbered (st : State) : State :=
  { st with
    groups := st.groups + 1, inner := .start st.flags (some (st.groups + 1)),
    outer := st.inner :: st.outer }

/-- Closes the innermost group. -/
def closeGroup? (st : State) : Option State :=
  match st.outer with
  | [] => none
  | g :: gs => some { st with
      flags := st.inner.flags, inner := g.add st.inner.close, outer := gs }

/-- Repeats the last piece. A lazy repetition has a question mark after it. -/
def repeatLast? (st : State) (least : Nat) (most : Option Nat) (isLazy : Bool) : Option State :=
  match st.inner.pieces with
  | p :: ps =>
    if p.repeatable then
      let regex := repetition least most (isLazy == st.flags.swapGreed) p.regex
      some { st with inner := { st.inner with pieces := ⟨regex, p.depth + 1, true⟩ :: ps } }
    else none
  | [] => none

end State

/-! ## Groups -/

/-- Flags up to `)` or `:`, each letter at most once and at most one hyphen, which
may not be the last. -/
def flags? (fl : Flags) (seen : List Char) : List Char → Option (Flags × List Char)
  | [] => none
  | c :: r =>
    if c = ')' || c = ':' then
      if seen.head? = some '-' then none else some (fl, c :: r)
    else if seen.contains c then none
    else if c = '-' then flags? fl (c :: seen) r
    else (fl.set? c (!seen.contains '-')).bind fun fl => flags? fl (c :: seen) r

/-- Whether a character may stand in a group's name. -/
def isNameChar (first : Bool) (c : Char) : Bool :=
  c = '_' || Text.isAlphabetic c ||
    (!first && (c = '.' || c = '[' || c = ']' || Text.Category.anyContains Text.Category.numbers c))

/-- A group's name up to `>`. -/
def groupName? (s : List Char) : Option (String × List Char) :=
  let name := s.takeWhile (· ≠ '>')
  match name, s.dropWhile (· ≠ '>') with
  | c :: cs, _ :: rest =>
    if isNameChar true c && cs.all (isNameChar false) then some (String.ofList name, rest)
    else none
  | _, _ => none

/-- A group with a name that is new. -/
def namedGroup? (st : State) (s : List Char) : Option (State × List Char) := do
  let (name, rest) ← groupName? s
  if st.names.contains name then none
  else return ({ st with names := name :: st.names }.openNumbered, rest)

/-- What follows `(?` without a name: flags for a group or for the rest of the
group around. -/
def flagGroup? (st : State) (s : List Char) : Option (State × List Char) := do
  match ← flags? st.flags [] s with
  | (fl, ':' :: rest) => return (st.openGroup fl, rest)
  | (fl, rest) =>
    if s.head? = some ')' then none
    else return ({ st with flags := fl }.add ⟨.empty, 0, false⟩, rest.tail)

/-- What follows `(`. Conditions on the text around a match are not supported. -/
def group? (st : State) (s : List Char) : Option (State × List Char) :=
  match skip st.flags s with
  | '?' :: '=' :: _ | '?' :: '!' :: _ | '?' :: '<' :: '=' :: _ | '?' :: '<' :: '!' :: _ => none
  | '?' :: 'P' :: '<' :: r | '?' :: '<' :: r => namedGroup? st r
  | '?' :: r => flagGroup? st r
  | r => some (st.openNumbered, r)

/-! ## Repetitions -/

/-- Whether a question mark follows, and what is left. -/
def lazyMark : List Char → Bool × List Char
  | '?' :: r => (true, r)
  | r => (false, r)

/-- The bounds of a repetition whose `{` has been read, up to the `}`. -/
def bounds? (fl : Flags) (s : List Char) : Option ((Nat × Option Nat) × List Char) := do
  let (least, r) ← decimal? fl (skip fl s)
  let (most, r) ←
    match r with
    | ',' :: r =>
      match skip fl r with
      | '\x7d' :: r => some (none, '\x7d' :: r)
      | r => (decimal? fl r).map fun p => (some p.1, p.2)
    | r => some (some least, r)
  match r with
  | '\x7d' :: r =>
    if most.all (least ≤ ·) then return ((least, most), skip fl r) else none
  | _ => none

/-! ## Single characters -/

/-- Every character, or every one that ends no line. -/
def dotSet (fl : Flags) : CharSet :=
  if fl.dotNewline then .all
  else if fl.crlf then .compl (.union (.single '\n') (.single '\r'))
  else .compl (.single '\n')

/-- A character that stands for itself. -/
def charRegex (fl : Flags) (c : Char) : Regex :=
  ofSet fl.ascii ((CharSet.single c).foldedIf fl.ignoreCase fl.ascii)

/-- A condition, a dot, an escape or a plain character. -/
def primitive? (fl : Flags) : List Char → Option (Regex × List Char)
  | '\\' :: r => (escape? fl r).map fun
    | (.char c, rest) => (charRegex fl c, rest)
    | (.set s, rest) => (ofSet fl.ascii s, rest)
    | (.look l, rest) => (.look l, rest)
  | '.' :: r => if fl.ascii then none else some (ofSet false (dotSet fl), r)
  | '^' :: r => some (.look (if fl.multiLine then .lineStart fl.crlf else .textStart), r)
  | '$' :: r => some (.look (if fl.multiLine then .lineEnd fl.crlf else .textEnd), r)
  | c :: r => some (charRegex fl c, r)
  | [] => none

/-! ## Whole patterns -/

/-- Reads on to the end of the pattern. Every turn takes a character. -/
def read? : Nat → State → List Char → Option Piece
  | 0, _, _ => none
  | fuel + 1, st, s => do
    let repeatThen := fun (least : Nat) (most : Option Nat) (r : List Char) => do
      let (isLazy, r) := lazyMark r
      read? fuel (← st.repeatLast? least most isLazy) r
    match skip st.flags s with
    | [] => if st.outer.isEmpty then return st.inner.content else none
    | '(' :: r =>
      let (st, r) ← group? st r
      read? fuel st r
    | ')' :: r => read? fuel (← st.closeGroup?) r
    | '|' :: r => read? fuel { st with inner := st.inner.nextAlternative } r
    | '[' :: r =>
      let (x, r) ← bracketed? st.flags r
      read? fuel (st.add ⟨ofSet st.flags.ascii x.set, x.depth, true⟩) r
    | '?' :: r => repeatThen 0 (some 1) r
    | '*' :: r => repeatThen 0 none r
    | '+' :: r => repeatThen 1 none r
    | '\x7b' :: r =>
      let ((least, most), r) ← bounds? st.flags r
      repeatThen least most r
    | s =>
      let (x, r) ← primitive? st.flags s
      read? fuel (st.addRegex x) r

/-- Levels of nesting a pattern may have. -/
def maxDepth : Nat := 250

/-- The regular expression of a pattern. -/
def parse? (pattern : String) : Option Regex := do
  let cs := pattern.toList
  let p ← read? (cs.length + 1) .start cs
  if maxDepth < p.depth || p.regex.isTooLarge then none else some p.regex

end ColumnarSql.Regex
