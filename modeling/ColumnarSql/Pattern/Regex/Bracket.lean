import ColumnarSql.Pattern.Regex.Reading

/-!
# Bracketed sets

`[…]` lists characters, ranges, escaped sets, named sets `[:name:]` and further
brackets. The operators `&&`, `--` and `~~` work from left to right on what is
listed on both sides. A bracket, a list of more than one item and an operator each
nest what they contain one level deeper.
-/

set_option autoImplicit false

namespace ColumnarSql.Regex

/-- The operators between lists. -/
inductive SetOp where
  | inter
  | diff
  | symmDiff

namespace SetOp

def apply (op : SetOp) (a b : CharSet) : CharSet :=
  match op with
  | inter => a.inter b
  | diff => a.diff b
  | symmDiff => a.symmDiff b

/-- The operator at the front of a text. -/
def ofFront? : List Char → Option (SetOp × List Char)
  | '&' :: '&' :: r => some (inter, r)
  | '-' :: '-' :: r => some (diff, r)
  | '~' :: '~' :: r => some (symmDiff, r)
  | _ => none

end SetOp

/-- A set and how deeply what is written of it is nested. -/
structure Listed where
  set : CharSet
  depth : Nat

/-- What has been read of one pair of brackets. -/
structure Bracket where
  negated : Bool
  /-- The union of the list being read and the depth of its deepest item. -/
  listed : Listed
  /-- How many items the list has. -/
  items : Nat
  /-- The operand on the left and its operator. -/
  pending : Option (Listed × SetOp)

namespace Bracket

def start (negated : Bool) : Bracket := ⟨negated, ⟨.none, 0⟩, 0, none⟩

def add (b : Bracket) (x : Listed) : Bracket :=
  { b with
    listed := ⟨b.listed.set.union x.set, max b.listed.depth x.depth⟩, items := b.items + 1 }

def addSet (b : Bracket) (s : CharSet) : Bracket := b.add ⟨s, 0⟩

/-- The operand read so far. An operator closes both sides under case first. -/
def operand (fl : Flags) (b : Bracket) : Listed :=
  let right : Listed := ⟨b.listed.set, b.listed.depth + if 1 < b.items then 1 else 0⟩
  match b.pending with
  | some (left, op) =>
    let closed := fun s : CharSet => s.foldedIf fl.ignoreCase fl.ascii
    ⟨op.apply (closed left.set) (closed right.set), max left.depth right.depth + 1⟩
  | none => right

def addOp (fl : Flags) (b : Bracket) (op : SetOp) : Bracket :=
  { start b.negated with pending := some (b.operand fl, op) }

/-- The finished set. A complement is not ASCII. -/
def finish? (fl : Flags) (b : Bracket) : Option Listed :=
  if fl.ascii && b.negated then none
  else
    let x := b.operand fl
    some ⟨(x.set.foldedIf fl.ignoreCase fl.ascii).negatedIf b.negated, x.depth + 1⟩

/-- A bracket after `[`: an optional `^`, then hyphens, or `]`, that stand for
themselves. -/
def open? (fl : Flags) (s : List Char) : Option (Bracket × List Char) := do
  let (negated, s) := match skip fl s with
    | '^' :: r => (true, skip fl r)
    | r => (false, r)
  match collect fl (· = '-') false s with
  | (_, []) => none
  | ([], ']' :: r) => return ((start negated).addSet (.single ']'), r)
  | (hyphens, r) => return (hyphens.foldl (fun b c => b.addSet (.single c)) (start negated), r)

end Bracket

/-- `[:name:]` or `[:^name:]`; brackets that are nothing of the kind give none. -/
def namedSet? (s : List Char) : Option (Bool × CharSet × List Char) :=
  match s with
  | '[' :: ':' :: r =>
    let (negated, r) := match r with
      | '^' :: r => (true, r)
      | r => (false, r)
    match r.dropWhile (· ≠ ':') with
    | ':' :: ']' :: rest =>
      (CharSet.named.lookup (String.ofList (r.takeWhile (· ≠ ':')))).map fun set =>
        (negated, set, rest)
    | _ => none
  | _ => none

/-- One character or escape inside brackets, where no condition may stand. -/
def listItem? (fl : Flags) (s : List Char) : Option (Escape × List Char) := do
  let (x, rest) ← match s with
    | '\\' :: r => escape? fl r
    | c :: r => some (.char c, r)
    | [] => none
  match x with
  | .char c => if fl.ascii && 0x80 ≤ c.toNat then none else return (x, rest)
  | .set _ => return (x, rest)
  | .look _ => none

/-- The first character that is no blank. Only the `#` of a comment is passed over,
the text of the comment is not. -/
def pastBlanks? (inComment : Bool) : List Char → Option Char
  | [] => none
  | c :: r =>
    if Text.isBlank c then pastBlanks? inComment r
    else if c = '#' && !inComment then pastBlanks? true r
    else some c

/-- Whether a hyphen at the front begins the end of a range. -/
def continuesRange (fl : Flags) : List Char → Bool
  | '-' :: r =>
    let next := if fl.verbose then pastBlanks? false r else r.head?
    next ≠ some ']' && next ≠ some '-'
  | _ => false

/-- One item of a list: a character, a set, or a range between two characters. -/
def listed? (fl : Flags) (s : List Char) : Option (CharSet × List Char) := do
  let (first, r) ← listItem? fl s
  let r := skip fl r
  if r = [] then none
  else if continuesRange fl r then
    match first, ← listItem? fl (skip fl r.tail) with
    | .char a, (.char b, r) => if a ≤ b then some (.range a b, r) else none
    | _, _ => none
  else
    match first with
    | .char a => some (.single a, r)
    | .set set => some (set, r)
    | .look _ => none

/-- Reads on in open brackets, the innermost first, to the end of the outermost.
Every turn but the last takes a character. -/
def brackets? (fl : Flags) : Nat → Bracket → List Bracket → List Char →
    Option (Listed × List Char)
  | 0, _, _, _ => none
  | fuel + 1, b, outer, s => do
    let s := skip fl s
    match s with
    | [] => none
    | ']' :: r =>
      let x ← b.finish? fl
      match outer with
      | [] => return (x, r)
      | parent :: outer => brackets? fl fuel (parent.add x) outer r
    | '[' :: r =>
      match namedSet? s with
      | some (negated, set, rest) =>
        let x ← ((Bracket.start negated).addSet set).finish? fl
        brackets? fl fuel (b.addSet x.set) outer rest
      | none =>
        let (inner, rest) ← Bracket.open? fl r
        brackets? fl fuel inner (b :: outer) rest
    | _ =>
      match SetOp.ofFront? s with
      | some (op, r) => brackets? fl fuel (b.addOp fl op) outer r
      | none =>
        let (set, r) ← listed? fl s
        brackets? fl fuel (b.addSet set) outer r

/-- A bracket whose `[` has been read. -/
def bracketed? (fl : Flags) (s : List Char) : Option (Listed × List Char) := do
  let (b, r) ← Bracket.open? fl s
  brackets? fl (r.length + 1) b [] r

end ColumnarSql.Regex
