import ColumnarSql.Pattern.CharSet

/-!
# Regular expressions

Regular expressions in a normal form: the functions below that put expressions
together join neighbouring literals, lift sequences out of sequences and choices out
of choices, make one set of a choice between characters or between sets, and take
the common beginning of alternatives out of their choice.
-/

set_option autoImplicit false

namespace ColumnarSql

/-- Conditions on a position by the word characters next to it. -/
inductive WordEdge where
  | edge
  | noEdge
  | start
  | finish
  | startHalf
  | finishHalf
deriving DecidableEq

/-- Conditions on a position. Lines end at a line feed, or with `crlf` also at a
carriage return, where the two together end one line. -/
inductive Look where
  | textStart
  | textEnd
  | lineStart (crlf : Bool)
  | lineEnd (crlf : Bool)
  | word (condition : WordEdge) (ascii : Bool)
deriving DecidableEq

inductive Regex where
  | empty
  | literal (cs : List Char)
  /-- One character of a set; `ascii` says that the set was written where only
  ASCII characters may be matched. -/
  | oneOf (ascii : Bool) (s : CharSet)
  | look (l : Look)
  | seq (rs : List Regex)
  | alt (rs : List Regex)
  /-- At least `least` and, if there is a bound, at most `most` times. -/
  | times (least : Nat) (most : Option Nat) (greedy : Bool) (r : Regex)
  /-- A numbered group. -/
  | group (index : Nat) (r : Regex)

namespace Regex

/-! ## Equality and size -/

mutual

def beq : Regex → Regex → Bool
  | empty, empty => true
  | literal a, literal b => a = b
  | oneOf a s, oneOf b t => a = b && s = t
  | look a, look b => a = b
  | seq rs, seq ss => beqAll rs ss
  | alt rs, alt ss => beqAll rs ss
  | times l m g r, times l' m' g' r' => l = l' && m = m' && g = g' && beq r r'
  | group i r, group j s => i = j && beq r s
  | _, _ => false
termination_by structural r => r

def beqAll : List Regex → List Regex → Bool
  | [], [] => true
  | r :: rs, s :: ss => beq r s && beqAll rs ss
  | _, _ => false
termination_by structural rs => rs

end

instance : BEq Regex := ⟨beq⟩

mutual

/-- How many expressions there are in an expression. -/
def nodes : Regex → Nat
  | seq rs | alt rs => nodesAll rs + 1
  | times _ _ _ r | group _ r => nodes r + 1
  | _ => 1
termination_by structural r => r

def nodesAll : List Regex → Nat
  | [] => 0
  | r :: rs => nodes r + nodesAll rs
termination_by structural rs => rs

end

/-! ## Lengths of matches -/

mutual

/-- Whether all matches are empty and there may be one. -/
def isEmptyOnly : Regex → Bool
  | empty | look _ => true
  | literal cs => cs = []
  | oneOf _ _ => false
  | seq rs | alt rs => areEmptyOnly rs
  | times _ most _ r => most.isSome && isEmptyOnly r
  | group _ r => isEmptyOnly r
termination_by structural r => r

def areEmptyOnly : List Regex → Bool
  | [] => true
  | r :: rs => isEmptyOnly r && areEmptyOnly rs
termination_by structural rs => rs

end

mutual

/-- The fewest characters of a match, if there may be one. -/
def minLength : Regex → Option Nat
  | empty | look _ => some 0
  | literal cs => some cs.length
  | oneOf _ s => if s.isEmpty then none else some 1
  | seq rs => minLengthSeq rs
  | alt rs => minLengthAlt rs
  | times least _ _ r => (minLength r).map (least * ·)
  | group _ r => minLength r
termination_by structural r => r

def minLengthSeq : List Regex → Option Nat
  | [] => some 0
  | r :: rs => (minLength r).bind fun n => (minLengthSeq rs).map (n + ·)
termination_by structural rs => rs

/-- Of alternatives all of which may match. -/
def minLengthAlt : List Regex → Option Nat
  | [] => none
  | [r] => minLength r
  | r :: s :: rs => (minLength r).bind fun n => (minLengthAlt (s :: rs)).map (min n ·)
termination_by structural rs => rs

end

/-! ## Sets -/

/-- The expression without a match. -/
def fail : Regex := oneOf true .none

/-- One character of a set. -/
def ofSet (ascii : Bool) (s : CharSet) : Regex :=
  if s.isEmpty then fail
  else
    match s.single? with
    | some c => literal [c]
    | none => oneOf ascii s

/-! ## Sequences -/

/-- The expressions that a sequence has in place of an expression. -/
def steps : Regex → List Regex
  | empty => []
  | seq rs => rs
  | r => [r]

/-- Joins neighbouring literals. -/
def joinLiterals : List Regex → List Regex
  | [] => []
  | r :: rs =>
    match r, joinLiterals rs with
    | literal a, literal b :: rest => literal (a ++ b) :: rest
    | r, rest => r :: rest

def concat (rs : List Regex) : Regex :=
  match joinLiterals (rs.flatMap steps) with
  | [] => empty
  | [r] => r
  | rs => seq rs

/-! ## Choices -/

/-- The expressions that a choice has in place of an expression. -/
def branches : Regex → List Regex
  | alt rs => rs
  | r => [r]

def singleChar? : Regex → Option Char
  | literal [c] => some c
  | _ => none

def oneOf? : Regex → Option CharSet
  | oneOf _ s => some s
  | _ => none

def seq? : Regex → Option (List Regex)
  | seq rs => some rs
  | _ => none

/-- The common beginning of two lists. -/
def commonPrefix : List Regex → List Regex → List Regex
  | r :: rs, s :: ss => if r == s then r :: commonPrefix rs ss else []
  | _, _ => []

/-- A choice; the first argument bounds how often a common beginning is taken out. -/
def choose : Nat → List Regex → Regex
  | 0, rs => alt rs
  | fuel + 1, rs =>
    match rs.flatMap branches with
    | [] => fail
    | [r] => r
    | rs =>
      match rs.mapM singleChar?, rs.mapM oneOf?, rs.mapM seq? with
      | some cs, _, _ => ofSet false (.ofList (cs.map CharSet.single))
      | none, some sets, _ => ofSet false (.ofList sets)
      | none, none, some (s :: ss) =>
        match ss.foldl commonPrefix s with
        | [] => alt rs
        | first =>
          let rests := (s :: ss).map fun l => concat (l.drop first.length)
          concat (first ++ [choose fuel rests])
      | none, none, _ => alt rs

/-- A choice. Every common beginning taken out leaves fewer expressions. -/
def alternation (rs : List Regex) : Regex := choose (nodesAll rs + 1) rs

/-! ## Repetitions -/

/-- A repetition. What is always empty need not be repeated. -/
def repetition (least : Nat) (most : Option Nat) (greedy : Bool) (r : Regex) : Regex :=
  let (least, most) :=
    if r.isEmptyOnly then (min least 1, some (most.elim 1 (min · 1))) else (least, most)
  if most = some 0 then empty
  else if least = 1 && most = some 1 then r
  else times least most greedy r

/-! ## Anchors -/

mutual

/-- Whether every match is known to begin, or to end, with a condition. -/
def isBoundBy (l : Look) (atEnd : Bool) : Regex → Bool
  | look k => k = l
  | seq rs => if atEnd then endsBoundBy l rs else startsBoundBy l rs
  | alt rs => areBoundBy l atEnd rs
  | times least _ _ r => 0 < least && isBoundBy l atEnd r
  | group _ r => isBoundBy l atEnd r
  | _ => false
termination_by structural r => r

/-- Of a sequence, up to the first expression that need not be empty. -/
def startsBoundBy (l : Look) : List Regex → Bool
  | [] => false
  | r :: rs => isBoundBy l false r || (isEmptyOnly r && startsBoundBy l rs)
termination_by structural rs => rs

/-- Of a sequence, from the last expression that need not be empty. -/
def endsBoundBy (l : Look) : List Regex → Bool
  | [] => false
  | r :: rs => endsBoundBy l rs || (areEmptyOnly rs && isBoundBy l true r)
termination_by structural rs => rs

def areBoundBy (l : Look) (atEnd : Bool) : List Regex → Bool
  | [] => true
  | r :: rs => isBoundBy l atEnd r && areBoundBy l atEnd rs
termination_by structural rs => rs

end

end Regex

end ColumnarSql
