import ColumnarSql.Pattern.Regex.Basic

/-!
# Matching

A regular expression relates the positions of a text: from which position to which a
match leads. The relation is a list with one number for every position `0, …, n` of
a text of `n` characters. Bit `d` of the number of a position says that a match
leads from there `d` characters further.
-/

set_option autoImplicit false

namespace ColumnarSql

/-! ## Conditions -/

namespace WordEdge

/-- The condition, given whether word characters are before and after. -/
def holds (before after : Bool) : WordEdge → Bool
  | edge => before != after
  | noEdge => before == after
  | start => !before && after
  | finish => before && !after
  | startHalf => !before
  | finishHalf => !after

end WordEdge

namespace Look

/-- The condition, given the characters before and after the position. -/
def holds (before after : Option Char) : Look → Bool
  | textStart => before.isNone
  | textEnd => after.isNone
  | lineStart false => before.all (· = '\n')
  | lineEnd false => after.all (· = '\n')
  | lineStart true => before.all fun b => b = '\n' || (b = '\r' && after ≠ some '\n')
  | lineEnd true => after.all fun a => a = '\r' || (a = '\n' && before ≠ some '\r')
  | word e ascii =>
    let set := if ascii then CharSet.asciiWords else CharSet.words
    e.holds (before.any set.contains) (after.any set.contains)

end Look

/-! ## Relations -/

/-- For every position, the distances that matches from there can have. -/
abbrev Reach := List Nat

namespace Reach

/-- The number whose only bit says that nothing is consumed. -/
def bit (b : Bool) : Nat := if b then 1 else 0

/-- Distances that begin with one of the given distances and go on from there. -/
def through (distances : Nat) : Reach → Nat
  | [] => 0
  | n :: ns =>
    if distances = 0 then 0
    else (if distances % 2 = 1 then n else 0) ||| (through (distances / 2) ns <<< 1)

/-- One relation after the other. -/
def compose : Reach → Reach → Reach
  | a :: as, b :: bs => through a (b :: bs) :: compose as bs
  | _, _ => []

/-- One relation or the other. -/
def either (a b : Reach) : Reach := List.zipWith (· ||| ·) a b

/-- Staying at every position. -/
def stay (a : Reach) : Reach := a.map fun _ => 1

/-- Any number of steps. A step to the same position adds nothing. -/
def closure : Reach → Reach
  | [] => []
  | a :: as =>
    let rest := closure as
    (1 ||| (through (a / 2) rest <<< 1)) :: rest

/-- A number of steps. -/
def power (a : Reach) (k : Nat) : Reach :=
  if k = 0 then a.stay
  else
    let half := power a (k / 2)
    let twice := half.compose half
    if k % 2 = 1 then twice.compose a else twice
termination_by k

/-- At least and, if there is a bound, at most some numbers of steps. Steps never
lead back, so that of more steps than there are positions some stay where they are,
and such a step may be dropped or repeated. -/
def repeated (a : Reach) (least : Nat) (most : Option Nat) : Reach :=
  let first := a.power (min least a.length)
  match most with
  | none => first.compose a.closure
  | some k => first.compose ((a.either a.stay).power (min (k - least) a.length))

end Reach

/-! ## Expressions -/

namespace Regex

/-- The characters before and after every position. -/
def neighbours (before : Option Char) : List Char → List (Option Char × Option Char)
  | [] => [(before, none)]
  | c :: cs => (before, some c) :: neighbours (some c) cs

/-- The relation of a literal. -/
def literalReach (cs : List Char) : List Char → Reach
  | [] => [Reach.bit (cs = [])]
  | c :: text => (Reach.bit (cs.isPrefixOf (c :: text)) <<< cs.length) :: literalReach cs text

mutual

/-- The relation of an expression on a text. -/
def reach (text : List Char) : Regex → Reach
  | empty => 1 :: text.map fun _ => 1
  | literal cs => literalReach cs text
  | oneOf _ s => (text.map fun c => Reach.bit (s.contains c) <<< 1) ++ [0]
  | look l => (neighbours none text).map fun around => Reach.bit (l.holds around.1 around.2)
  | seq rs => seqReach text rs
  | alt rs => altReach text rs
  | times least most _ r => (reach text r).repeated least most
  | group _ r => reach text r
termination_by structural r => r

def seqReach (text : List Char) : List Regex → Reach
  | [] => 1 :: text.map fun _ => 1
  | r :: rs => (reach text r).compose (seqReach text rs)
termination_by structural rs => rs

def altReach (text : List Char) : List Regex → Reach
  | [] => 0 :: text.map fun _ => 0
  | r :: rs => (reach text r).either (altReach text rs)
termination_by structural rs => rs

end

/-- Whether some part of the text matches. -/
def occursIn (r : Regex) (text : String) : Bool := (r.reach text.toList).any (· ≠ 0)

end Regex

end ColumnarSql
