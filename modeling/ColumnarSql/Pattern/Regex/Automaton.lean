import ColumnarSql.Pattern.Regex.Basic
import ColumnarSql.Text.Utf8
import ColumnarSql.Text.Utf8Range
import Std.Data.HashMap

/-!
# The size of automata

A pattern is refused if an automaton for it would be too large. One automaton reads
the bytes of a text forwards, another one reads them backwards. Here the states of an
automaton are counted as they would be made, and numbered, since two states for the
bytes of characters are shared if a table of bounded size still knows the first when
the second is wanted, and the number of a state decides about its place in the table.
-/

set_option autoImplicit false

namespace ColumnarSql

open Utf8 (ByteRange)

/-- The part of an automaton that is finished. -/
structure Automaton where
  /-- The number of states, which is the number of the next state. -/
  states : Nat
  /-- Bytes for transitions and branches. -/
  links : Nat

namespace Automaton

/-! ## Bytes -/

/-- Bytes of an automaton, 32 for each state. -/
def bytes (a : Automaton) : Nat := 32 * a.states + a.links

/-- Bytes an automaton may take. -/
def maxBytes : Nat := 10 * 1024 * 1024

def isTooLarge (a : Automaton) : Bool := maxBytes < a.bytes

def addStates (a : Automaton) (n : Nat) : Automaton := { a with states := a.states + n }

/-- A transition takes 8 bytes. -/
def addTransitions (a : Automaton) (n : Nat) : Automaton := { a with links := a.links + 8 * n }

/-- A branch takes 4 bytes. -/
def addBranches (a : Automaton) (n : Nat) : Automaton := { a with links := a.links + 4 * n }

/-! ## Tables of states -/

/-- The numbers that tell states apart are mixed into one. -/
def mix (h : UInt64) (n : Nat) : UInt64 := (h ^^^ UInt64.ofNat n) * 0x100000001b3

def mixStart : UInt64 := 0xcbf29ce484222325

/-- States by their places in a table; a place keeps the last state put there. -/
structure Known (κ : Type) where
  places : Std.HashMap UInt64 (κ × Nat)

namespace Known

variable {κ : Type}

def none : Known κ := ⟨∅⟩

/-- The number of the state with a key, if its place still holds it. -/
def find? [DecidableEq κ] (t : Known κ) (place : UInt64) (key : κ) : Option Nat :=
  match t.places[place]? with
  | some (k, n) => if k = key then some n else Option.none
  | Option.none => Option.none

def insert (t : Known κ) (place : UInt64) (key : κ) (n : Nat) : Known κ :=
  ⟨t.places.insert place (key, n)⟩

end Known

/-! ## Sets read forwards -/

/-- A transition to a state. -/
structure Edge where
  range : ByteRange
  target : Nat
deriving DecidableEq

/-- A state on the way to the last sequence: its finished transitions, the last one
first, and the bytes of the next one. -/
structure Node where
  edges : List Edge
  pending : Option ByteRange

/-- The last transition gets its target. -/
def Node.close (n : Node) (target : Nat) : List Edge :=
  match n.pending with
  | some r => ⟨r, target⟩ :: n.edges
  | none => n.edges

/-- An automaton and its known states. -/
structure Sharing (κ : Type) where
  automaton : Automaton
  known : Known κ

/-- Places for states that are known by their transitions. -/
def edgePlaces : UInt64 := 10000

def edgePlace (edges : List Edge) : UInt64 :=
  edges.foldr (fun e h => mix (mix (mix h e.range.first) e.range.last) e.target) mixStart %
    edgePlaces

/-- The state with the given transitions, made if it is not known. -/
def stateOf (edges : List Edge) (s : Sharing (List Edge)) : Nat × Sharing (List Edge) :=
  let place := edgePlace edges
  match s.known.find? place edges with
  | some n => (n, s)
  | none =>
    let n := s.automaton.states
    (n, ⟨(s.automaton.addStates 1).addTransitions edges.length, s.known.insert place edges n⟩)

/-- The state of the first of some nodes, the others having been made before. -/
def closeAll (target : Nat) : List Node → Sharing (List Edge) → Nat × Sharing (List Edge)
  | [], s => (target, s)
  | n :: ns, s =>
    let (next, s) := closeAll target ns s
    stateOf (n.close next) s

/-- Adds a sequence that comes after all others. -/
def addSequence (target : Nat) : List Node → List ByteRange → Sharing (List Edge) →
    List Node × Sharing (List Edge)
  | n :: ns, r :: rs, s =>
    if n.pending = some r then
      let (ns, s) := addSequence target ns rs s
      (n :: ns, s)
    else
      let (next, s) := closeAll target ns s
      (⟨n.close next, some r⟩ :: rs.map fun q => ⟨[], some q⟩, s)
  | ns, _, s => (ns, s)

/-- A set whose members are read from the first byte to the last. The state after all
of them is made first. -/
def addForwards (sequences : List (List ByteRange)) (a : Automaton) : Automaton :=
  let target := a.states
  let start : List Node × Sharing (List Edge) := ([⟨[], none⟩], ⟨a.addStates 1, .none⟩)
  let (nodes, s) := sequences.foldl (fun p q => addSequence target p.1 q p.2) start
  (closeAll target nodes s).2.automaton

/-! ## Sets read backwards -/

/-- Some bytes and the state that follows them. -/
structure Step where
  target : Nat
  range : ByteRange
deriving DecidableEq

/-- Places for states that are known by their only transition. -/
def stepPlaces : UInt64 := 1000

def stepPlace (s : Step) : UInt64 :=
  mix (mix (mix mixStart s.target) s.range.first) s.range.last % stepPlaces

/-- The state that reads some bytes and goes on with a state, made if it is not known. -/
def stepTo (p : Nat × Sharing Step) (r : ByteRange) : Nat × Sharing Step :=
  let step : Step := ⟨p.1, r⟩
  let place := stepPlace step
  match p.2.known.find? place step with
  | some n => (n, p.2)
  | none =>
    let n := p.2.automaton.states
    (n, ⟨p.2.automaton.addStates 1, p.2.known.insert place step n⟩)

/-- A set whose members are read from the last byte to the first: a state with a
branch for every sequence, the state after all of them, and the states between. -/
def addBackwards (sequences : List (List ByteRange)) (a : Automaton) : Automaton :=
  let target := a.states + 1
  let start : Sharing Step := ⟨a.addStates 2, .none⟩
  let s := sequences.foldl (fun s q => (q.foldl stepTo (target, s)).2) start
  s.automaton.addBranches sequences.length

/-- A set. ASCII characters need only one transition for each span. -/
def addSet (backwards : Bool) (s : CharSet) (a : Automaton) : Automaton :=
  if s.isAscii then (a.addStates 2).addTransitions s.spans.length
  else
    let sequences := s.spans.flatMap fun p => Utf8.sequences p.first p.last
    if backwards then addBackwards sequences a else addForwards sequences a

/-! ## Words -/

/-- Words up to each empty word. Empty words in front count only once. -/
def chunks (words : List (List UInt8)) : List (List (List UInt8)) :=
  let rec split : List (List UInt8) → List (List (List UInt8))
    | [] => [[]]
    | [] :: ws => [] :: split ws
    | w :: ws =>
      match split ws with
      | c :: cs => (w :: c) :: cs
      | [] => [[w]]
  match words with
  | [] :: ws => [] :: split (ws.dropWhile (· = []))
  | ws => split ws

/-- What follows a byte in the words that begin with it. -/
def after (b : UInt8) (words : List (List UInt8)) : List (List UInt8) :=
  words.filterMap fun w => if w.head? = some b then some w.tail else none

/-- A choice between words as a tree: a word that ends where others go on begins a new
chunk, and every chunk that is not empty has a state. The first argument is greater
than the length of the words. -/
def addTree : Nat → List (List UInt8) → Automaton → Automaton
  | 0, _, a => a
  | fuel + 1, words, a =>
    let cs := chunks words
    let addChunk := fun (a : Automaton) (chunk : List (List UInt8)) =>
      let firsts := (chunk.filterMap List.head?).eraseDups
      let a := firsts.foldl (fun a b =>
        let rest := after b chunk
        if rest.all List.isEmpty then a else addTree fuel rest a) a
      match firsts with
      | [] => a
      | [_] => (a.addStates 1).addBranches 1
      | bs => ((a.addStates 1).addTransitions bs.length).addBranches 1
    ((cs.foldl addChunk a).addStates 1).addBranches (cs.length - 1)

end Automaton

/-! ## Expressions -/

namespace Regex

open Automaton

/-- Something added a number of times, or until the automaton is too large. -/
def addCopies (add : Automaton → Automaton) : Nat → Automaton → Automaton
  | 0, a => a
  | k + 1, a => if a.isTooLarge then a else addCopies add k (add a)

/-- Some copies one after the other. -/
def addExactly (add : Automaton → Automaton) (k : Nat) (a : Automaton) : Automaton :=
  if k = 0 then a.addStates 1 else addCopies add k a

/-- A repetition without a bound: `canBeEmpty` says that a copy may match nothing. A
state at which to repeat or go on has two branches. -/
def addUnbounded (add : Automaton → Automaton) (canBeEmpty : Bool) (least : Nat) (a : Automaton) :
    Automaton :=
  if least = 0 then
    if canBeEmpty then ((add a).addStates 3).addBranches 4
    else (add (a.addStates 1)).addBranches 2
  else ((addExactly add least a).addStates 1).addBranches 2

/-- A repetition with a bound: every copy above the least number is behind a state at
which to take it or not. -/
def addBounded (add : Automaton → Automaton) (least most : Nat) (a : Automaton) : Automaton :=
  if least = 0 && most = 1 then (add (a.addStates 1)).addStates 1 |>.addBranches 2
  else if least = most then addExactly add least a
  else
    addCopies (fun a => (add (a.addStates 1)).addBranches 2) (most - least)
      ((addExactly add least a).addStates 1)

/-- The bytes of a literal. -/
def word? : Regex → Option (List UInt8)
  | literal cs => some (Utf8.encode (String.ofList cs))
  | _ => none

mutual

/-- Adds the states of an expression, which is read forwards or backwards. Groups are
marked only forwards. -/
def addTo (backwards : Bool) : Regex → Automaton → Automaton
  | empty, a | look _, a => a.addStates 1
  | literal cs, a => a.addStates (String.ofList cs).utf8ByteSize
  | oneOf _ s, a => addSet backwards s a
  | seq rs, a => if backwards then addBackTo rs a else addAllTo rs a
  | alt rs, a =>
    match rs.mapM word? with
    | some ws =>
      let ws := if backwards then ws.map List.reverse else ws
      addTree ((ws.map List.length).foldl max 0 + 1) ws (a.addStates 1)
    | none => (addBranchesTo backwards 0 rs a).addBranches rs.length
  | times least most _ r, a =>
    match most with
    | some k => addBounded (addTo backwards r) least k a
    | none => addUnbounded (addTo backwards r) (r.minLength.all (· = 0)) least a
  | group _ r, a =>
    if backwards then addTo backwards r a
    else (addTo backwards r (a.addStates 1)).addStates 1
termination_by structural r => r

def addAllTo : List Regex → Automaton → Automaton
  | [], a => a
  | r :: rs, a => addAllTo rs (addTo false r a)
termination_by structural rs => rs

def addBackTo : List Regex → Automaton → Automaton
  | [], a => a
  | r :: rs, a => addTo true r (addBackTo rs a)
termination_by structural rs => rs

/-- Alternatives; after the second come the states before and after all of them. -/
def addBranchesTo (backwards : Bool) (index : Nat) : List Regex → Automaton → Automaton
  | [], a => a
  | r :: rs, a =>
    let a := addTo backwards r a
    addBranchesTo backwards (index + 1) rs (if index = 1 then a.addStates 2 else a)
termination_by structural rs => rs

end

/-- The automaton that finds matches, read forwards, or backwards from their ends. It
begins with any number of bytes, unless every match is at the end of the text where
reading begins, and it ends with one state. The whole match is a group. -/
def automaton (backwards : Bool) (r : Regex) : Automaton :=
  let isBound := r.isBoundBy (if backwards then .textEnd else .textStart) backwards
  let start : Automaton :=
    if isBound then ⟨1, 0⟩ else ((⟨3, 0⟩ : Automaton).addTransitions 1).addBranches 2
  (addTo backwards (if backwards then r else group 0 r) start).addStates 1

/-- Whether the expression is a choice between so many words that it is searched
without an automaton. -/
def isWordList : Regex → Bool
  | alt rs => 3000 ≤ rs.length && (rs.mapM word?).isSome
  | _ => false

/-- Whether an automaton for the expression is too large. -/
def isTooLarge (r : Regex) : Bool :=
  !r.isWordList && ((automaton false r).isTooLarge || (automaton true r).isTooLarge)

end Regex

end ColumnarSql
