/-!
# Encodings of a range of characters

The encodings of the characters of a range, as sequences of ranges of bytes. The
sequences come in ascending order, and each of them stands for all combinations of
its bytes.
-/

set_option autoImplicit false

namespace ColumnarSql.Utf8

/-- The bytes from `first` to `last`. -/
structure ByteRange where
  first : Nat
  last : Nat
deriving DecidableEq

def continuation : ByteRange := ⟨0x80, 0xbf⟩

/-- The code points whose encodings have one length, and that length. -/
structure Block where
  first : Nat
  last : Nat
  length : Nat

/-- The blocks of all characters; the surrogates are in none. -/
def blocks : List Block :=
  [⟨0, 0x7f, 1⟩, ⟨0x80, 0x7ff, 2⟩, ⟨0x800, 0xd7ff, 3⟩, ⟨0xe000, 0xffff, 3⟩, ⟨0x10000, 0x10ffff, 4⟩]

/-- What the first byte of an encoding of a length adds to the leading bits. -/
def leadMark (length : Nat) : Nat :=
  match length with
  | 1 => 0
  | 2 => 0xc0
  | 3 => 0xe0
  | _ => 0xf0

/-- The last bytes of an encoding, first byte first. -/
def continuations : Nat → Nat → List Nat
  | 0, _ => []
  | k + 1, n => continuations k (n / 64) ++ [0x80 + n % 64]

/-- The encoding of a code point in so many bytes. -/
def encodeIn (length n : Nat) : List Nat :=
  (leadMark length + n >>> (6 * (length - 1))) :: continuations (length - 1) n

/-- The sequences of the encodings between two encodings of one length, given as
pairs of bytes at one place. Where the first bytes differ, the encodings are those
that begin with the first of them, those that begin with the second, and those with
a byte between, to which the others are added if they are complete. -/
def between : List (Nat × Nat) → List (List ByteRange)
  | [] => [[]]
  | (a, b) :: r =>
    if a = b then (between r).map (⟨a, a⟩ :: ·)
    else
      let fromStart := r.all (·.1 = 0x80)
      let toEnd := r.all (·.2 = 0xbf)
      let low := if fromStart then a else a + 1
      let high := if toEnd then b else b - 1
      (if fromStart then [] else (between (r.map fun p => (p.1, 0xbf))).map (⟨a, a⟩ :: ·)) ++
      (if low ≤ high then [⟨low, high⟩ :: r.map fun _ => continuation] else []) ++
      (if toEnd then [] else (between (r.map fun p => (0x80, p.2))).map (⟨b, b⟩ :: ·))
termination_by r => r.length

/-- The sequences of the encodings of the characters from one code point to another. -/
def sequences (first last : Nat) : List (List ByteRange) :=
  blocks.flatMap fun b =>
    let low := max first b.first
    let high := min last b.last
    if low ≤ high then between ((encodeIn b.length low).zip (encodeIn b.length high)) else []

end ColumnarSql.Utf8
