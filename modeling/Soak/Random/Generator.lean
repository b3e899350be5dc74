import Soak.Number.Instances

/-!
# The stream of random words

A generator is the ChaCha stream cipher with twelve rounds: its key is expanded from a
64-bit seed, its counter starts at zero, and its stream number is zero.  The words of one
block after the other form a single stream, from which the draws of
`Soak.Random.Draw` take their words.

Generators of different threads are derived from one master seed by `Seeds.stream`.
-/

namespace Soak

/-- A random number generator. -/
structure Generator where
  /-- The eight words of the key. -/
  key : List UInt32
  /-- The number of the next block. -/
  counter : UInt64
  /-- The words of the current block that have not been drawn. -/
  pending : List UInt32
deriving DecidableEq, Repr

namespace Generator

/-- The word turned left by a number of bits below 32. -/
def rotateLeft (w k : UInt32) : UInt32 :=
  (w <<< k) ||| (w >>> (32 - k))

/-- The word turned right by a number of bits below 32. -/
def rotateRight (w k : UInt32) : UInt32 :=
  if k = 0 then w else (w >>> k) ||| (w <<< (32 - k))

/-- The quarter round on four words. -/
def quarterRound (a b c d : UInt32) : UInt32 × UInt32 × UInt32 × UInt32 :=
  let a := a + b
  let d := rotateLeft (d ^^^ a) 16
  let c := c + d
  let b := rotateLeft (b ^^^ c) 12
  let a := a + b
  let d := rotateLeft (d ^^^ a) 8
  let c := c + d
  let b := rotateLeft (b ^^^ c) 7
  (a, b, c, d)

/-- One round on the columns of the square of sixteen words and one on its diagonals. -/
def doubleRound : List UInt32 → List UInt32
  | [x0, x1, x2, x3, x4, x5, x6, x7, x8, x9, x10, x11, x12, x13, x14, x15] =>
    let (x0, x4, x8, x12) := quarterRound x0 x4 x8 x12
    let (x1, x5, x9, x13) := quarterRound x1 x5 x9 x13
    let (x2, x6, x10, x14) := quarterRound x2 x6 x10 x14
    let (x3, x7, x11, x15) := quarterRound x3 x7 x11 x15
    let (x0, x5, x10, x15) := quarterRound x0 x5 x10 x15
    let (x1, x6, x11, x12) := quarterRound x1 x6 x11 x12
    let (x2, x7, x8, x13) := quarterRound x2 x7 x8 x13
    let (x3, x4, x9, x14) := quarterRound x3 x4 x9 x14
    [x0, x1, x2, x3, x4, x5, x6, x7, x8, x9, x10, x11, x12, x13, x14, x15]
  | other => other

/-- The square before the rounds: four constants, the key, the block counter and the
stream number zero. -/
def square (key : List UInt32) (counter : UInt64) : List UInt32 :=
  0x61707865 :: 0x3320646e :: 0x79622d32 :: 0x6b206574 :: key
    ++ [counter.toUInt32, (counter >>> 32).toUInt32, 0, 0]

/-- The words of one block: twelve rounds, added to the square they started from. -/
def block (key : List UInt32) (counter : UInt64) : List UInt32 :=
  let start := square key counter
  let mixed := (List.range 6).foldl (fun words _ => doubleRound words) start
  List.zipWith (· + ·) start mixed

/-- The next state of the sequence that a seed is expanded by. -/
def expandState (state : UInt64) : UInt64 :=
  state * 6364136223846793005 + 11634580027462260723

/-- The key word of a state of that sequence. -/
def expandWord (state : UInt64) : UInt32 :=
  rotateRight (((state >>> 18) ^^^ state) >>> 27).toUInt32 (state >>> 59).toUInt32

/-- A number of key words from a seed. -/
def expand : Nat → UInt64 → List UInt32
  | 0, _ => []
  | n + 1, state => expandWord (expandState state) :: expand n (expandState state)

/-- The generator of a seed. -/
def ofSeed (seed : UInt64) : Generator :=
  ⟨expand 8 seed, 0, []⟩

/-- The next word and the generator behind it. -/
def nextWord (g : Generator) : UInt32 × Generator :=
  match g.pending with
  | w :: rest => (w, { g with pending := rest })
  | [] =>
    match block g.key g.counter with
    | w :: rest => (w, { g with counter := g.counter + 1, pending := rest })
    | [] => (0, g)

/-- The next two words as one, the low one first. -/
def nextLong (g : Generator) : UInt64 × Generator :=
  let (low, g) := g.nextWord
  let (high, g) := g.nextWord
  ((high.toUInt64 <<< 32) ||| low.toUInt64, g)

end Generator

/-- The source of the generators of a run: every thread has a stream of its own. -/
structure Seeds where
  /-- The master seed. -/
  master : UInt64
deriving DecidableEq, Repr

namespace Seeds

/-- The distance between the seeds of neighbouring streams. -/
def stride : UInt64 :=
  0x9E3779B97F4A7C15

/-- The seed of a stream. -/
def seedOf (s : Seeds) (stream : UInt64) : UInt64 :=
  s.master + (stream + 1) * stride

/-- The generator of a stream. -/
def stream (s : Seeds) (index : Nat) : Generator :=
  .ofSeed (s.seedOf (UInt64.ofNat index))

end Seeds

end Soak
