/-!
# A stream of random words

The ChaCha stream cipher with eight rounds, used as a generator: the key is spread from a
64-bit seed, blocks are numbered from zero by a 64-bit counter, and a draw is two words of
the stream, the low one first.
-/

namespace Concord.Random

/-- Sixteen words, which is one block of the stream. -/
abbrev Block := Vector UInt32 16

/-- Eight words. -/
abbrev Key := Vector UInt32 8

/-- Rotate a word to the left. -/
def rotateLeft (word amount : UInt32) : UInt32 :=
  (word <<< amount) ||| (word >>> (32 - amount))

/-- Rotate a word to the right by an amount below thirty-two. -/
def rotateRight (word amount : UInt32) : UInt32 :=
  if amount = 0 then word else (word >>> amount) ||| (word <<< (32 - amount))

/-- Mix four words of a block. -/
def quarterRound (block : Block) (a b c d : Fin 16) : Block :=
  let a₁ := block[a] + block[b]
  let d₁ := rotateLeft (block[d] ^^^ a₁) 16
  let c₁ := block[c] + d₁
  let b₁ := rotateLeft (block[b] ^^^ c₁) 12
  let a₂ := a₁ + b₁
  let d₂ := rotateLeft (d₁ ^^^ a₂) 8
  let c₂ := c₁ + d₂
  let b₂ := rotateLeft (b₁ ^^^ c₂) 7
  (((block.set a a₂).set b b₂).set c c₂).set d d₂

/-- One round over the columns of a block and one over its diagonals. -/
def doubleRound (block : Block) : Block :=
  let columns :=
    quarterRound (quarterRound (quarterRound (quarterRound block 0 4 8 12) 1 5 9 13) 2 6 10 14)
      3 7 11 15
  quarterRound (quarterRound (quarterRound (quarterRound columns 0 5 10 15) 1 6 11 12) 2 7 8 13)
    3 4 9 14

/-- The block that the rounds start from. -/
def initialBlock (key : Key) (counter : UInt64) : Block :=
  #v[0x61707865, 0x3320646e, 0x79622d32, 0x6b206574,
    key[0], key[1], key[2], key[3], key[4], key[5], key[6], key[7],
    counter.toUInt32, (counter >>> 32).toUInt32, 0, 0]

/-- One block of the stream. -/
def streamBlock (key : Key) (counter : UInt64) : Block :=
  let initial := initialBlock key counter
  let mixed := doubleRound (doubleRound (doubleRound (doubleRound initial)))
  Vector.zipWith (· + ·) mixed initial

/-- The draws that a list of words gives. -/
def pairWords : List UInt32 → List UInt64
  | low :: high :: rest => (low.toUInt64 ||| (high.toUInt64 <<< 32)) :: pairWords rest
  | _ => []

/-- A generator: its key, the next block, and the draws left of the last one. -/
structure Generator where
  key : Key
  counter : UInt64
  pending : List UInt64

namespace Generator

/-- One step of the sequence that spreads a seed. -/
def spread (state : UInt64) : UInt64 :=
  state * 6364136223846793005 + 11634580027462260723

/-- The word that one state of that sequence gives. -/
def spreadWord (state : UInt64) : UInt32 :=
  rotateRight (((state >>> 18) ^^^ state) >>> 27).toUInt32 (state >>> 59).toUInt32

/-- The states that follow a seed. -/
def spreadStates : Nat → UInt64 → List UInt64
  | 0, _ => []
  | count + 1, state => spread state :: spreadStates count (spread state)

/-- The generator of a seed. -/
def ofSeed (seed : UInt64) : Generator :=
  let words := (spreadStates 8 seed).map spreadWord
  ⟨Vector.ofFn fun index => words.getD index 0, 0, []⟩

/-- Draw sixty-four bits. -/
def next (generator : Generator) : UInt64 × Generator :=
  match generator.pending with
  | draw :: pending => (draw, { generator with pending })
  | [] =>
    match pairWords (streamBlock generator.key generator.counter).toList with
    | draw :: pending => (draw, { generator with counter := generator.counter + 1, pending })
    | [] => (0, generator)

/-- Draw the given number of times. -/
def take : Nat → Generator → List UInt64
  | 0, _ => []
  | count + 1, generator =>
    let (draw, after) := generator.next
    draw :: take count after

/-- The largest low half of a product for which its high half is accepted: the largest
multiple of the range that is a power of two times it, less one. -/
def acceptance (range : Nat) : Nat :=
  (range <<< (63 - Nat.log2 range)) - 1

/-- Draw until the low half of the product with the range is accepted. A draw is refused
less than half of the time; after `attempts` refusals the result is zero. -/
def drawBelow (range : Nat) : (attempts : Nat) → Generator → UInt64 × Generator
  | 0, generator => (0, generator)
  | attempts + 1, generator =>
    let (draw, after) := generator.next
    let product := draw.toNat * range
    if product % UInt64.size ≤ acceptance range then (UInt64.ofNat (product / UInt64.size), after)
    else drawBelow range attempts after

/-- Draw a number up to and including `largest`, each equally likely. -/
def drawUpTo (largest : UInt64) (generator : Generator) : UInt64 × Generator :=
  if largest.toNat + 1 = UInt64.size then generator.next
  else drawBelow (largest.toNat + 1) 1024 generator

end Generator

end Concord.Random
