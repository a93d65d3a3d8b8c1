import RecordSink.Bytes

/-!
# The random source

A reproducible stream of 32-bit words: ChaCha with eight rounds, keyed from a seed. Wider draws
take their words from the one stream, low word first, so a draw never depends on how the words
before it were grouped.
-/

namespace RecordSink

/-- A position in a stream of random words. -/
structure Random where
  /-- The eight key words. -/
  key : Array UInt32
  /-- The number of the next block. -/
  block : UInt64
  /-- Words of the current block that are not drawn yet. -/
  pending : List UInt32
  deriving Repr, Inhabited

namespace Random

/-! ## Blocks -/

/-- A word rotated to the left. -/
def rotl (word : UInt32) (count : UInt32) : UInt32 :=
  (word <<< count) ||| (word >>> (32 - count))

/-- The quarter round on four positions of the block state. -/
def quarter (state : Array UInt32) (a b c d : Nat) : Array UInt32 :=
  let add (state : Array UInt32) (target source turned : Nat) (count : UInt32) :=
    let sum := state.getD target 0 + state.getD source 0
    let state := state.setIfInBounds target sum
    state.setIfInBounds turned (rotl (state.getD turned 0 ^^^ sum) count)
  let state := add state a b d 16
  let state := add state c d b 12
  let state := add state a b d 8
  add state c d b 7

/-- A column round and a diagonal round. -/
def doubleRound (state : Array UInt32) : Array UInt32 :=
  let state := quarter state 0 4 8 12
  let state := quarter state 1 5 9 13
  let state := quarter state 2 6 10 14
  let state := quarter state 3 7 11 15
  let state := quarter state 0 5 10 15
  let state := quarter state 1 6 11 12
  let state := quarter state 2 7 8 13
  quarter state 3 4 9 14

/-- The sixteen words of a block. -/
def blockWords (key : Array UInt32) (block : UInt64) : List UInt32 :=
  let start : Array UInt32 :=
    (#[0x61707865, 0x3320646e, 0x79622d32, 0x6b206574] : Array UInt32) ++ key
      ++ (#[block.toUInt32, (block >>> 32).toUInt32, 0, 0] : Array UInt32)
  let mixed := doubleRound (doubleRound (doubleRound (doubleRound start)))
  (List.range 16).map fun index => mixed.getD index 0 + start.getD index 0

/-! ## Seeding -/

/-- The next key word of a seed: one step of a permuted congruential generator. -/
def keyWord (state : UInt64) : UInt32 × UInt64 :=
  let next := state * 6364136223846793005 + 11634580027462260723
  let mixed := (((next >>> 18) ^^^ next) >>> 27).toUInt32
  let turn := (next >>> 59).toUInt32
  ((mixed >>> turn) ||| (mixed <<< ((32 - turn) % 32)), next)

/-- The key words of a seed. -/
def keyWords : Nat → UInt64 → List UInt32
  | 0, _ => []
  | count + 1, state =>
      let (word, next) := keyWord state
      word :: keyWords count next

/-- The stream of a seed. -/
def ofSeed (seed : UInt64) : Random :=
  { key := (keyWords 8 seed).toArray, block := 0, pending := [] }

/-! ## Draws -/

/-- The next word. -/
def word (source : Random) : UInt32 × Random :=
  match source.pending with
  | first :: rest => (first, { source with pending := rest })
  | [] =>
      match blockWords source.key source.block with
      | first :: rest => (first, { source with block := source.block + 1, pending := rest })
      | [] => (0, source)

/-- The next two words as one, low word first. -/
def wide (source : Random) : UInt64 × Random :=
  let (low, source) := source.word
  let (high, source) := source.word
  (low.toUInt64 ||| (high.toUInt64 <<< 32), source)

/-- The next bytes, four to a word; what is left of the last word is used up. -/
def bytes (source : Random) (count : Nat) : Bytes × Random :=
  match count with
  | 0 => ([], source)
  | 1 | 2 | 3 | 4 =>
      let (word, source) := source.word
      ((Bytes.ofNatLE 4 word.toNat).take count, source)
  | rest + 5 =>
      let (word, source) := source.word
      let (more, source) := source.bytes (rest + 1)
      (Bytes.ofNatLE 4 word.toNat ++ more, source)
  termination_by count

/-- The next fraction in the unit interval, on the grid of `2 ^ -53`. -/
def unit (source : Random) : Float × Random :=
  let (drawn, source) := source.wide
  ((drawn >>> 11).toFloat / 9007199254740992, source)

/-- Draws until the low half of the product with the range falls into the zone, and gives the
high half. The tries are bounded; a draw falls outside the zone with probability below one
half. -/
def uniformIn (range zone : Nat) : Nat → Random → Nat × Random
  | 0, source => (0, source)
  | tries + 1, source =>
      let (drawn, source) := source.wide
      let product := drawn.toNat * range
      if product % Nat.pow 2 64 ≤ zone then (product / Nat.pow 2 64, source)
      else uniformIn range zone tries source

/-- The next natural number up to a bound, the bound included. -/
def upTo (source : Random) (bound : Nat) : Nat × Random :=
  let range := bound + 1
  let zone := range * Nat.pow 2 (63 - range.log2) - 1
  uniformIn range zone 1000 source

/-- A width decreased by one unit in the last place until the top of the interval stays below
its end. -/
def fitted (low high top : Float) : Nat → Float → Float
  | 0, width => width
  | tries + 1, width =>
      if width * top + low > high then fitted low high top tries (Float.ofBits (width.toBits - 1))
      else width

/-- The next number between two ends, both included; there is none when the ends or their
distance are not finite. -/
def between (source : Random) (low high : Float) : Option (Float × Random) :=
  let top := Float.ofBits 0x3FEFFFFFFFFFFFFE
  let width := (high - low) / top
  if !low.isFinite || !high.isFinite || high < low || !width.isFinite then none
  else
    let scale := fitted low high top 100 width
    let (drawn, source) := source.wide
    let fraction := Float.ofBits ((drawn >>> 12) ||| 0x3FF0000000000000) - 1
    some (fraction * scale + low, source)

end Random

end RecordSink
