import SignedQueue.Text.Utf8
/-!
**The SHA-1 digest.** A message is filled up to whole blocks of 64 octets, and each block is mixed
into five words by eighty rounds.

* `Sha1.pad`: the message filled up with a mark, zeros and its length in bits;
* `Sha1.compress`: one block mixed into the state;
* `Sha1.digest`: the twenty octets of a message.
-/

namespace SignedQueue.Sha1

/-- The five words that are mixed. -/
structure State where
  a : UInt32
  b : UInt32
  c : UInt32
  d : UInt32
  e : UInt32
  deriving Repr, DecidableEq

/-- The state before the first block. -/
def State.start : State :=
  ⟨0x67452301, 0xEFCDAB89, 0x98BADCFE, 0x10325476, 0xC3D2E1F0⟩

/-- The bits of a word moved to the left in a circle. -/
def rotate (word : UInt32) (amount : UInt32) : UInt32 :=
  (word <<< amount) ||| (word >>> (32 - amount))

/-- The big-endian octets of a number, `count` of them. -/
def bigEndian : (count : Nat) → Nat → Octets
  | 0, _ => []
  | count + 1, number => bigEndian count (number / 256) ++ [UInt8.ofNat (number % 256)]

/-- The message with the mark `0x80`, zeros up to eight octets before a block's end, and its length
in bits. -/
def pad (message : Octets) : Octets :=
  message ++ 0x80 :: List.replicate ((119 - message.length % 64) % 64) 0 ++
    bigEndian 8 (message.length * 8)

/-- The words of octets, four by four. -/
def words : Octets → List UInt32
  | a :: b :: c :: d :: rest =>
    (a.toUInt32 <<< 24 ||| b.toUInt32 <<< 16 ||| c.toUInt32 <<< 8 ||| d.toUInt32) :: words rest
  | _ => []

/-- The schedule of a block, latest word first: `count` words are added to those there are. -/
def extend : (count : Nat) → List UInt32 → List UInt32
  | 0, latest => latest
  | count + 1, latest =>
    let word := latest.getD 2 0 ^^^ latest.getD 7 0 ^^^ latest.getD 13 0 ^^^ latest.getD 15 0
    extend count (rotate word 1 :: latest)

/-- The function and the constant of a round. -/
def mixture (round : Nat) (b c d : UInt32) : UInt32 × UInt32 :=
  if round < 20 then ((b &&& c) ||| ((~~~b) &&& d), 0x5A827999)
  else if round < 40 then (b ^^^ c ^^^ d, 0x6ED9EBA1)
  else if round < 60 then ((b &&& c) ||| (b &&& d) ||| (c &&& d), 0x8F1BBCDC)
  else (b ^^^ c ^^^ d, 0xCA62C1D6)

/-- One round with its word of the schedule. -/
def State.round (state : State) (word : UInt32) (round : Nat) : State :=
  let (mixed, constant) := mixture round state.b state.c state.d
  ⟨rotate state.a 5 + mixed + state.e + constant + word, state.a, rotate state.b 30, state.c,
    state.d⟩

/-- One block of sixteen words mixed into the state. -/
def compress (state : State) (block : List UInt32) : State :=
  let schedule := (extend 64 block.reverse).reverse
  let mixed := schedule.zipIdx.foldl (fun state (word, round) => state.round word round) state
  ⟨state.a + mixed.a, state.b + mixed.b, state.c + mixed.c, state.d + mixed.d, state.e + mixed.e⟩

/-- All blocks of sixteen words mixed into the state, one after another. -/
def absorb (state : State) (message : List UInt32) : State :=
  match message with
  | [] => state
  | word :: rest =>
    absorb (compress state ((word :: rest).take 16)) ((word :: rest).drop 16)
termination_by message.length

/-- The twenty octets of a message. -/
def digest (message : Octets) : Octets :=
  let state := absorb .start (words (pad message))
  [state.a, state.b, state.c, state.d, state.e].flatMap fun word => bigEndian 4 word.toNat

end SignedQueue.Sha1
