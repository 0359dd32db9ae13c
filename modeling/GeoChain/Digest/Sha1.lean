/-!
# The SHA-1 digest

The message is padded to blocks of 64 bytes, each block is expanded to eighty words, and eighty
rounds mix them into a state of five words. The digest is the 20 bytes of the last state.
-/

namespace GeoChain

namespace Sha1

structure State where
  a : UInt32
  b : UInt32
  c : UInt32
  d : UInt32
  e : UInt32
deriving DecidableEq

def initial : State := ⟨0x67452301, 0xefcdab89, 0x98badcfe, 0x10325476, 0xc3d2e1f0⟩

def rotate (word : UInt32) (amount : UInt32) : UInt32 :=
  (word <<< amount) ||| (word >>> (32 - amount))

/-- The low bytes of a number, the highest of them first. -/
def bigEndian : (count : Nat) → (value : Nat) → List UInt8
  | 0, _ => []
  | count + 1, value => bigEndian count (value / 256) ++ [UInt8.ofNat value]

def padded (message : List UInt8) : List UInt8 :=
  message ++ 0x80 :: List.replicate ((119 - message.length % 64) % 64) 0 ++
    bigEndian 8 (8 * message.length)

def words : List UInt8 → List UInt32
  | a :: b :: c :: d :: rest =>
    (a.toUInt32 <<< 24 ||| b.toUInt32 <<< 16 ||| c.toUInt32 <<< 8 ||| d.toUInt32) :: words rest
  | _ => []

/-- Adds so many words to a schedule that holds its latest word first. -/
def expand : Nat → List UInt32 → List UInt32
  | 0, schedule => schedule
  | count + 1, schedule =>
    let word := schedule.getD 2 0 ^^^ schedule.getD 7 0 ^^^ schedule.getD 13 0 ^^^
      schedule.getD 15 0
    expand count (rotate word 1 :: schedule)

/-- The mixing function and the constant of a round. -/
def mix (round : Nat) (b c d : UInt32) : UInt32 × UInt32 :=
  if round < 20 then ((b &&& c) ||| (~~~b &&& d), 0x5a827999)
  else if round < 40 then (b ^^^ c ^^^ d, 0x6ed9eba1)
  else if round < 60 then ((b &&& c) ||| (b &&& d) ||| (c &&& d), 0x8f1bbcdc)
  else (b ^^^ c ^^^ d, 0xca62c1d6)

def rounds (state : State) (round : Nat) : List UInt32 → State
  | [] => state
  | word :: rest =>
    let (mixed, constant) := mix round state.b state.c state.d
    let lead := rotate state.a 5 + mixed + state.e + constant + word
    rounds ⟨lead, state.a, rotate state.b 30, state.c, state.d⟩ (round + 1) rest

def compress (state : State) (block : List UInt32) : State :=
  let last := rounds state 0 (expand 64 block.reverse).reverse
  ⟨state.a + last.a, state.b + last.b, state.c + last.c, state.d + last.d, state.e + last.e⟩

/-- Compresses so many blocks of sixteen words. -/
def blocks : Nat → State → List UInt32 → State
  | 0, state, _ => state
  | count + 1, state, schedule =>
    blocks count (compress state (schedule.take 16)) (schedule.drop 16)

def digest (message : List UInt8) : List UInt8 :=
  let schedule := words (padded message)
  let last := blocks (schedule.length / 16) initial schedule
  [last.a, last.b, last.c, last.d, last.e].flatMap (fun word => bigEndian 4 word.toNat)

end Sha1

end GeoChain
