/-
  StakeRelay.Hash.Keccak — the 256-bit Keccak hash.

  The state is 25 lanes of 64 bits, lane (x, y) at index x + 5 y. A block of 136 bytes
  is added to the first 17 lanes, then 24 rounds mix the state. The padding is one bit
  behind the message and one at the end of the last block.
-/

import StakeRelay.Account.Basic

namespace StakeRelay.Keccak

/-! ## §1. The permutation -/

/-- The 25 lanes. -/
abbrev State := Vector UInt64 25

/-- The lane rotated to the left. -/
def rotate (lane : UInt64) (n : Nat) : UInt64 :=
  let n := n % 64
  if n = 0 then lane
  else (lane <<< UInt64.ofNat n) ||| (lane >>> UInt64.ofNat (64 - n))

/-- Lane (x, y), with both coordinates taken modulo five. -/
def lane (s : State) (x y : Nat) : UInt64 :=
  s.get ⟨x % 5 + 5 * (y % 5), by omega⟩

/-- The state whose lane (x, y) is `f x y`. -/
def ofLanes (f : Nat → Nat → UInt64) : State :=
  Vector.ofFn fun i => f (i.val % 5) (i.val / 5)

/-- The rotation of each lane, by index. -/
def rotations : Array Nat :=
  #[0, 1, 62, 28, 27, 36, 44, 6, 55, 20, 3, 10, 43, 25, 39, 41, 45, 15, 21, 8, 18, 2, 61, 56, 14]

/-- The constants of the rounds. -/
def roundConstants : List UInt64 :=
  [0x0000000000000001, 0x0000000000008082, 0x800000000000808A, 0x8000000080008000,
   0x000000000000808B, 0x0000000080000001, 0x8000000080008081, 0x8000000000008009,
   0x000000000000008A, 0x0000000000000088, 0x0000000080008009, 0x000000008000000A,
   0x000000008000808B, 0x800000000000008B, 0x8000000000008089, 0x8000000000008003,
   0x8000000000008002, 0x8000000000000080, 0x000000000000800A, 0x800000008000000A,
   0x8000000080008081, 0x8000000000008080, 0x0000000080000001, 0x8000000080008008]

/-- The parity of column x. -/
def parity (s : State) (x : Nat) : UInt64 :=
  lane s x 0 ^^^ lane s x 1 ^^^ lane s x 2 ^^^ lane s x 3 ^^^ lane s x 4

/-- Adds the parities of two neighbouring columns to every lane. -/
def theta (s : State) : State :=
  let parities := Vector.ofFn fun x : Fin 5 => parity s x.val
  let column (x : Nat) : UInt64 :=
    parities.get ⟨(x + 4) % 5, by omega⟩ ^^^ rotate (parities.get ⟨(x + 1) % 5, by omega⟩) 1
  ofLanes fun x y => lane s x y ^^^ column x

/-- Rotates every lane and moves it to its new place. -/
def rhoPi (s : State) : State :=
  ofLanes fun x y =>
    let fromX := x + 3 * y
    rotate (lane s fromX x) (rotations.getD (fromX % 5 + 5 * (x % 5)) 0)

/-- Combines each lane with the two beside it in its row. -/
def chi (s : State) : State :=
  ofLanes fun x y => lane s x y ^^^ (~~~(lane s (x + 1) y) &&& lane s (x + 2) y)

/-- Adds a round's constant to the first lane. -/
def iota (constant : UInt64) (s : State) : State :=
  s.set 0 (s[0] ^^^ constant)

/-- One round. -/
def round (s : State) (constant : UInt64) : State :=
  iota constant (chi (rhoPi (theta s)))

/-- All rounds. -/
def permute (s : State) : State := roundConstants.foldl round s

/-! ## §2. The sponge -/

/-- Bytes of a block. -/
def rate : Nat := 136

/-- The message with its padding, a whole number of blocks. -/
def pad (message : Bytes) : Bytes :=
  let missing := rate - message.length % rate
  if missing = 1 then message ++ [0x81]
  else message ++ [0x01] ++ List.replicate (missing - 2) 0 ++ [0x80]

/-- The lane in eight bytes, least significant byte first. -/
def laneOfBytes (bs : Bytes) : UInt64 :=
  bs.foldr (fun b n => n * 256 + b.toUInt64) 0

/-- The eight bytes of a lane, least significant byte first. -/
def bytesOfLane (lane : UInt64) : Bytes :=
  (List.range 8).map fun i => (lane >>> UInt64.ofNat (8 * i)).toUInt8

/-- Adds a block to the state. -/
def addBlock (s : State) (block : Bytes) : State :=
  ofLanes fun x y =>
    let i := x + 5 * y
    if i < 17 then lane s x y ^^^ laneOfBytes ((block.drop (8 * i)).take 8) else lane s x y

/-- Takes the given number of blocks into the state. -/
def absorb : Nat → State → Bytes → State
  | 0, s, _ => s
  | blocks + 1, s, bs => absorb blocks (permute (addBlock s (bs.take rate))) (bs.drop rate)

/-- The hash of a message. -/
def hash (message : Bytes) : Word :=
  let padded := pad message
  let s := absorb (padded.length / rate) (Vector.replicate 25 0) padded
  ⟨bytesOfLane (lane s 0 0) ++ bytesOfLane (lane s 1 0) ++ bytesOfLane (lane s 2 0) ++
    bytesOfLane (lane s 3 0), by simp [bytesOfLane]⟩

end StakeRelay.Keccak
