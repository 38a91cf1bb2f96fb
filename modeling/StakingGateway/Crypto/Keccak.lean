/-!
The hash Keccak-256: a sponge over the permutation of 25 lanes of 64 bits, with the padding that
ends in a single bit at either end.
-/

namespace StakingGateway.Crypto.Keccak

/-- The lanes, row by row: lane `(x, y)` stands at `x + 5 * y`. -/
abbrev State := Array UInt64

def lane (s : State) (x y : Nat) : UInt64 :=
  s.getD (x % 5 + 5 * (y % 5)) 0

def ofLanes (f : (x y : Nat) → UInt64) : State :=
  Array.ofFn fun i : Fin 25 => f (i.val % 5) (i.val / 5)

def rotate (w : UInt64) (n : Nat) : UInt64 :=
  let n := n % 64
  if n = 0 then w else (w <<< UInt64.ofNat n) ||| (w >>> UInt64.ofNat (64 - n))

/-- The distance by which each lane is turned. -/
def offsets : Array Nat := #[
  0, 1, 62, 28, 27,
  36, 44, 6, 55, 20,
  3, 10, 43, 25, 39,
  41, 45, 15, 21, 8,
  18, 2, 61, 56, 14]

def roundConstants : List UInt64 := [
  0x0000000000000001, 0x0000000000008082, 0x800000000000808A, 0x8000000080008000,
  0x000000000000808B, 0x0000000080000001, 0x8000000080008081, 0x8000000000008009,
  0x000000000000008A, 0x0000000000000088, 0x0000000080008009, 0x000000008000000A,
  0x000000008000808B, 0x800000000000008B, 0x8000000000008089, 0x8000000000008003,
  0x8000000000008002, 0x8000000000000080, 0x000000000000800A, 0x800000008000000A,
  0x8000000080008081, 0x8000000000008080, 0x0000000080000001, 0x8000000080008008]

/-- Adds to each lane the parity of two neighbouring columns. -/
def theta (s : State) : State :=
  let columns : Array UInt64 := Array.ofFn fun x : Fin 5 =>
    lane s x 0 ^^^ lane s x 1 ^^^ lane s x 2 ^^^ lane s x 3 ^^^ lane s x 4
  let column (x : Nat) := columns.getD (x % 5) 0
  ofLanes fun x y => lane s x y ^^^ column (x + 4) ^^^ rotate (column (x + 1)) 1

/-- Turns the lanes and moves them to other places. -/
def rhoPi (s : State) : State :=
  ofLanes fun x y =>
    let fromX := (x + 3 * y) % 5
    rotate (lane s fromX x) (offsets.getD (fromX + 5 * x) 0)

def chi (s : State) : State :=
  ofLanes fun x y => lane s x y ^^^ ((lane s (x + 1) y ^^^ 0xFFFFFFFFFFFFFFFF) &&& lane s (x + 2) y)

def iota (s : State) (constant : UInt64) : State :=
  s.setIfInBounds 0 (lane s 0 0 ^^^ constant)

def permute (s : State) : State :=
  roundConstants.foldl (fun s constant => iota (chi (rhoPi (theta s))) constant) s

/-- The number of bytes that one step takes in. -/
def rate : Nat := 136

/-- A lane of eight bytes, least significant first. -/
def laneOfBytes (bytes : List UInt8) : UInt64 :=
  bytes.foldr (fun b w => (w <<< 8) ||| b.toUInt64) 0

def bytesOfLane (w : UInt64) : List UInt8 :=
  (List.range 8).map fun i => (w >>> UInt64.ofNat (8 * i)).toUInt8

def pad (message : List UInt8) : List UInt8 :=
  let free := rate - message.length % rate
  if free = 1 then message ++ [0x81]
  else message ++ 0x01 :: (List.replicate (free - 2) 0 ++ [0x80])

def absorbBlock (s : State) (block : List UInt8) : State :=
  permute <| ofLanes fun x y =>
    let i := x + 5 * y
    lane s x y ^^^ (if 8 * i < rate then laneOfBytes ((block.drop (8 * i)).take 8) else 0)

def absorb : (blocks : Nat) → State → List UInt8 → State
  | 0, s, _ => s
  | blocks + 1, s, bytes => absorb blocks (absorbBlock s (bytes.take rate)) (bytes.drop rate)

def hash (message : List UInt8) : List UInt8 :=
  let padded := pad message
  let s := absorb (padded.length / rate) (Array.replicate 25 0) padded
  (List.range 4).flatMap fun i => bytesOfLane (lane s i 0)

end StakingGateway.Crypto.Keccak
