/-!
# SHA-256

The hash function SHA-256 on lists of bytes. A message is padded to blocks of sixty-four bytes, and
each block is mixed into a state of eight words in sixty-four rounds.
-/

namespace SchemaDiagram.Sha256

/-- The constants of the rounds. -/
def roundConstants : List UInt32 :=
  [
    0x428a2f98, 0x71374491, 0xb5c0fbcf, 0xe9b5dba5, 0x3956c25b, 0x59f111f1, 0x923f82a4, 0xab1c5ed5,
    0xd807aa98, 0x12835b01, 0x243185be, 0x550c7dc3, 0x72be5d74, 0x80deb1fe, 0x9bdc06a7, 0xc19bf174,
    0xe49b69c1, 0xefbe4786, 0x0fc19dc6, 0x240ca1cc, 0x2de92c6f, 0x4a7484aa, 0x5cb0a9dc, 0x76f988da,
    0x983e5152, 0xa831c66d, 0xb00327c8, 0xbf597fc7, 0xc6e00bf3, 0xd5a79147, 0x06ca6351, 0x14292967,
    0x27b70a85, 0x2e1b2138, 0x4d2c6dfc, 0x53380d13, 0x650a7354, 0x766a0abb, 0x81c2c92e, 0x92722c85,
    0xa2bfe8a1, 0xa81a664b, 0xc24b8b70, 0xc76c51a3, 0xd192e819, 0xd6990624, 0xf40e3585, 0x106aa070,
    0x19a4c116, 0x1e376c08, 0x2748774c, 0x34b0bcb5, 0x391c0cb3, 0x4ed8aa4a, 0x5b9cca4f, 0x682e6ff3,
    0x748f82ee, 0x78a5636f, 0x84c87814, 0x8cc70208, 0x90befffa, 0xa4506ceb, 0xbef9a3f7, 0xc67178f2]

/-- The eight words that the hash starts from. -/
def initial : List UInt32 :=
  [0x6a09e667, 0xbb67ae85, 0x3c6ef372, 0xa54ff53a,
    0x510e527f, 0x9b05688c, 0x1f83d9ab, 0x5be0cd19]

/-- The word turned right by `n` bits. -/
def rotate (n : UInt32) (x : UInt32) : UInt32 :=
  (x >>> n) ||| (x <<< (32 - n))

/-- The bytes of a natural number in `count` bytes, the highest first. -/
def bigEndian (count n : Nat) : List UInt8 :=
  (List.range count).reverse.map fun i => UInt8.ofNat (n >>> (8 * i) % 256)

/-- A message with the bit, the zeros and the length that fill up its last block. -/
def pad (message : List UInt8) : List UInt8 :=
  message ++ 0x80 :: List.replicate ((119 - message.length % 64) % 64) 0 ++
    bigEndian 8 (8 * message.length)

/-- The lists of `size` consecutive elements that make up the first `count` of them. -/
def chunks {α : Type} (size : Nat) : (count : Nat) → List α → List (List α)
  | 0, _ => []
  | count + 1, xs => xs.take size :: chunks size count (xs.drop size)

/-- The word that four bytes make up. -/
def wordOf (bytes : List UInt8) : UInt32 :=
  bytes.foldl (fun word byte => (word <<< 8) ||| byte.toUInt32) 0

/-- The next word of a schedule whose last words are given, latest first. -/
def nextWord (latest : List UInt32) : UInt32 :=
  let x := latest.getD 14 0
  let y := latest.getD 1 0
  latest.getD 15 0 + (rotate 7 x ^^^ rotate 18 x ^^^ (x >>> 3)) + latest.getD 6 0 +
    (rotate 17 y ^^^ rotate 19 y ^^^ (y >>> 10))

/-- The words that the rounds take in: the sixteen of the block, and forty-eight that follow. -/
def schedule (block : List UInt8) : List UInt32 :=
  let words := chunks 4 16 block |>.map wordOf
  (Nat.repeat (fun latest => nextWord latest :: latest) 48 words.reverse).reverse

/-- One round on the eight words of the state. -/
def round (state : List UInt32) (constant word : UInt32) : List UInt32 :=
  match state with
  | [a, b, c, d, e, f, g, h] =>
    let s1 := rotate 6 e ^^^ rotate 11 e ^^^ rotate 25 e
    let t1 := h + s1 + ((e &&& f) ^^^ (~~~e &&& g)) + constant + word
    let s0 := rotate 2 a ^^^ rotate 13 a ^^^ rotate 22 a
    let t2 := s0 + ((a &&& b) ^^^ (a &&& c) ^^^ (b &&& c))
    [t1 + t2, a, b, c, d + t1, e, f, g]
  | state => state

/-- A block mixed into the state. -/
def compress (state : List UInt32) (block : List UInt8) : List UInt32 :=
  let mixed := (roundConstants.zip (schedule block)).foldl (fun s (k, w) => round s k w) state
  List.zipWith (· + ·) state mixed

/-- The hash of a message, thirty-two bytes. -/
def hash (message : List UInt8) : List UInt8 :=
  let padded := pad message
  let state := (chunks 64 (padded.length / 64) padded).foldl compress initial
  state.flatMap fun word => bigEndian 4 word.toNat

end SchemaDiagram.Sha256
