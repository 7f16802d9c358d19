/-! # Digests of bytes

Short sums that tell whether bytes were changed by accident, and long ones from which the bytes cannot be
guessed.

* `crcSum`: the remainder of a division of polynomials; `crcReflected` is the same for bytes whose lowest bits
  come first.
* `rotatingSum`: a sum of 16 bits that is rotated before each byte.
* `foldedSum`: the sum of all bytes, folded to 16 bits.
* `md5`, `sha1`: rows of 32-bit words.
* `sha2`: rows of eight words of either size, with constants from the roots of the first primes.
* `blake2b`: a row of eight 64-bit words, and a digest of any length up to them. -/

namespace ClassLens.Tool

/-! ## Sums -/

/-- The polynomial of `crcSum`. -/
def crcPolynomial : UInt32 := 0x04C11DB7

/-- The remainder after eight more bits. -/
def crcByte (crc : UInt32) (b : UInt8) : UInt32 :=
  (List.range 8).foldl (fun crc _ =>
    if crc &&& 0x80000000 ≠ 0 then (crc <<< 1) ^^^ crcPolynomial else crc <<< 1)
    (crc ^^^ (b.toUInt32 <<< 24))

/-- The bytes of a number, the lowest first, without zeros at the end. -/
def lowBytes : Nat → Nat → List UInt8
  | 0, _ => []
  | fuel + 1, n => if n = 0 then [] else UInt8.ofNat (n % 256) :: lowBytes fuel (n / 256)

/-- The sum of bytes and of their number by division. -/
def crcSum (bytes : List UInt8) : UInt32 :=
  ~~~((bytes ++ lowBytes 16 bytes.length).foldl crcByte 0)

/-- The remainder after eight more bits, the lowest ones first. -/
def crcReflectedByte (crc : UInt32) (b : UInt8) : UInt32 :=
  (List.range 8).foldl (fun crc _ => if crc &&& 1 ≠ 0 then (crc >>> 1) ^^^ 0xEDB88320 else crc >>> 1)
    (crc ^^^ b.toUInt32)

/-- The sum of bytes by division, their lowest bits coming first. -/
def crcReflected (bytes : Array UInt8) : UInt32 := ~~~(bytes.foldl crcReflectedByte 0xFFFFFFFF)

/-- The rotating sum of bytes. -/
def rotatingSum (bytes : List UInt8) : UInt16 :=
  bytes.foldl (fun sum b => ((sum >>> 1) ||| (sum <<< 15)) + b.toUInt16) 0

/-- The folded sum of bytes. -/
def foldedSum (bytes : List UInt8) : Nat :=
  let total := bytes.foldl (fun n b => n + b.toNat) 0 % 4294967296
  let folded := total % 65536 + total / 65536
  folded % 65536 + folded / 65536

/-! ## Hashes -/

/-! ### Words and blocks -/

/-- The word of some bytes, the first one highest. -/
def wordOf (w : Nat) (bytes : List UInt8) : BitVec w :=
  BitVec.ofNat w (bytes.foldl (fun n b => n * 256 + b.toNat) 0)

/-- The bytes of a word, the highest first. -/
def bytesOfWord {w : Nat} (x : BitVec w) : List UInt8 :=
  (List.range (w / 8)).reverse.map fun i => UInt8.ofNat (x.toNat / Nat.pow 256 i % 256)

/-- Rows of so many bytes. -/
def byteRows (size : Nat) : Nat → List UInt8 → List (List UInt8)
  | 0, _ => []
  | n + 1, bytes => if bytes.isEmpty then [] else bytes.take size :: byteRows size n (bytes.drop size)

/-- The words of a block. -/
def wordsOf (w : Nat) (lowFirst : Bool) (block : List UInt8) : Array (BitVec w) :=
  ((byteRows (w / 8) block.length block).map fun bytes =>
    wordOf w (if lowFirst then bytes.reverse else bytes)).toArray

/-- A message filled up to whole blocks: one bit, zeros, and the number of its bits in an eighth of a
block. -/
def padded (block : Nat) (lowFirst : Bool) (message : List UInt8) : List UInt8 :=
  let tail := block / 8
  let used := (message.length + 1 + tail) % block
  let zeros := if used = 0 then 0 else block - used
  let length := bytesOfWord (BitVec.ofNat (8 * tail) (8 * message.length))
  message ++ 0x80 :: List.replicate zeros 0 ++ (if lowFirst then length.reverse else length)

/-- The blocks of a message. -/
def blocks (w : Nat) (block : Nat) (lowFirst : Bool) (message : List UInt8) : List (Array (BitVec w)) :=
  let bytes := padded block lowFirst message
  (byteRows block bytes.length bytes).map (wordsOf w lowFirst)

/-! ### Four and five words of 32 bits -/

/-- What is added in each step of `md5`: the sines of the first whole numbers. -/
def sineWords : Array (BitVec 32) := #[
    0xd76aa478, 0xe8c7b756, 0x242070db, 0xc1bdceee, 0xf57c0faf, 0x4787c62a,
    0xa8304613, 0xfd469501, 0x698098d8, 0x8b44f7af, 0xffff5bb1, 0x895cd7be,
    0x6b901122, 0xfd987193, 0xa679438e, 0x49b40821, 0xf61e2562, 0xc040b340,
    0x265e5a51, 0xe9b6c7aa, 0xd62f105d, 0x02441453, 0xd8a1e681, 0xe7d3fbc8,
    0x21e1cde6, 0xc33707d6, 0xf4d50d87, 0x455a14ed, 0xa9e3e905, 0xfcefa3f8,
    0x676f02d9, 0x8d2a4c8a, 0xfffa3942, 0x8771f681, 0x6d9d6122, 0xfde5380c,
    0xa4beea44, 0x4bdecfa9, 0xf6bb4b60, 0xbebfbc70, 0x289b7ec6, 0xeaa127fa,
    0xd4ef3085, 0x04881d05, 0xd9d4d039, 0xe6db99e5, 0x1fa27cf8, 0xc4ac5665,
    0xf4292244, 0x432aff97, 0xab9423a7, 0xfc93a039, 0x655b59c3, 0x8f0ccc92,
    0xffeff47d, 0x85845dd1, 0x6fa87e4f, 0xfe2ce6e0, 0xa3014314, 0x4e0811a1,
    0xf7537e82, 0xbd3af235, 0x2ad7d2bb, 0xeb86d391]

/-- How far each step of `md5` rotates, for each quarter of the steps. -/
def md5Turns : List (List Nat) := [[7, 12, 17, 22], [5, 9, 14, 20], [4, 11, 16, 23], [6, 10, 15, 21]]

/-- Mixes a block into four words. -/
def md5Block (state : List (BitVec 32)) (block : Array (BitVec 32)) : List (BitVec 32) :=
  match state with
  | [a₀, b₀, c₀, d₀] =>
    let step := fun (s : BitVec 32 × BitVec 32 × BitVec 32 × BitVec 32) (i : Nat) =>
      let (a, b, c, d) := s
      let (f, g) :=
        if i < 16 then ((b &&& c) ||| (~~~b &&& d), i)
        else if i < 32 then ((d &&& b) ||| (~~~d &&& c), 5 * i + 1)
        else if i < 48 then (b ^^^ c ^^^ d, 3 * i + 5)
        else (c ^^^ (b ||| ~~~d), 7 * i)
      let sum := a + f + sineWords[i]! + block[g % 16]!
      let turn := (((md5Turns[i / 16]?).getD [])[i % 4]?).getD 0
      (d, b + sum.rotateLeft turn, b, c)
    let (a, b, c, d) := (List.range 64).foldl step (a₀, b₀, c₀, d₀)
    [a₀ + a, b₀ + b, c₀ + c, d₀ + d]
  | _ => state

/-- The digest of 16 bytes. -/
def md5 (message : List UInt8) : List UInt8 :=
  let start : List (BitVec 32) := [0x67452301, 0xefcdab89, 0x98badcfe, 0x10325476]
  ((blocks 32 64 true message).foldl md5Block start).flatMap fun x => (bytesOfWord x).reverse

/-- Mixes a block into five words. -/
def sha1Block (state : List (BitVec 32)) (block : Array (BitVec 32)) : List (BitVec 32) :=
  match state with
  | [a₀, b₀, c₀, d₀, e₀] =>
    let words := (List.range 64).foldl (fun (words : Array (BitVec 32)) i =>
      words.push ((words[i + 13]! ^^^ words[i + 8]! ^^^ words[i + 2]! ^^^ words[i]!).rotateLeft 1)) block
    let step := fun (s : BitVec 32 × BitVec 32 × BitVec 32 × BitVec 32 × BitVec 32) (i : Nat) =>
      let (a, b, c, d, e) := s
      let (f, k) :=
        if i < 20 then ((b &&& c) ||| (~~~b &&& d), (0x5a827999 : BitVec 32))
        else if i < 40 then (b ^^^ c ^^^ d, 0x6ed9eba1)
        else if i < 60 then ((b &&& c) ||| (b &&& d) ||| (c &&& d), 0x8f1bbcdc)
        else (b ^^^ c ^^^ d, 0xca62c1d6)
      (a.rotateLeft 5 + f + e + k + words[i]!, a, b.rotateLeft 30, c, d)
    let (a, b, c, d, e) := (List.range 80).foldl step (a₀, b₀, c₀, d₀, e₀)
    [a₀ + a, b₀ + b, c₀ + c, d₀ + d, e₀ + e]
  | _ => state

/-- The digest of 20 bytes. -/
def sha1 (message : List UInt8) : List UInt8 :=
  let start : List (BitVec 32) := [0x67452301, 0xefcdab89, 0x98badcfe, 0x10325476, 0xc3d2e1f0]
  ((blocks 32 64 false message).foldl sha1Block start).flatMap bytesOfWord

/-! ### Eight words of either size -/

/-- The first eighty primes. -/
def primes : List Nat :=
  (List.range 410).filter fun n => n > 1 && (List.range n).all fun d => d < 2 || n % d != 0

/-- The greatest number of so many bits whose power is not greater than `n`. -/
def rootOf (power bits n : Nat) : Nat :=
  (List.range bits).reverse.foldl (fun r i =>
    let next := r + Nat.pow 2 i
    if Nat.pow next power ≤ n then next else r) 0

/-- The first 64 bits after the point of a root of a number. -/
def rootBits (power n : Nat) : Nat :=
  rootOf power 70 (n * Nat.pow 2 (64 * power)) % Nat.pow 2 64

/-- What is added in each step: the cube roots of the primes. -/
def cubeRootWords : Array Nat := (primes.map (rootBits 3)).toArray

/-- The square roots of the first sixteen primes. -/
def squareRootWords : List Nat := (primes.take 16).map (rootBits 2)

/-- How one size of words is mixed: how many steps there are, and how far the words are rotated; the last of
three numbers for the words of a block is a shift. -/
structure Mixing where
  rounds : Nat
  high : Nat × Nat × Nat
  low : Nat × Nat × Nat
  early : Nat × Nat × Nat
  late : Nat × Nat × Nat

/-- The mixing of 32-bit words. -/
def Mixing.short : Mixing := ⟨64, (6, 11, 25), (2, 13, 22), (7, 18, 3), (17, 19, 10)⟩

/-- The mixing of 64-bit words. -/
def Mixing.long : Mixing := ⟨80, (14, 18, 41), (28, 34, 39), (1, 8, 7), (19, 61, 6)⟩

/-- Three rotations of a word in one. -/
def turned {w : Nat} (x : BitVec w) (by_ : Nat × Nat × Nat) : BitVec w :=
  x.rotateRight by_.1 ^^^ x.rotateRight by_.2.1 ^^^ x.rotateRight by_.2.2

/-- Two rotations and a shift of a word in one. -/
def shiftedTurns {w : Nat} (x : BitVec w) (by_ : Nat × Nat × Nat) : BitVec w :=
  x.rotateRight by_.1 ^^^ x.rotateRight by_.2.1 ^^^ (x >>> by_.2.2)

/-- Mixes a block into eight words. -/
def sha2Block {w : Nat} (m : Mixing) (state : List (BitVec w)) (block : Array (BitVec w)) :
    List (BitVec w) :=
  let constant (i : Nat) : BitVec w := BitVec.ofNat w ((cubeRootWords[i]!) / Nat.pow 2 (64 - w))
  let word (words : Array (BitVec w)) (i : Nat) : BitVec w := (words[i]?).getD 0
  let words := (List.range (m.rounds - 16)).foldl (fun words i =>
    words.push (word words i + shiftedTurns (word words (i + 1)) m.early + word words (i + 9) +
      shiftedTurns (word words (i + 14)) m.late)) block
  let mixed := (List.range m.rounds).foldl (fun s i =>
    match s with
    | [a, b, c, d, e, f, g, h] =>
      let first := h + turned e m.high + ((e &&& f) ^^^ (~~~e &&& g)) + constant i + word words i
      let second := turned a m.low + ((a &&& b) ^^^ (a &&& c) ^^^ (b &&& c))
      [first + second, a, b, c, d + first, e, f, g]
    | s => s) state
  (state.zip mixed).map fun (x, y) => x + y

/-- The digest of words of 32 or 64 bits, of so many bytes. -/
def sha2 (w : Nat) (m : Mixing) (start : List Nat) (size : Nat) (message : List UInt8) : List UInt8 :=
  let start := start.map (BitVec.ofNat w)
  (((blocks w (2 * w) false message).foldl (sha2Block m) start).flatMap bytesOfWord).take size

/-- The digest of 32 bytes. -/
def sha256 : List UInt8 → List UInt8 :=
  sha2 32 .short ((squareRootWords.take 8).map fun n => n / Nat.pow 2 32) 32

/-- The digest of 28 bytes. -/
def sha224 : List UInt8 → List UInt8 := sha2 32 .short (squareRootWords.drop 8) 28

/-- The digest of 64 bytes. -/
def sha512 : List UInt8 → List UInt8 := sha2 64 .long (squareRootWords.take 8) 64

/-- The digest of 48 bytes. -/
def sha384 : List UInt8 → List UInt8 := sha2 64 .long (squareRootWords.drop 8) 48

/-! ### Words in a square -/

/-- The order in which the words of a block are taken, for each of ten rounds. -/
def blakeOrders : List (List Nat) := [
    [0, 1, 2, 3, 4, 5, 6, 7, 8, 9, 10, 11, 12, 13, 14, 15],
    [14, 10, 4, 8, 9, 15, 13, 6, 1, 12, 0, 2, 11, 7, 5, 3],
    [11, 8, 12, 0, 5, 2, 15, 13, 10, 14, 3, 6, 7, 1, 9, 4],
    [7, 9, 3, 1, 13, 12, 11, 14, 2, 6, 5, 10, 4, 0, 15, 8],
    [9, 0, 5, 7, 2, 4, 10, 15, 14, 1, 11, 12, 6, 8, 3, 13],
    [2, 12, 6, 10, 0, 11, 8, 3, 4, 13, 7, 5, 15, 14, 1, 9],
    [12, 5, 1, 15, 14, 13, 4, 10, 0, 7, 6, 3, 9, 2, 8, 11],
    [13, 11, 7, 14, 12, 1, 3, 9, 5, 0, 15, 4, 8, 6, 2, 10],
    [6, 15, 14, 9, 11, 3, 0, 8, 12, 2, 13, 7, 1, 4, 10, 5],
    [10, 2, 8, 4, 7, 6, 1, 5, 15, 11, 9, 14, 3, 12, 13, 0]]

/-- The columns and the diagonals of the square. -/
def blakeLines : List (Nat × Nat × Nat × Nat) :=
  [(0, 4, 8, 12), (1, 5, 9, 13), (2, 6, 10, 14), (3, 7, 11, 15), (0, 5, 10, 15), (1, 6, 11, 12),
    (2, 7, 8, 13), (3, 4, 9, 14)]

/-- Mixes two words into four of the square. -/
def blakeMix (v : Array (BitVec 64)) (line : Nat × Nat × Nat × Nat) (x y : BitVec 64) :
    Array (BitVec 64) :=
  let (i, j, k, l) := line
  let half (turns : Nat × Nat) (x : BitVec 64) (v : Array (BitVec 64)) : Array (BitVec 64) :=
    let a := v[i]! + v[j]! + x
    let d := (v[l]! ^^^ a).rotateRight turns.1
    let c := v[k]! + d
    let b := (v[j]! ^^^ c).rotateRight turns.2
    (((v.set! i a).set! l d).set! k c).set! j b
  half (16, 63) y (half (32, 24) x v)

/-- Mixes a block into eight words, `count` bytes having been read by its end. -/
def blakeBlock (state : List (BitVec 64)) (block : Array (BitVec 64)) (count : Nat) (isLast : Bool) :
    List (BitVec 64) :=
  let start := (squareRootWords.take 8).map (BitVec.ofNat 64)
  let square := (state ++ start).toArray
  let square := square.modify 12 (· ^^^ BitVec.ofNat 64 count)
  let square := if isLast then square.modify 14 (fun x => ~~~x) else square
  let mixed := (List.range 12).foldl (fun v round =>
    let order := (blakeOrders[round % 10]?).getD []
    (blakeLines.zipIdx).foldl (fun v (line, i) =>
      let word (n : Nat) : BitVec 64 := block[(order[n]?).getD 0]!
      blakeMix v line (word (2 * i)) (word (2 * i + 1))) v) square
  state.zipIdx.map fun (x, i) => x ^^^ mixed[i]! ^^^ mixed[i + 8]!

/-- The digest of so many bytes. -/
def blake2b (size : Nat) (message : List UInt8) : List UInt8 :=
  let start := (squareRootWords.take 8).map (BitVec.ofNat 64)
  let start := start.zipIdx.map fun (x, i) => if i = 0 then x ^^^ BitVec.ofNat 64 (0x01010000 + size) else x
  let rows := byteRows 128 (message.length + 1) message
  let rows := if rows.isEmpty then [[]] else rows
  let state := rows.zipIdx.foldl (fun state (row, i) =>
    let block := wordsOf 64 true (row ++ List.replicate (128 - row.length) 0)
    let isLast := i + 1 = rows.length
    blakeBlock state block (if isLast then message.length else 128 * (i + 1)) isLast) start
  (state.flatMap fun x => (bytesOfWord x).reverse).take size

end ClassLens.Tool
