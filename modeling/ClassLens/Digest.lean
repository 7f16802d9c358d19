/-! # Content digests

A 64-bit digest of a text tells whether a stylesheet was edited since its rules were extracted.
The digest is SipHash with one round for each block of eight bytes and three at the end, both keys
zero, over the UTF-8 bytes of the text and one byte 0xFF. -/

namespace ClassLens.Digest

/-- The four words of the hash's state. -/
structure State where
  v0 : UInt64
  v1 : UInt64
  v2 : UInt64
  v3 : UInt64
  deriving DecidableEq, Repr

/-- Rotates a word to the left. -/
def rotate (x : UInt64) (n : UInt64) : UInt64 :=
  (x <<< n) ||| (x >>> (64 - n))

/-- One round. -/
def State.round (s : State) : State :=
  let v0 := s.v0 + s.v1
  let v1 := rotate s.v1 13 ^^^ v0
  let v0 := rotate v0 32
  let v2 := s.v2 + s.v3
  let v3 := rotate s.v3 16 ^^^ v2
  let v0 := v0 + v3
  let v3 := rotate v3 21 ^^^ v0
  let v2 := v2 + v1
  let v1 := rotate v1 17 ^^^ v2
  let v2 := rotate v2 32
  ⟨v0, v1, v2, v3⟩

/-- Takes in a block of eight bytes. -/
def State.absorb (s : State) (block : UInt64) : State :=
  let s := { s with v3 := s.v3 ^^^ block }
  let s := s.round
  { s with v0 := s.v0 ^^^ block }

/-- The digest of what was taken in. -/
def State.finish (s : State) : UInt64 :=
  let s := { s with v2 := s.v2 ^^^ 0xff }
  let s := s.round.round.round
  s.v0 ^^^ s.v1 ^^^ s.v2 ^^^ s.v3

/-- The state before any byte, for zero keys. -/
def start : State :=
  ⟨0x736f6d6570736575, 0x646f72616e646f6d, 0x6c7967656e657261, 0x7465646279746573⟩

/-- The word of up to eight bytes, the first one lowest. -/
def word : List UInt8 → UInt64
  | [] => 0
  | b :: bs => b.toUInt64 ||| (word bs <<< 8)

/-- Takes in all whole blocks; the last, incomplete one holds the length in its top byte. -/
def absorbAll (length : Nat) : State → List UInt8 → State
  | s, b0 :: b1 :: b2 :: b3 :: b4 :: b5 :: b6 :: b7 :: rest =>
    absorbAll length (s.absorb (word [b0, b1, b2, b3, b4, b5, b6, b7])) rest
  | s, rest => s.absorb (word rest ||| (length.toUInt64 <<< 56))

/-- The hash of a byte sequence. -/
def ofBytes (bs : List UInt8) : UInt64 :=
  (absorbAll bs.length start bs).finish

end Digest

/-- The digest of a text. -/
def digest (text : String) : UInt64 :=
  Digest.ofBytes (text.toUTF8.toList ++ [0xff])

end ClassLens
