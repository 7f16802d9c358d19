/-! # Decoding UTF-8

* `decode bs`: the text of a byte sequence, or the first place where it is no UTF-8.
* `decodeLossy bs`: the text, with U+FFFD for each longest part that begins a character and does
  not end one.

A sequence is refused at its first byte that cannot go on: overlong forms, surrogates and code
points past U+10FFFF are seen at the second byte. -/

namespace ClassLens.Text

/-- What stops a decoder. -/
inductive Utf8Fault where
  /-- So many bytes at an index are no character, whatever follows. -/
  | invalid (length index : Nat)
  /-- The bytes end inside a character that starts at an index. -/
  | incomplete (index : Nat)
  deriving DecidableEq, Repr

/-- A byte of the form `10xxxxxx`. -/
def isContinuation (b : UInt8) : Bool :=
  0x80 ≤ b && b ≤ 0xBF

/-- How many bytes a character has by its first byte, and the range of its second byte. -/
def leadByte? (b : UInt8) : Option (Nat × UInt8 × UInt8) :=
  if b < 0x80 then some (1, 0, 0)
  else if 0xC2 ≤ b ∧ b ≤ 0xDF then some (2, 0x80, 0xBF)
  else if b = 0xE0 then some (3, 0xA0, 0xBF)
  else if b = 0xED then some (3, 0x80, 0x9F)
  else if 0xE1 ≤ b ∧ b ≤ 0xEF then some (3, 0x80, 0xBF)
  else if b = 0xF0 then some (4, 0x90, 0xBF)
  else if 0xF1 ≤ b ∧ b ≤ 0xF3 then some (4, 0x80, 0xBF)
  else if b = 0xF4 then some (4, 0x80, 0x8F)
  else none

/-- The low bits of a continuation byte. -/
def low6 (b : UInt8) : Nat :=
  b.toNat % 0x40

/-- What stands at the start of a byte sequence. -/
inductive Utf8Head where
  | char (c : Char) (length : Nat)
  | invalid (length : Nat)
  | incomplete
  deriving DecidableEq, Repr

/-- The character at the start of `b :: bs`. -/
def utf8Head (b : UInt8) (bs : List UInt8) : Utf8Head :=
  match leadByte? b with
  | none => .invalid 1
  | some (1, _, _) => .char (Char.ofNat b.toNat) 1
  | some (n, first, last) =>
    match bs with
    | [] => .incomplete
    | b₂ :: bs =>
      if !(first ≤ b₂ && b₂ ≤ last) then .invalid 1
      else if n = 2 then .char (Char.ofNat ((b.toNat % 0x20) * 0x40 + low6 b₂)) 2
      else
        match bs with
        | [] => .incomplete
        | b₃ :: bs =>
          if !isContinuation b₃ then .invalid 2
          else if n = 3 then
            .char (Char.ofNat (((b.toNat % 0x10) * 0x40 + low6 b₂) * 0x40 + low6 b₃)) 3
          else
            match bs with
            | [] => .incomplete
            | b₄ :: _ =>
              if !isContinuation b₄ then .invalid 3
              else
                .char (Char.ofNat
                  ((((b.toNat % 0x08) * 0x40 + low6 b₂) * 0x40 + low6 b₃) * 0x40 + low6 b₄)) 4

/-- The characters from byte `index` on; the next `skip` bytes belong to the character read last. -/
def decodeFrom : Nat → Nat → List UInt8 → Except Utf8Fault (List Char)
  | _, _, [] => .ok []
  | index, skip + 1, _ :: bs => decodeFrom (index + 1) skip bs
  | index, 0, b :: bs =>
    match utf8Head b bs with
    | .char c n => (decodeFrom (index + 1) (n - 1) bs).map (c :: ·)
    | .invalid n => .error (.invalid n index)
    | .incomplete => .error (.incomplete index)

/-- The text of a byte sequence, or what stops the decoder first. -/
def decode (bs : List UInt8) : Except Utf8Fault String :=
  (decodeFrom 0 0 bs).map String.ofList

/-- The characters of a byte sequence, whatever it holds. -/
def decodeLossyFrom : Nat → List UInt8 → List Char
  | _, [] => []
  | skip + 1, _ :: bs => decodeLossyFrom skip bs
  | 0, b :: bs =>
    match utf8Head b bs with
    | .char c n => c :: decodeLossyFrom (n - 1) bs
    | .invalid n => '\uFFFD' :: decodeLossyFrom (n - 1) bs
    | .incomplete => ['\uFFFD']

/-- The text of a byte sequence, with U+FFFD where it is no UTF-8. -/
def decodeLossy (bs : List UInt8) : String :=
  String.ofList (decodeLossyFrom 0 bs)

end ClassLens.Text
