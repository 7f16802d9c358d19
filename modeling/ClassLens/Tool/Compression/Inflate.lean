import ClassLens.Tool.Compression.Codes

/-! # Reading compressed blocks

* `inflate`: reads blocks and gives the bytes that they stand for. -/

namespace ClassLens.Tool.Compression

/-- Why compressed blocks cannot be read. -/
inductive InflateFault where
  /-- The input ends too early. -/
  | ends
  /-- What is there is no block. -/
  | malformed

/-- How far reading is: the place of the next bit, and the bytes so far. -/
structure Inflation where
  place : Nat := 0
  out : Array UInt8 := #[]

/-- A step of reading. -/
abbrev Inflating := EStateM InflateFault Inflation

/-- Makes sure that so many bits are there. -/
def need (data : Array UInt8) (width : Nat) : Inflating Unit := do
  if 8 * data.size < (← get).place + width then throw .ends

/-- Some bits as a number, the first one being the lowest. -/
def bitsAt (data : Array UInt8) (place : Nat) : Nat → Nat
  | 0 => 0
  | width + 1 =>
    let byte := (data.getD (place / 8) 0).toNat
    byte / Nat.pow 2 (place % 8) % 2 + 2 * bitsAt data (place + 1) width

/-- Reads some bits as a number. -/
def takeBits (data : Array UInt8) (width : Nat) : Inflating Nat := do
  need data width
  let n := bitsAt data (← get).place width
  modify fun s => { s with place := s.place + width }
  return n

/-- Reads a symbol: `code` are the bits so far, `first` is the first code of this length and `index` the
place of its symbol. -/
def takeSymbolFrom (data : Array UInt8) (c : Code) (code first index length : Nat) : Nat → Inflating Nat
  | 0 => throw .malformed
  | fuel + 1 => do
    let code := 2 * code + (← takeBits data 1)
    let first := 2 * first
    let count := c.counts.getD length 0
    if code < first + count then return c.symbols.getD (index + (code - first)) 0
    else takeSymbolFrom data c code (first + count) (index + count) (length + 1) fuel

/-- Reads a symbol. -/
def takeSymbol (data : Array UInt8) (c : Code) : Inflating Nat := do
  need data c.ahead
  takeSymbolFrom data c 0 0 0 1 maxLength

/-- Writes a byte. -/
def giveByte (b : UInt8) : Inflating Unit := modify fun s => { s with out := s.out.push b }

/-- Writes bytes once more that were written so far before. Before the first byte stand zeros. -/
def copyBack (distance : Nat) : Nat → Inflating Unit
  | 0 => return
  | n + 1 => do
    let out := (← get).out
    giveByte (if distance ≤ out.size then out.getD (out.size - distance) 0 else 0)
    copyBack distance n

/-- Reads what a block says, to its end. -/
def inflateCodes (data : Array UInt8) (symbols distances : Code) : Nat → Inflating Unit
  | 0 => throw .ends
  | fuel + 1 => do
    let s ← takeSymbol data symbols
    if s < 256 then
      giveByte (UInt8.ofNat s)
      inflateCodes data symbols distances fuel
    else if s = 256 then return
    else
      let k := s - 257
      if k ≥ lengthBase.size then throw .malformed
      let length := lengthBase.getD k 0 + (← takeBits data (lengthExtra.getD k 0))
      let d ← takeSymbol data distances
      if d ≥ distanceBase.size then throw .malformed
      let distance := distanceBase.getD d 0 + (← takeBits data (distanceExtra.getD d 0))
      copyBack distance length
      inflateCodes data symbols distances fuel

/-- Reads the lengths of two codes, which are written as one list with its own code. -/
def takeLengths (data : Array UInt8) (code : Code) (count : Nat) (lengths : Array Nat) : Nat → Inflating (Array Nat)
  | 0 => throw .malformed
  | fuel + 1 => do
    if lengths.size = count then return lengths
    let s ← takeSymbol data code
    let last := lengths.back?.getD 0
    let (value, times) ←
      if s < 16 then pure (s, 1)
      else if s = 16 then pure (last, 3 + (← takeBits data 2))
      else if s = 17 then pure (0, 3 + (← takeBits data 3))
      else pure (0, 11 + (← takeBits data 7))
    if lengths.size + times > count then throw .malformed
    takeLengths data code count (lengths ++ Array.replicate times value) fuel

/-- Reads the two codes of a block. -/
def takeCodes (data : Array UInt8) : Inflating (Code × Code) := do
  let symbolCount := 257 + (← takeBits data 5)
  let distanceCount := 1 + (← takeBits data 5)
  let lengthCount := 4 + (← takeBits data 4)
  if symbolCount > 286 ∨ distanceCount > 30 then throw .malformed
  let own ← (lengthOrder.take lengthCount).foldlM (fun own k => do
    return own.set! k (← takeBits data 3)) (Array.replicate 19 0)
  let some code := Code.ofLengths? 7 own | throw .malformed
  let lengths ← takeLengths data code (symbolCount + distanceCount) #[] (symbolCount + distanceCount + 1)
  match Code.ofLengths? 9 (lengths.extract 0 symbolCount), Code.ofLengths? 6 (lengths.extract symbolCount lengths.size) with
  | some symbols, some distances => return (symbols, distances)
  | _, _ => throw .malformed

/-- Copies the bytes of a block that is written as it is. -/
def copyStored (data : Array UInt8) : Nat → Inflating Unit
  | 0 => return
  | n + 1 => do
    giveByte (UInt8.ofNat (← takeBits data 8))
    copyStored data n

/-- Reads blocks to the last one. -/
def inflateBlocks (data : Array UInt8) : Nat → Inflating Unit
  | 0 => throw .ends
  | fuel + 1 => do
    let isLast := (← takeBits data 1) = 1
    match ← takeBits data 2 with
    | 0 =>
      modify fun s => { s with place := (s.place + 7) / 8 * 8 }
      let size ← takeBits data 16
      let check ← takeBits data 16
      if size + check ≠ 65535 then throw .malformed
      copyStored data size
    | 1 =>
      match Code.ofLengths? 7 fixedLengths with
      | some symbols => inflateCodes data symbols .ofFixedDistances (8 * data.size + 1)
      | none => throw .malformed
    | 2 =>
      let (symbols, distances) ← takeCodes data
      inflateCodes data symbols distances (8 * data.size + 1)
    | _ => throw .malformed
    if isLast then return
    inflateBlocks data fuel

/-- Reads the blocks that begin at a byte: gives the bytes that they stand for and the place of the byte
after them, or the fault with the bytes so far. -/
def inflate (data : Array UInt8) (start : Nat) : Array UInt8 × Except InflateFault Nat :=
  match inflateBlocks data (8 * data.size + 1) |>.run { place := 8 * start } with
  | .ok _ s => (s.out, .ok ((s.place + 7) / 8))
  | .error fault s => (s.out, .error fault)

end ClassLens.Tool.Compression
