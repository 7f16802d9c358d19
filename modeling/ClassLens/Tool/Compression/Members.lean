import ClassLens.Tool.Checksum.Digest
import ClassLens.Tool.Compression.Deflate
import ClassLens.Tool.Compression.Inflate

/-! # Compressed files

A compressed file has members, one after the other: each has a header, which may tell the name and the time of
what was compressed, compressed blocks, and sums to check them by.

* `pack`: the member for some bytes.
* `unpack`: what the members of a file hold. -/

namespace ClassLens.Tool.Compression

/-- The bytes of a number, the lowest first. -/
def littleBytes : Nat → Nat → List UInt8
  | 0, _ => []
  | count + 1, n => UInt8.ofNat (n % 256) :: littleBytes count (n / 256)

/-- The member for some bytes. -/
def pack (level : Nat) (name : Option (List UInt8)) (stamp : Nat) (data : Array UInt8) : Array UInt8 :=
  let flags : UInt8 := if name.isSome then 8 else 0
  let effort : UInt8 := if level = 9 then 2 else if level = 1 then 4 else 0
  let named : List UInt8 := match name with
    | some name => name ++ [0]
    | none => []
  let header : List UInt8 := [0x1F, 0x8B, 8, flags] ++ littleBytes 4 stamp ++ [effort, 3] ++ named
  header.toArray ++ deflate level data ++
    (littleBytes 4 (crcReflected data).toNat ++ littleBytes 4 data.size).toArray

/-- What is wrong with a compressed file. -/
inductive MemberFault where
  /-- It ends too early. -/
  | ends
  /-- It is none. -/
  | foreign
  /-- Something else follows the last member, or just zeros. -/
  | garbage
  | zeros
  | unknownMethod (n : Nat)
  | encrypted
  | unknownFlags (n : Nat)
  /-- The blocks are none. -/
  | malformed
  /-- Sums are wrong: that of the bytes, or their number. -/
  | wrongSums (content size : Bool)

/-- What a file holds. -/
structure Unpacked where
  out : Array UInt8 := #[]
  /-- The name in the first header, if it is there. -/
  name : Option (List UInt8) := none
  /-- The sum of the last member, how many bytes it has, and how many bytes of the file are not blocks. -/
  sum : Nat := 0
  size : Nat := 0
  header : Nat := 0
  fault : Option MemberFault := none

/-- The header of a member: where the blocks begin, and the name in it. -/
structure Header where
  stop : Nat
  name : Option (List UInt8) := none

/-- The place after a text that ends with a zero. -/
def afterZero (data : Array UInt8) (k : Nat) : Nat → Except MemberFault Nat
  | 0 => .error .ends
  | fuel + 1 =>
    match data[k]? with
    | some 0 => .ok (k + 1)
    | some _ => afterZero data (k + 1) fuel
    | none => .error .ends

/-- Reads the header at a place. -/
def headerAt (data : Array UInt8) (k : Nat) (isFirst : Bool) : Except MemberFault Header := do
  let byte (i : Nat) : Except MemberFault UInt8 :=
    match data[i]? with
    | some b => .ok b
    | none => .error .ends
  let first ← byte k
  let second ← if first = 0 then pure 0xFF else byte (k + 1)
  if !(first == 0x1F && (second == 0x8B || second == 0x9E)) then
    if isFirst then throw .foreign
    if (data.extract k data.size).all (· == 0) then throw .zeros
    throw .garbage
  let method ← byte (k + 2)
  if method ≠ 8 then throw (.unknownMethod method.toNat)
  let flags ← byte (k + 3)
  if flags &&& 0x20 ≠ 0 then throw .encrypted
  if flags &&& 0xC0 ≠ 0 then throw (.unknownFlags flags.toNat)
  let _ ← byte (k + 9)
  let k := k + 10
  let k ← if flags &&& 4 ≠ 0 then do
      let size := (← byte k).toNat + 256 * (← byte (k + 1)).toNat
      pure (k + 2 + size)
    else pure k
  let afterName ← if flags &&& 8 ≠ 0 then afterZero data k data.size else pure k
  let name := if flags &&& 8 ≠ 0 then some (data.extract k (afterName - 1)).toList else none
  let k ← if flags &&& 16 ≠ 0 then afterZero data afterName data.size else pure afterName
  return ⟨if flags &&& 2 ≠ 0 then k + 2 else k, name⟩

/-- A number of four bytes, the lowest first. -/
def wordAt (data : Array UInt8) (k : Nat) : Nat :=
  (List.range 4).foldl (fun n i => n + (data.getD (k + i) 0).toNat * Nat.pow 256 i) 0

/-- How many bytes are written at once. -/
def windowSize : Nat := 32768

/-- Reads the members from a place on; `u` is what those before them hold. -/
def unpackFrom (data : Array UInt8) (k : Nat) (isFirst : Bool) (u : Unpacked) : Nat → Unpacked
  | 0 => u
  | fuel + 1 =>
    let u := { u with header := 0 }
    match headerAt data k isFirst with
    | .error fault => { u with fault := some fault }
    | .ok h =>
      let u := if isFirst then { u with name := h.name } else u
      let (out, found) := inflate data h.stop
      match found with
      | .error .ends => { u with out := u.out ++ out, fault := some .ends }
      | .error .malformed =>
        let written := out.extract 0 (out.size / windowSize * windowSize)
        { u with out := u.out ++ written, fault := some .malformed }
      | .ok stop =>
        let u := { u with out := u.out ++ out, size := out.size, header := if isFirst then h.stop - k + 8 else 0 }
        if stop + 8 > data.size then { u with fault := some .ends }
        else
          let sum := wordAt data stop
          let isWrong := sum ≠ (crcReflected out).toNat
          let isWrongSize := wordAt data (stop + 4) ≠ out.size
          if isWrong ∨ isWrongSize then { u with fault := some (.wrongSums isWrong isWrongSize) }
          else if stop + 8 = data.size then { u with sum }
          else unpackFrom data (stop + 8) false { u with sum } fuel

/-- What a file holds. -/
def unpack (data : Array UInt8) : Unpacked := unpackFrom data 0 true {} (data.size + 1)

end ClassLens.Tool.Compression
