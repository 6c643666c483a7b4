import CacheSim.Zstandard.Error
import CacheSim.Zstandard.Huffman

/-!
# Literals of a block

A compressed block begins with its literals: bytes that stand there as they are, or one byte that is
repeated, or a Huffman code with one or four streams, or streams alone for the code of an earlier
block.  In front stands the number of literals and, for streams, the number of their bytes.
-/

namespace CacheSim.Zstandard

/-- The literals of a block. -/
structure Literals where
  /-- The literals. -/
  bytes : List UInt8
  /-- The Huffman code that later blocks can take up. -/
  code : Option Huffman
  /-- The bytes of the block behind the literals. -/
  rest : List UInt8

/-- How much a block can hold. -/
structure Bounds where
  /-- No block of the frame holds more. -/
  limit : Nat
  /-- The room that is left for the block. -/
  room : Nat

/-- Checks that a number of literals is within bounds. -/
def Bounds.checkLiterals (b : Bounds) (count : Nat) : Except Error Unit :=
  if b.limit < count then .error .corrupted
  else if b.room < count then .error .noRoom
  else .ok ()

namespace Literals

/-- The length of a header without streams, by its second field. -/
def plainHeaderLength (field : Nat) : Nat :=
  if field = 3 then 3 else if field = 1 then 2 else 1

/-- The number of literals in a header without streams, by its second field. -/
def plainCount (field header : Nat) : Nat :=
  if field = 3 then header % 1 <<< 24 / 16
  else if field = 1 then header % 1 <<< 16 / 16
  else header % 1 <<< 8 / 8

/-- Literals without a code. -/
def readPlain (bounds : Bounds) (code : Option Huffman) (isRepeated : Bool) (field header : Nat)
    (bytes : List UInt8) : Except Error Literals := do
  let headerLength := plainHeaderLength field
  let count := plainCount field header
  let body := bytes.drop headerLength
  if bytes.length < headerLength then .error .corrupted
  else if isRepeated then
    match body with
    | [] => .error .corrupted
    | byte :: rest =>
      bounds.checkLiterals count
      .ok ⟨List.replicate count byte, code, rest⟩
  else
    bounds.checkLiterals count
    if body.length < count then .error .corrupted
    else .ok ⟨body.take count, code, body.drop count⟩

/-- The literals in streams, with the code in front of them or with an earlier one. -/
def decodeStreams? (earlier : Option Huffman) (isSingle : Bool) (count : Nat)
    (bytes : List UInt8) : Option (List UInt8 × Huffman) := do
  let (code, bytes) ←
    match earlier with
    | some code => some (code, bytes)
    | none => Huffman.read? bytes
  let literals ← if isSingle then code.decode? count bytes else code.decodeFour? count bytes
  some (literals, code)

/-- Literals in streams. -/
def readStreams (bounds : Bounds) (earlier : Option Huffman) (field header : Nat)
    (bytes : List UInt8) : Except Error Literals := do
  let width := if field = 3 then 18 else if field = 2 then 14 else 10
  let headerLength := if field = 3 then 5 else if field = 2 then 4 else 3
  let count := header / 16 % 1 <<< width
  let length := header >>> (4 + width) % 1 <<< width
  let body := bytes.drop headerLength
  if bytes.length < 5 ∨ bounds.limit < count then .error .corrupted
  else if field ≠ 0 ∧ count < 6 then .error .fewLiterals
  else if body.length < length then .error .corrupted
  else
    bounds.checkLiterals count
    match decodeStreams? earlier (field == 0) count (body.take length) with
    | none => .error .corrupted
    | some (literals, code) => .ok ⟨literals, some code, body.drop length⟩

/-- The literals at the start of a block, where earlier blocks of the frame have left a code. -/
def read (bounds : Bounds) (earlier : Option Huffman) (bytes : List UInt8) :
    Except Error Literals :=
  let header := LittleEndian.toNat (bytes.take 5)
  let field := header / 4 % 4
  if bytes.length < 2 then .error .corrupted
  else
    match header % 4 with
    | 0 => readPlain bounds earlier false field header bytes
    | 1 => readPlain bounds earlier true field header bytes
    | 2 => readStreams bounds none field header bytes
    | _ =>
      match earlier with
      | none => .error .noEarlierCode
      | some code => readStreams bounds (some code) field header bytes

end Literals

end CacheSim.Zstandard
