/-!
# UTF-8

Reading a list of bytes as text.  A reading that fails tells how many bytes could be read and how
many more belong to the broken sequence: those up to the first byte that cannot stand where it
does.  If the bytes end within a sequence that was correct so far, there is no such byte.  A lossy
reading does not fail: it puts a replacement character in the place of each broken sequence.
-/

namespace CacheSim.Text

/-- The bytes of a text. -/
def encodeUtf8 (text : List Char) : List UInt8 :=
  text.flatMap String.utf8EncodeChar

/-- Where and how bytes stop being UTF-8. -/
structure Utf8Error where
  /-- The number of bytes that can be read. -/
  index : Nat
  /-- The length of the broken sequence, unless the bytes end within it. -/
  length? : Option Nat
  deriving DecidableEq

namespace Utf8Error

/-- The text of the error. -/
def message (e : Utf8Error) : String :=
  match e.length? with
  | some n => "invalid utf-8 sequence of " ++ toString n ++ " bytes from index " ++ toString e.index
  | none => "incomplete utf-8 byte sequence from index " ++ toString e.index

end Utf8Error

/-- Whether a byte continues a sequence. -/
def isContinuation (b : UInt8) : Bool :=
  0x80 ≤ b && b ≤ 0xBF

/-- Whether a byte can be the second one of a sequence of three bytes.  The ranges leave out the
longer forms of shorter sequences, and the surrogates. -/
def isSecondOfThree (first second : UInt8) : Bool :=
  if first = 0xE0 then 0xA0 ≤ second && second ≤ 0xBF
  else if first = 0xED then 0x80 ≤ second && second ≤ 0x9F
  else isContinuation second

/-- Whether a byte can be the second one of a sequence of four bytes.  The ranges leave out the
longer forms of shorter sequences, and what lies beyond the last character. -/
def isSecondOfFour (first second : UInt8) : Bool :=
  if first = 0xF0 then 0x90 ≤ second && second ≤ 0xBF
  else if first = 0xF4 then 0x80 ≤ second && second ≤ 0x8F
  else isContinuation second

/-- The six bits that a continuation byte carries. -/
def payload (b : UInt8) : Nat :=
  b.toNat % 64

/-- What bytes begin with. -/
inductive Beginning where
  /-- A character, of the first byte and `more` others. -/
  | char (c : Char) (more : Nat)
  /-- A sequence that is broken by the byte after the first and `more` others. -/
  | broken (more : Nat)
  /-- A sequence that the bytes end in. -/
  | cut

/-- What a first byte and the others begin with. -/
def beginning (b₁ : UInt8) (rest : List UInt8) : Beginning :=
  if b₁ < 0x80 then .char (Char.ofNat b₁.toNat) 0
  else if b₁ < 0xC2 || 0xF4 < b₁ then .broken 0
  else
    match rest with
    | [] => .cut
    | b₂ :: rest =>
      if b₁ < 0xE0 then
        if isContinuation b₂ then .char (Char.ofNat (b₁.toNat % 32 * 64 + payload b₂)) 1
        else .broken 0
      else if b₁ < 0xF0 then
        if isSecondOfThree b₁ b₂ then
          match rest with
          | [] => .cut
          | b₃ :: _ =>
            if isContinuation b₃ then
              .char (Char.ofNat ((b₁.toNat % 16 * 64 + payload b₂) * 64 + payload b₃)) 2
            else .broken 1
        else .broken 0
      else if isSecondOfFour b₁ b₂ then
        match rest with
        | [] => .cut
        | b₃ :: rest =>
          if isContinuation b₃ then
            match rest with
            | [] => .cut
            | b₄ :: _ =>
              if isContinuation b₄ then
                .char (Char.ofNat (((b₁.toNat % 8 * 64 + payload b₂) * 64 + payload b₃) * 64 +
                  payload b₄)) 3
              else .broken 2
          else .broken 1
      else .broken 0

/-- Reads bytes of which `index` have been read before, as the characters `read`, latest first. -/
def decodeFrom (index : Nat) (read : List Char) : List UInt8 → Except Utf8Error (List Char)
  | [] => .ok read.reverse
  | b :: rest =>
    match beginning b rest with
    | .char c more => decodeFrom (index + (more + 1)) (c :: read) (rest.drop more)
    | .broken more => .error ⟨index, some (more + 1)⟩
    | .cut => .error ⟨index, none⟩
termination_by bytes => bytes.length
decreasing_by
  rw [List.length_drop, List.length_cons]
  omega

/-- The text that bytes stand for. -/
def decodeUtf8 (bytes : List UInt8) : Except Utf8Error (List Char) :=
  decodeFrom 0 [] bytes

/-- Stands in a text for bytes that cannot be read. -/
def replacement : Char :=
  Char.ofNat 0xFFFD

/-- The text that bytes stand for as far as they can be read. -/
def decodeLossy : List UInt8 → List Char
  | [] => []
  | b :: rest =>
    match beginning b rest with
    | .char c more => c :: decodeLossy (rest.drop more)
    | .broken more => replacement :: decodeLossy (rest.drop more)
    | .cut => [replacement]
termination_by bytes => bytes.length
decreasing_by
  all_goals
    rw [List.length_drop, List.length_cons]
    omega

end CacheSim.Text
