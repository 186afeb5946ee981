/-!
# Bytes as UTF-8

A list of bytes is read one character at a time. What is decided here: where a character ends, and
where the bytes stop being UTF-8. A first byte says how many bytes follow it and between which bounds
the next one has to be (`tails?`); at the first byte out of bounds the bytes before it are a fault,
and the reading goes on with that byte (`Start`, `starts`). Where a fault stands is kept, so that it
can be told (`decode`); or every fault is read as the replacement character (`decodeLossy`).
-/

set_option autoImplicit false

namespace NameQuery.Text.Utf8

/-- How a list of bytes begins, with the number of bytes that this takes. -/
inductive Start
  | char (c : Char) (size : Nat)
  /-- Bytes that no character begins with. -/
  | broken (size : Nat)
  /-- The first bytes of a character that the list ends within. -/
  | cut (size : Nat)
deriving DecidableEq

/-- The number of bytes that follow a first byte of 128 or more, and the bounds of the next one. -/
def tails? (b : UInt8) : Option (Nat × UInt8 × UInt8) :=
  if b < 0xC2 || 0xF4 < b then none
  else if b < 0xE0 then some (1, 0x80, 0xBF)
  else if b = 0xE0 then some (2, 0xA0, 0xBF)
  else if b = 0xED then some (2, 0x80, 0x9F)
  else if b < 0xF0 then some (2, 0x80, 0xBF)
  else if b = 0xF0 then some (3, 0x90, 0xBF)
  else if b = 0xF4 then some (3, 0x80, 0x8F)
  else some (3, 0x80, 0xBF)

/-- The bits that a first byte of 128 or more gives to its character. -/
def firstBits (b : UInt8) : Nat := b.toNat % (if b < 0xE0 then 32 else if b < 0xF0 then 16 else 8)

/-- The rest of a character: `n` bytes, the next one between two bounds, after `size` bytes that make
up `value`. -/
def startAfter (size value : Nat) : Nat → UInt8 → UInt8 → List UInt8 → Start
  | 0, _, _, _ => .char (Char.ofNat value) size
  | _ + 1, _, _, [] => .cut size
  | n + 1, low, high, b :: bs =>
    if low ≤ b && b ≤ high then startAfter (size + 1) (64 * value + b.toNat % 64) n 0x80 0xBF bs
    else .broken size

/-- How a list of bytes begins that begins with `b`. -/
def start (b : UInt8) (bs : List UInt8) : Start :=
  if b < 0x80 then .char (Char.ofNat b.toNat) 1
  else
    match tails? b with
    | none => .broken 1
    | some (n, low, high) => startAfter 1 (firstBits b) n low high bs

def Start.size : Start → Nat
  | .char _ n | .broken n | .cut n => n

/-- The starts that a list of bytes consists of, after some bytes that are passed over. -/
def starts : Nat → List UInt8 → List Start
  | _, [] => []
  | skip + 1, _ :: bs => starts skip bs
  | 0, b :: bs =>
    let first := start b bs
    first :: starts (first.size - 1) bs

/-- A fault in a list of bytes: where it begins and its size, none for a character that is cut off. -/
structure Fault where
  index : Nat
  size? : Option Nat
deriving DecidableEq

def Fault.message : Fault → String
  | ⟨index, some size⟩ => s!"invalid utf-8 sequence of {size} bytes from index {index}"
  | ⟨index, none⟩ => s!"incomplete utf-8 byte sequence from index {index}"

/-- The characters of some starts, the first one at the given place, or the first fault. -/
def charsFrom : Nat → List Start → Except Fault (List Char)
  | _, [] => .ok []
  | i, .char c n :: rest => (charsFrom (i + n) rest).map (c :: ·)
  | i, .broken n :: _ => .error ⟨i, some n⟩
  | i, .cut _ :: _ => .error ⟨i, none⟩

/-- The text that bytes encode, or the first fault in them. -/
def decode (bs : List UInt8) : Except Fault String := (charsFrom 0 (starts 0 bs)).map String.ofList

/-- The text that bytes encode, with a replacement character for every fault. -/
def decodeLossy (bs : List UInt8) : String :=
  String.ofList <| (starts 0 bs).map fun
    | .char c _ => c
    | .broken _ | .cut _ => '\uFFFD'

end NameQuery.Text.Utf8
