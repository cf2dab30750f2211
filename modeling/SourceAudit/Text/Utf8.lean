import SourceAudit.Text.Basic

/-!
  UTF-8. A decoder goes over bytes with what it still expects: a range for each
  byte that has to follow, and the bits read so far. Where a byte does not
  follow, what was read of the character gives one replacement character, and
  the byte starts anew.
-/
namespace SourceAudit
namespace Utf8

/-- The character that stands for bytes that cannot be decoded. -/
def replacement : Char := Char.ofNat 0xfffd

/-- The ranges of the bytes that still have to follow, and the bits read so far. -/
structure Pending where
  ranges : List (Nat × Nat) := []
  bits : Nat := 0

/-- The bytes that follow without further conditions. -/
def tail : Nat × Nat := (0x80, 0xbf)

/-- What has to follow a byte that starts a longer character, with the bits that it gives. -/
def lead? (b : Nat) : Option Pending :=
  if 0xc2 ≤ b ∧ b ≤ 0xdf then some ⟨[tail], b - 0xc0⟩
  else if b = 0xe0 then some ⟨[(0xa0, 0xbf), tail], 0⟩
  else if b = 0xed then some ⟨[(0x80, 0x9f), tail], 0xd⟩
  else if 0xe1 ≤ b ∧ b ≤ 0xef then some ⟨[tail, tail], b - 0xe0⟩
  else if b = 0xf0 then some ⟨[(0x90, 0xbf), tail, tail], 0⟩
  else if 0xf1 ≤ b ∧ b ≤ 0xf3 then some ⟨[tail, tail, tail], b - 0xf0⟩
  else if b = 0xf4 then some ⟨[(0x80, 0x8f), tail, tail], 4⟩
  else none

/-- A byte at the start of a character: what it gives at once, and what has to follow. -/
def start (bad : Char) (b : Nat) : Text × Pending :=
  if b < 0x80 then ([Char.ofNat b], {})
  else
    match lead? b with
    | some p => ([], p)
    | none => ([bad], {})

/-- A byte after others. -/
def step (bad : Char) (p : Pending) (b : Nat) : Text × Pending :=
  match p.ranges with
  | [] => start bad b
  | (low, high) :: more =>
    if low ≤ b ∧ b ≤ high then
      let bits := 64 * p.bits + (b - 0x80)
      if more.isEmpty then ([Char.ofNat bits], {}) else ([], ⟨more, bits⟩)
    else
      let (out, next) := start bad b
      (bad :: out, next)

/-- The characters of bytes that follow others. -/
def decodeFrom (bad : Char) : Pending → List UInt8 → Text
  | p, [] => if p.ranges.isEmpty then [] else [bad]
  | p, b :: rest =>
    let (out, next) := step bad p b.toNat
    out ++ decodeFrom bad next rest

/-- The characters of bytes; what cannot be decoded is replaced. -/
def decode (bytes : List UInt8) : Text := decodeFrom replacement {} bytes

/-- Whether bytes are the form of a text. -/
def isValidFrom : Pending → List UInt8 → Bool
  | p, [] => p.ranges.isEmpty
  | p, b :: rest =>
    let fresh := p.ranges.isEmpty && (decide (b.toNat < 0x80) || (lead? b.toNat).isSome)
    let follows := match p.ranges with
      | [] => false
      | (low, high) :: _ => decide (low ≤ b.toNat ∧ b.toNat ≤ high)
    (fresh || follows) && isValidFrom (step replacement p b.toNat).2 rest

/-- The text that bytes are the form of. -/
def decode? (bytes : List UInt8) : Option Text :=
  if isValidFrom {} bytes then some (decode bytes) else none

end Utf8

namespace Text

/-- A text in which every line break is a line feed: a carriage return, alone or before a line
feed, counts as one. -/
def plainBreaks : Text → Text
  | [] => []
  | '\r' :: rest =>
    match rest with
    | '\n' :: _ => plainBreaks rest
    | _ => '\n' :: plainBreaks rest
  | c :: rest => c :: plainBreaks rest

end Text
end SourceAudit
