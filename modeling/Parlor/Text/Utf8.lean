import Parlor.Json.Reader

/-!
# Bytes that may not be text

Reads bytes as UTF-8 and puts a replacement character in the place of every part that is none: of
each sequence that breaks off, the longest beginning that could have been continued is replaced as
one, and any other byte on its own.
-/

namespace Parlor.Text

open Json (Bytes)

/-- The character that stands for what is no text. -/
def replacement : Char := '\ufffd'

/-- Tests for a byte that continues a sequence. -/
def isContinuation (b : UInt8) : Bool := 0x80 ≤ b && b ≤ 0xbf

/--
The length of the sequence that a byte begins, and the bounds of the byte after it; the bounds leave
out sequences that are longer than needed, surrogates, and what is beyond the last code point.
-/
def sequenceShape? (b : UInt8) : Option (Nat × UInt8 × UInt8) :=
  if 0xc2 ≤ b && b ≤ 0xdf then some (2, 0x80, 0xbf)
  else if b = 0xe0 then some (3, 0xa0, 0xbf)
  else if b = 0xed then some (3, 0x80, 0x9f)
  else if 0xe1 ≤ b && b ≤ 0xef then some (3, 0x80, 0xbf)
  else if b = 0xf0 then some (4, 0x90, 0xbf)
  else if 0xf1 ≤ b && b ≤ 0xf3 then some (4, 0x80, 0xbf)
  else if b = 0xf4 then some (4, 0x80, 0x8f)
  else none

/-- The payload bits of a continuation byte. -/
def continuationBits (b : UInt8) : Nat := b.toNat % 64

/-- The characters of bytes; `fuel` is their number. -/
def decodeChars : (fuel : Nat) → Bytes → List Char
  | 0, _ => []
  | _ + 1, [] => []
  | fuel + 1, b :: rest =>
    if b < 0x80 then Char.ofNat b.toNat :: decodeChars fuel rest
    else
      match sequenceShape? b with
      | none => replacement :: decodeChars fuel rest
      | some (length, low, high) =>
        match rest with
        | c :: rest' =>
          if low ≤ c && c ≤ high then
            match length, rest' with
            | 2, _ => Char.ofNat (b.toNat % 32 * 64 + continuationBits c) :: decodeChars fuel rest'
            | 3, d :: rest'' =>
              if isContinuation d then
                Char.ofNat ((b.toNat % 16 * 64 + continuationBits c) * 64 + continuationBits d)
                  :: decodeChars fuel rest''
              else replacement :: decodeChars fuel rest'
            | 4, d :: e :: rest'' =>
              if !isContinuation d then replacement :: decodeChars fuel rest'
              else if isContinuation e then
                Char.ofNat (((b.toNat % 8 * 64 + continuationBits c) * 64 + continuationBits d) * 64
                  + continuationBits e) :: decodeChars fuel rest''
              else replacement :: decodeChars fuel (e :: rest'')
            | 4, [d] => if isContinuation d then [replacement] else replacement :: decodeChars fuel [d]
            | _, _ => replacement :: decodeChars fuel rest'
          else replacement :: decodeChars fuel rest
        | [] => [replacement]

/-- The text of bytes, with a replacement character for each part that is none. -/
def decodeLossy (bs : Bytes) : String := String.ofList (decodeChars bs.length bs)

end Parlor.Text
