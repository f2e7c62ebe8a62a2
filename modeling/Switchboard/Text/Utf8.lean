import Switchboard.Text.Basic

namespace Switchboard
namespace Text

/-!
Reading text from UTF-8.

Decoding is strict: overlong forms, surrogates and code points beyond the last plane are refused,
and so are stray and missing continuation bytes.  The fault names the first bytes that cannot be
read.  Bytes arrive as a stream, so a sequence that the end of the bytes cuts short is judged
only when nothing more comes; its position is then counted within the bytes left over.
-/

/-- Why bytes cannot be read. -/
inductive Utf8Problem where
  | badStart
  | badContinuation
  | cutShort
deriving Repr, DecidableEq

/-- The first bytes that cannot be read. -/
structure Utf8Fault where
  problem : Utf8Problem
  /-- The first of the bytes. -/
  byte : UInt8
  position : Nat
  /-- The count of the bytes. -/
  count : Nat
deriving Repr, DecidableEq

/-- A continuation byte within bounds. -/
def isContinuation (low high : Nat) (byte : UInt8) : Bool :=
  low <= byte.toNat && byte.toNat <= high

/-- The six bits of a continuation byte. -/
def payload (byte : UInt8) : Nat := byte.toNat % 64

/-- How a leading byte goes on: the count of continuation bytes, the bounds of the first of them
and the bits of the leading byte itself. -/
structure Utf8Lead where
  more : Nat
  low : Nat
  high : Nat
  bits : Nat

/-- The meaning of a leading byte beyond ASCII. -/
def utf8Lead? (byte : UInt8) : Option Utf8Lead :=
  let n := byte.toNat
  if 0xC2 <= n && n <= 0xDF then some ⟨1, 0x80, 0xBF, n - 0xC0⟩
  else if n == 0xE0 then some ⟨2, 0xA0, 0xBF, 0⟩
  else if n == 0xED then some ⟨2, 0x80, 0x9F, 0xD⟩
  else if 0xE1 <= n && n <= 0xEF then some ⟨2, 0x80, 0xBF, n - 0xE0⟩
  else if n == 0xF0 then some ⟨3, 0x90, 0xBF, 0⟩
  else if 0xF1 <= n && n <= 0xF3 then some ⟨3, 0x80, 0xBF, n - 0xF0⟩
  else if n == 0xF4 then some ⟨3, 0x80, 0x8F, 4⟩
  else none

/-- The state of decoding between two bytes: what is missing of a sequence, if one is open. -/
structure Utf8Open where
  /-- Where the sequence starts, and its first byte. -/
  start : Nat
  byte : UInt8
  /-- The count of bytes read and the count of bytes missing. -/
  read : Nat
  missing : Nat
  low : Nat
  high : Nat
  /-- The bits read so far. -/
  bits : Nat

/-- Decoding from a position on, in the middle of a sequence or between two of them. -/
def decodeFrom (position : Nat) : Option Utf8Open -> List UInt8 -> Except Utf8Fault Text
  | none, [] => .ok []
  | some pending, [] => .error ⟨.cutShort, pending.byte, 0, pending.read⟩
  | none, byte :: bytes =>
      if byte.toNat < 0x80 then
        (decodeFrom (position + 1) none bytes).map (Char.ofNat byte.toNat :: ·)
      else match utf8Lead? byte with
        | none => .error ⟨.badStart, byte, position, 1⟩
        | some lead =>
            decodeFrom (position + 1)
              (some ⟨position, byte, 1, lead.more, lead.low, lead.high, lead.bits⟩) bytes
  | some pending, byte :: bytes =>
      if !isContinuation pending.low pending.high byte then
        .error ⟨.badContinuation, pending.byte, pending.start, pending.read⟩
      else
        let bits := pending.bits * 64 + payload byte
        if pending.missing <= 1 then
          (decodeFrom (position + 1) none bytes).map (Char.ofNat bits :: ·)
        else
          decodeFrom (position + 1)
            (some { pending with
              read := pending.read + 1, missing := pending.missing - 1,
              low := 0x80, high := 0xBF, bits := bits }) bytes

/-- The text of bytes. -/
def decodeUtf8 (bytes : List UInt8) : Except Utf8Fault Text := decodeFrom 0 none bytes

/-- The text with every line end, of whichever kind, written as one line feed. -/
def unifyLines : Text -> Text
  | [] => []
  | '\r' :: '\n' :: rest => '\n' :: unifyLines rest
  | '\r' :: rest => '\n' :: unifyLines rest
  | c :: rest => c :: unifyLines rest

/-- The wording of a problem. -/
def Utf8Problem.message : Utf8Problem -> String
  | badStart => "invalid start byte"
  | badContinuation => "invalid continuation byte"
  | cutShort => "unexpected end of data"

/-- A byte in two hexadecimal digits. -/
def hexByte (byte : UInt8) : String :=
  let digits := Nat.toDigits 16 byte.toNat
  String.ofList (if digits.length < 2 then '0' :: digits else digits)

/-- The wording of a fault. -/
def Utf8Fault.message (fault : Utf8Fault) : String :=
  let place :=
    if fault.count = 1 then s!"byte 0x{hexByte fault.byte} in position {fault.position}"
    else s!"bytes in position {fault.position}-{fault.position + fault.count - 1}"
  s!"'utf-8' codec can't decode {place}: {fault.problem.message}"

end Text
end Switchboard
