import RecordSearch.Text.Quoted

/-! Texts as bytes. Reading stops at the first byte sequence that stands for no character, and says
what is wrong with it. -/
namespace RecordSearch

abbrev Bytes := List UInt8

namespace Utf8

inductive Fault where
  /-- The first byte begins no character. -/
  | start
  /-- A byte that should go on with a character does not. -/
  | continuation
  /-- The bytes end inside a character. -/
  | cut
  deriving DecidableEq, Repr

/-- Where reading stopped: the bytes of the character that were still accepted, the place of the
first of them, and what is wrong. -/
structure Error where
  fault : Fault
  bytes : Bytes
  place : Nat
  deriving DecidableEq, Repr

/-- The bits of a character's number that its first byte holds, how many bytes follow, and the least
and the greatest second byte. -/
def lead? (byte : UInt8) : Option (Nat × Nat × UInt8 × UInt8) :=
  let n := byte.toNat
  if 0xC2 ≤ n ∧ n ≤ 0xDF then some (n - 0xC0, 1, 0x80, 0xBF)
  else if n = 0xE0 then some (0, 2, 0xA0, 0xBF)
  else if n = 0xED then some (0xD, 2, 0x80, 0x9F)
  else if 0xE1 ≤ n ∧ n ≤ 0xEF then some (n - 0xE0, 2, 0x80, 0xBF)
  else if n = 0xF0 then some (0, 3, 0x90, 0xBF)
  else if 0xF1 ≤ n ∧ n ≤ 0xF3 then some (n - 0xF0, 3, 0x80, 0xBF)
  else if n = 0xF4 then some (4, 3, 0x80, 0x8F)
  else none

/-- A character whose first bytes have been read: the bytes, last first, the bits so far, how many
bytes are still to come, and the least and the greatest of the next. -/
structure Started where
  bytes : Bytes
  bits : Nat
  remaining : Nat
  least : UInt8
  greatest : UInt8

def read : (place : Nat) → Option Started → Bytes → Text × Option Error
  | _, none, [] => ([], none)
  | place, some started, [] =>
    ([], some ⟨.cut, started.bytes.reverse, place - started.bytes.length⟩)
  | place, none, byte :: rest =>
    if byte < 0x80 then
      let (text, error) := read (place + 1) none rest
      (Char.ofNat byte.toNat :: text, error)
    else match lead? byte with
      | none => ([], some ⟨.start, [byte], place⟩)
      | some (bits, remaining, least, greatest) =>
        read (place + 1) (some ⟨[byte], bits, remaining, least, greatest⟩) rest
  | place, some started, byte :: rest =>
    if byte < started.least ∨ started.greatest < byte then
      ([], some ⟨.continuation, started.bytes.reverse, place - started.bytes.length⟩)
    else
      let bits := started.bits * 64 + (byte.toNat - 0x80)
      if started.remaining ≤ 1 then
        let (text, error) := read (place + 1) none rest
        (Char.ofNat bits :: text, error)
      else read (place + 1) (some ⟨byte :: started.bytes, bits, started.remaining - 1, 0x80, 0xBF⟩)
        rest

/-- The text of bytes, up to the first fault. -/
def decode (bytes : Bytes) : Text × Option Error := read 0 none bytes

def faultText : Fault → Text
  | .start => "invalid start byte".toList
  | .continuation => "invalid continuation byte".toList
  | .cut => "unexpected end of data".toList

/-- What is wrong and where, for a reader. Bytes at the end that wait for more are counted by
themselves. -/
def Error.message (error : Error) : Text :=
  let place := if error.fault = .cut then 0 else error.place
  let subject := match error.bytes with
    | [byte] =>
      "byte 0x".toList ++ Text.hex 2 byte.toNat ++ " in position ".toList ++ Text.ofNat place
    | bytes =>
      "bytes in position ".toList ++ Text.ofNat place ++ '-' ::
        Text.ofNat (place + bytes.length - 1)
  "'utf-8' codec can't decode ".toList ++ subject ++ ": ".toList ++ faultText error.fault

end Utf8
end RecordSearch
