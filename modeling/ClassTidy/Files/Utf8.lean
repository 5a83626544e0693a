import ClassTidy.Text.Quoted

/-! UTF-8, and the text of a file. -/

namespace ClassTidy.Utf8

abbrev Bytes := List UInt8

def encodeChar (c : Char) : Bytes :=
  let n := c.toNat
  if n < 0x80 then [n.toUInt8]
  else if n < 0x800 then [(0xc0 + n / 0x40).toUInt8, (0x80 + n % 0x40).toUInt8]
  else if n < 0x10000 then
    [(0xe0 + n / 0x1000).toUInt8, (0x80 + n / 0x40 % 0x40).toUInt8, (0x80 + n % 0x40).toUInt8]
  else
    [(0xf0 + n / 0x40000).toUInt8, (0x80 + n / 0x1000 % 0x40).toUInt8,
     (0x80 + n / 0x40 % 0x40).toUInt8, (0x80 + n % 0x40).toUInt8]

def encode (t : Text) : Bytes := t.flatMap encodeChar

inductive Reason
  | invalidStart
  | invalidContinuation
  | unexpectedEnd
deriving DecidableEq, Repr

def Reason.message : Reason → String
  | invalidStart => "invalid start byte"
  | invalidContinuation => "invalid continuation byte"
  | unexpectedEnd => "unexpected end of data"

structure DecodeError where
  start : Nat
  bytes : Bytes
  reason : Reason
deriving DecidableEq, Repr

def DecodeError.message (e : DecodeError) : String :=
  let place := match e.bytes with
    | [b] =>
      "byte 0x" ++ String.ofList (Text.hexDigits 2 b.toNat) ++ " in position " ++ toString e.start
    | bytes =>
      "bytes in position " ++ toString e.start ++ "-" ++ toString (e.start + bytes.length - 1)
  "'utf-8' codec can't decode " ++ place ++ ": " ++ e.reason.message

/-- What a first byte says: the bits it gives, the number of further bytes, and the least and greatest
second byte. -/
structure Lead where
  bits : Nat
  more : Nat
  least : Nat
  greatest : Nat

def lead? (b : Nat) : Option Lead :=
  if b < 0x80 then some ⟨b, 0, 0x80, 0xbf⟩
  else if b < 0xc2 then none
  else if b < 0xe0 then some ⟨b - 0xc0, 1, 0x80, 0xbf⟩
  else if b < 0xf0 then
    some ⟨b - 0xe0, 2, if b = 0xe0 then 0xa0 else 0x80, if b = 0xed then 0x9f else 0xbf⟩
  else if b < 0xf5 then
    some ⟨b - 0xf0, 3, if b = 0xf0 then 0x90 else 0x80, if b = 0xf4 then 0x8f else 0xbf⟩
  else none

def takeMore : (more least greatest code good : Nat) → Bytes → Except (Nat × Reason) (Nat × Bytes)
  | 0, _, _, code, _, rest => .ok (code, rest)
  | _ + 1, _, _, _, good, [] => .error (good, .unexpectedEnd)
  | more + 1, least, greatest, code, good, b :: rest =>
    if least ≤ b.toNat ∧ b.toNat ≤ greatest then
      takeMore more 0x80 0xbf (code * 0x40 + (b.toNat - 0x80)) (good + 1) rest
    else .error (good, .invalidContinuation)

-- Reads bytes from an offset on. The bound is the number of bytes.
def decodeFrom : (bound offset : Nat) → Bytes → Except DecodeError Text
  | _, _, [] => .ok []
  | 0, offset, b :: _ => .error ⟨offset, [b], .unexpectedEnd⟩
  | bound + 1, offset, b :: rest =>
    match lead? b.toNat with
    | none => .error ⟨offset, [b], .invalidStart⟩
    | some lead =>
      match takeMore lead.more lead.least lead.greatest lead.bits 1 rest with
      | .error (good, reason) => .error ⟨offset, (b :: rest).take good, reason⟩
      | .ok (code, rest') =>
        (decodeFrom bound (offset + 1 + lead.more) rest').map (Char.ofNat code :: ·)

def decode (bytes : Bytes) : Except DecodeError Text := decodeFrom bytes.length 0 bytes

def unifyLineEnds : Text → Text
  | [] => []
  | '\r' :: '\n' :: t => '\n' :: unifyLineEnds t
  | '\r' :: t => '\n' :: unifyLineEnds t
  | c :: t => c :: unifyLineEnds t

def readText (bytes : Bytes) : Except DecodeError Text := (decode bytes).map unifyLineEnds

end ClassTidy.Utf8
