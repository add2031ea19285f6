/-
UTF-8 decoding. A faulty sequence is named by the bytes that belong to it and the reason.
-/
import CatchAudit.Text.Quoted

namespace CatchAudit.Text

inductive Utf8Reason where
  | invalidStart
  | invalidContinuation
  | unexpectedEnd
  deriving DecidableEq, Repr

def Utf8Reason.message : Utf8Reason → String
  | .invalidStart => "invalid start byte"
  | .invalidContinuation => "invalid continuation byte"
  | .unexpectedEnd => "unexpected end of data"

/-- A sequence of `count` bytes at `start`, the first of them `lead`, that encodes nothing. -/
structure Utf8Fault where
  start : Nat
  count : Nat
  lead : UInt8
  reason : Utf8Reason
  deriving DecidableEq, Repr

def Utf8Fault.message (f : Utf8Fault) : String :=
  let place :=
    if f.count = 1 then
      "byte 0x" ++ String.ofList (hex 2 f.lead.toNat) ++ " in position " ++ toString f.start
    else
      "bytes in position " ++ toString f.start ++ "-" ++ toString (f.start + f.count - 1)
  "'utf-8' codec can't decode " ++ place ++ ": " ++ f.reason.message

/-- The six low bits that a continuation byte carries. -/
def tailBits (b : UInt8) : Nat := b.toNat % 0x40

def isTail (b : UInt8) : Bool := 0x80 ≤ b.toNat && b.toNat < 0xc0

/-- Whether `b` may follow `lead`: overlong forms, surrogates and points past the last are refused
at the second byte. -/
def isSecond (lead b : UInt8) : Bool :=
  isTail b &&
    (match lead.toNat with
    | 0xe0 => 0xa0 ≤ b.toNat
    | 0xed => b.toNat < 0xa0
    | 0xf0 => 0x90 ≤ b.toNat
    | 0xf4 => b.toNat < 0x90
    | _ => true)

/-- Decodes the bytes from position `pos` on. -/
def decodeFrom (pos : Nat) : List UInt8 → Except Utf8Fault (List Char)
  | [] => .ok []
  | a :: rest =>
    let fault (count : Nat) (reason : Utf8Reason) : Except Utf8Fault (List Char) :=
      .error ⟨pos, count, a, reason⟩
    if a.toNat < 0x80 then
      return Char.ofNat a.toNat :: (← decodeFrom (pos + 1) rest)
    else if a.toNat < 0xc2 then fault 1 .invalidStart
    else if a.toNat < 0xe0 then
      match rest with
      | [] => fault 1 .unexpectedEnd
      | b :: rest =>
        if !isTail b then fault 1 .invalidContinuation
        else
          return Char.ofNat (a.toNat % 0x20 * 0x40 + tailBits b) :: (← decodeFrom (pos + 2) rest)
    else if a.toNat < 0xf0 then
      match rest with
      | [] => fault 1 .unexpectedEnd
      | b :: rest =>
        if !isSecond a b then fault 1 .invalidContinuation
        else match rest with
          | [] => fault 2 .unexpectedEnd
          | c :: rest =>
            if !isTail c then fault 2 .invalidContinuation
            else
              let n := (a.toNat % 0x10 * 0x40 + tailBits b) * 0x40 + tailBits c
              return Char.ofNat n :: (← decodeFrom (pos + 3) rest)
    else if a.toNat < 0xf5 then
      match rest with
      | [] => fault 1 .unexpectedEnd
      | b :: rest =>
        if !isSecond a b then fault 1 .invalidContinuation
        else match rest with
          | [] => fault 2 .unexpectedEnd
          | c :: rest =>
            if !isTail c then fault 2 .invalidContinuation
            else match rest with
              | [] => fault 3 .unexpectedEnd
              | d :: rest =>
                if !isTail d then fault 3 .invalidContinuation
                else
                  let n := ((a.toNat % 0x8 * 0x40 + tailBits b) * 0x40 + tailBits c) * 0x40 + tailBits d
                  return Char.ofNat n :: (← decodeFrom (pos + 4) rest)
    else fault 1 .invalidStart

/-- Decodes UTF-8. -/
def decodeUtf8 (bytes : List UInt8) : Except Utf8Fault (List Char) := decodeFrom 0 bytes

/-- Encodes UTF-8. -/
def encodeUtf8 (cs : List Char) : List UInt8 := cs.flatMap String.utf8EncodeChar

end CatchAudit.Text
