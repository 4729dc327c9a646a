import TypeScaffold.Text.Hex

/-!
# UTF-8

Decoding octet by octet. `decode` gives the text, or the fault at the first octet that rules the
text out; a fault names the octets that belong to the broken character.
-/

namespace TypeScaffold.Text.Utf8

/-- The number of octets that a text takes. -/
def size (chars : List Char) : Nat :=
  chars.foldr (fun char total => char.utf8Size + total) 0

/-- Why octets are not UTF-8. -/
inductive Cause where
  /-- The octet begins no character. -/
  | invalidStart
  /-- An octet that the character needs next is out of its range. -/
  | invalidContinuation
  /-- The text ends inside a character. -/
  | unexpectedEnd
  deriving DecidableEq, Repr

/-- A broken character: its first octet, where that stands, and how many octets belong to it. -/
structure Fault where
  cause : Cause
  octet : UInt8
  position : Nat
  length : Nat
  deriving DecidableEq, Repr

def Cause.message : Cause → String
  | .invalidStart => "invalid start byte"
  | .invalidContinuation => "invalid continuation byte"
  | .unexpectedEnd => "unexpected end of data"

/-- The wording of a fault: one octet is shown, of several only their positions. -/
def Fault.message (fault : Fault) : String :=
  "'utf-8' codec can't decode " ++
    (if fault.length = 1 then
      "byte 0x" ++ String.ofList (hexDigits 2 fault.octet.toNat) ++ " in position " ++
        toString fault.position
    else
      "bytes in position " ++ toString fault.position ++ "-" ++
        toString (fault.position + fault.length - 1)) ++
    ": " ++ fault.cause.message

/-- A character that has begun: its first octet and position, the octets seen, the octets owed, the
least and the greatest octet that may come next, and the value so far. -/
structure Pending where
  octet : UInt8
  position : Nat
  seen : Nat
  owed : Nat
  low : Nat
  high : Nat
  value : Nat
  deriving DecidableEq, Repr

/-- The fault of a character that cannot be completed. -/
def Pending.fault (pending : Pending) (cause : Cause) : Fault :=
  ⟨cause, pending.octet, pending.position, pending.seen⟩

/-- The character that an octet from U+0080 on begins. The second octet of some is limited further,
which rules out long forms, surrogates and values above U+10FFFF. -/
def begin? (octet : UInt8) (position : Nat) : Option Pending :=
  let code := octet.toNat
  if 0xC2 ≤ code ∧ code ≤ 0xDF then
    some ⟨octet, position, 1, 1, 0x80, 0xBF, code - 0xC0⟩
  else if 0xE0 ≤ code ∧ code ≤ 0xEF then
    some ⟨octet, position, 1, 2, if code = 0xE0 then 0xA0 else 0x80,
      if code = 0xED then 0x9F else 0xBF, code - 0xE0⟩
  else if 0xF0 ≤ code ∧ code ≤ 0xF4 then
    some ⟨octet, position, 1, 3, if code = 0xF0 then 0x90 else 0x80,
      if code = 0xF4 then 0x8F else 0xBF, code - 0xF0⟩
  else
    none

/-- Decode from a position, inside the pending character if there is one. -/
def decodeFrom (position : Nat) : Option Pending → List UInt8 → Except Fault (List Char)
  | none, [] => .ok []
  | some pending, [] => .error (pending.fault .unexpectedEnd)
  | none, octet :: rest =>
      if octet.toNat < 0x80 then
        (decodeFrom (position + 1) none rest).map (Char.ofNat octet.toNat :: ·)
      else
        match begin? octet position with
        | none => .error ⟨.invalidStart, octet, position, 1⟩
        | some pending => decodeFrom (position + 1) (some pending) rest
  | some pending, octet :: rest =>
      if octet.toNat < pending.low ∨ pending.high < octet.toNat then
        .error (pending.fault .invalidContinuation)
      else
        let value := pending.value * 64 + (octet.toNat - 0x80)
        if pending.owed ≤ 1 then
          (decodeFrom (position + 1) none rest).map (Char.ofNat value :: ·)
        else
          decodeFrom (position + 1)
            (some ⟨pending.octet, pending.position, pending.seen + 1, pending.owed - 1, 0x80, 0xBF,
              value⟩) rest

def decode (octets : List UInt8) : Except Fault String :=
  (decodeFrom 0 none octets).map String.ofList

end TypeScaffold.Text.Utf8
