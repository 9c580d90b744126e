/-!
# UTF-8

Bytes read as UTF-8, with the place and the extent of the first fault, and text written as bytes.
-/
namespace BulkTransfer

abbrev Bytes := List UInt8

/-- The text before `validUpTo` is good. The fault there is a sequence of `extent` bytes that no
continuation mends, or, without an extent, a sequence cut off by the end of the input. -/
structure Utf8Fault where
  validUpTo : Nat
  extent : Option Nat
  deriving DecidableEq, Repr

def Utf8Fault.message (fault : Utf8Fault) : String :=
  match fault.extent with
  | some n =>
    "invalid utf-8 sequence of " ++ toString n ++ " bytes from index " ++ toString fault.validUpTo
  | none => "incomplete utf-8 byte sequence from index " ++ toString fault.validUpTo

namespace Utf8

def isContinuation (b : UInt8) : Bool := 0x80 ≤ b && b ≤ 0xBF

/-- The second bytes that may follow a lead byte: this excludes overlong forms, surrogates and
what lies beyond the last code point. -/
def secondRange (lead : UInt8) : UInt8 × UInt8 :=
  if lead = 0xE0 then (0xA0, 0xBF)
  else if lead = 0xED then (0x80, 0x9F)
  else if lead = 0xF0 then (0x90, 0xBF)
  else if lead = 0xF4 then (0x80, 0x8F)
  else (0x80, 0xBF)

def payload (b : UInt8) : Nat := (b &&& 0x3F).toNat

/-- What stands at the head of a byte list: a character with the bytes it takes, or the extent of
a fault. -/
inductive Head where
  | char (c : Char) (size : Nat)
  | bad (extent : Option Nat)

def head (lead : UInt8) (rest : Bytes) : Head :=
  let (low, high) := secondRange lead
  if lead < 0x80 then .char (Char.ofNat lead.toNat) 1
  else if lead < 0xC2 then .bad (some 1)
  else match rest with
    | [] => .bad (if lead ≤ 0xF4 then none else some 1)
    | second :: rest =>
      if lead > 0xF4 || second < low || second > high then .bad (some 1)
      else if lead < 0xE0 then
        .char (Char.ofNat ((lead &&& 0x1F).toNat * 64 + payload second)) 2
      else match rest with
        | [] => .bad none
        | third :: rest =>
          if !isContinuation third then .bad (some 2)
          else if lead < 0xF0 then
            .char (Char.ofNat
              ((lead &&& 0x0F).toNat * 4096 + payload second * 64 + payload third)) 3
          else match rest with
            | [] => .bad none
            | fourth :: _ =>
              if !isContinuation fourth then .bad (some 3)
              else .char (Char.ofNat ((lead &&& 0x07).toNat * 262144 + payload second * 4096 +
                payload third * 64 + payload fourth)) 4

/-- Reads on from byte `at_`; `skip` bytes belong to the character already read. -/
def decodeFrom : Bytes → Nat → Nat → List Char → Except Utf8Fault (List Char)
  | [], _, _, acc => .ok acc.reverse
  | _ :: rest, at_, skip + 1, acc => decodeFrom rest (at_ + 1) skip acc
  | lead :: rest, at_, 0, acc =>
    match head lead rest with
    | .char c size => decodeFrom rest (at_ + 1) (size - 1) (c :: acc)
    | .bad extent => .error ⟨at_, extent⟩

def decode (bytes : Bytes) : Except Utf8Fault String :=
  (decodeFrom bytes 0 0 []).map String.ofList

def encode (text : String) : Bytes := text.toUTF8.data.toList

end Utf8

end BulkTransfer
