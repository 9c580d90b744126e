import BulkTransfer.Number.Reader
/-!
# Hexadecimal

Bytes as pairs of digits, written in lower case and read in either.
-/
namespace BulkTransfer

def hexDigit (n : Nat) : Char := Char.ofNat (if n < 10 then 48 + n else 87 + n)

namespace Hex

def write (bytes : List UInt8) : String :=
  String.ofList (bytes.flatMap fun b => [hexDigit (b.toNat / 16), hexDigit (b.toNat % 16)])

def readChars : List Char → Option (List UInt8)
  | [] => some []
  | [_] => none
  | a :: b :: rest => do
    let high ← digitValue? 16 a
    let low ← digitValue? 16 b
    return UInt8.ofNat (16 * high + low) :: (← readChars rest)

def read? (text : String) : Option (List UInt8) := readChars text.toList

end Hex

end BulkTransfer
