/-!
# A short digest

FNV-1a in 64 bits, for telling long contents apart.
-/
namespace BulkTransfer.Fnv

def basis : UInt64 := 0xcbf29ce484222325

def prime : UInt64 := 0x100000001b3

def hash (bytes : List UInt8) : UInt64 :=
  bytes.foldl (fun h b => (h ^^^ b.toUInt64) * prime) basis

end BulkTransfer.Fnv
