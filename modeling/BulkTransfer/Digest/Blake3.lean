import BulkTransfer.Text.Hex
/-!
# BLAKE3

The BLAKE3 hash of a byte string. The input is cut into chunks of 1024 bytes, each chunk is
compressed block by block, and the chunks are the leaves of a binary tree whose left part is always
full.
-/
namespace BulkTransfer.Blake3

/-- Eight words that stand for a chunk or for a subtree. -/
abbrev Chain := Vector UInt32 8

abbrev Words := Vector UInt32 16

def initial : Chain :=
  #v[0x6A09E667, 0xBB67AE85, 0x3C6EF372, 0xA54FF53A, 0x510E527F, 0x9B05688C, 0x1F83D9AB,
    0x5BE0CD19]

def permutation : Vector (Fin 16) 16 := #v[2, 6, 3, 10, 7, 0, 4, 13, 1, 11, 12, 5, 9, 14, 15, 8]

def chunkStart : UInt32 := 1
def chunkEnd : UInt32 := 2
def parentFlag : UInt32 := 4
def rootFlag : UInt32 := 8

def rotateRight (w : UInt32) (n : UInt32) : UInt32 := (w >>> n) ||| (w <<< (32 - n))

/-- Mixes two message words into a column or a diagonal of the state. -/
def quarter (v : Words) (a b c d : Fin 16) (x y : UInt32) : Words :=
  let wa := v[a] + v[b] + x
  let wd := rotateRight (v[d] ^^^ wa) 16
  let wc := v[c] + wd
  let wb := rotateRight (v[b] ^^^ wc) 12
  let wa := wa + wb + y
  let wd := rotateRight (wd ^^^ wa) 8
  let wc := wc + wd
  let wb := rotateRight (wb ^^^ wc) 7
  (((v.set a wa).set b wb).set c wc).set d wd

def round (v m : Words) : Words :=
  let v := quarter v 0 4 8 12 m[0] m[1]
  let v := quarter v 1 5 9 13 m[2] m[3]
  let v := quarter v 2 6 10 14 m[4] m[5]
  let v := quarter v 3 7 11 15 m[6] m[7]
  let v := quarter v 0 5 10 15 m[8] m[9]
  let v := quarter v 1 6 11 12 m[10] m[11]
  let v := quarter v 2 7 8 13 m[12] m[13]
  quarter v 3 4 9 14 m[14] m[15]

def permute (m : Words) : Words := permutation.map fun i => m[i]

def rounds : Nat → Words → Words → Words
  | 0, v, _ => v
  | n + 1, v, m => rounds n (round v m) (permute m)

/-- The new chain after one block. -/
def compress (chain : Chain) (block : Words) (counter : Nat) (length : Nat) (flags : UInt32) :
    Chain :=
  let start : Words := #v[chain[0], chain[1], chain[2], chain[3], chain[4], chain[5], chain[6],
    chain[7], initial[0], initial[1], initial[2], initial[3], UInt32.ofNat counter,
    UInt32.ofNat (counter >>> 32), UInt32.ofNat length, flags]
  let final := rounds 7 start block
  Vector.ofFn fun (i : Fin 8) => final[i.castAdd 8] ^^^ final[i.natAdd 8]

def wordAt (bytes : Array UInt8) (start : Nat) : UInt32 :=
  let byte (i : Nat) : UInt32 := (bytes.getD (start + i) 0).toUInt32
  byte 0 ||| (byte 1 <<< 8) ||| (byte 2 <<< 16) ||| (byte 3 <<< 24)

/-- The words of a block, filled up with zeros. -/
def blockWords (bytes : List UInt8) : Words :=
  let bytes := bytes.toArray
  Vector.ofFn fun (i : Fin 16) => wordAt bytes (4 * i)

/-- Compresses the rest of a chunk; `extra` goes with the last block. -/
def chunkFrom (counter : Nat) (extra : UInt32) (chain : Chain) (flags : UInt32)
    (bytes : List UInt8) : Chain :=
  if bytes.length ≤ 64 then
    compress chain (blockWords bytes) counter bytes.length (flags ||| chunkEnd ||| extra)
  else
    chunkFrom counter extra (compress chain (blockWords (bytes.take 64)) counter 64 flags) 0
      (bytes.drop 64)
termination_by bytes.length
decreasing_by simp only [List.length_drop]; omega

def chunk (counter : Nat) (extra : UInt32) (bytes : List UInt8) : Chain :=
  chunkFrom counter extra initial chunkStart bytes

/-- The number of chunks on the left: the largest power of two that leaves something on the
right. -/
def leftChunks (length : Nat) : Nat := 1 <<< ((length - 1) / 1024).log2

/-- A subtree whose first chunk has the number `counter`. Halving bounds the depth by `fuel`. -/
def subtree : Nat → Nat → UInt32 → List UInt8 → Chain
  | 0, counter, extra, bytes => chunk counter extra bytes
  | fuel + 1, counter, extra, bytes =>
    if bytes.length ≤ 1024 then chunk counter extra bytes
    else
      let count := leftChunks bytes.length
      let left := subtree fuel counter 0 (bytes.take (1024 * count))
      let right := subtree fuel (counter + count) 0 (bytes.drop (1024 * count))
      compress initial (left ++ right) 0 64 (parentFlag ||| extra)

/-- The first 32 bytes of the hash, as words. -/
def hash (bytes : List UInt8) : Chain := subtree bytes.length 0 rootFlag bytes

def wordBytes (w : UInt32) : List UInt8 :=
  [w, w >>> 8, w >>> 16, w >>> 24].map UInt32.toUInt8

/-- The hash in hexadecimal. -/
def hex (bytes : List UInt8) : String := Hex.write ((hash bytes).toList.flatMap wordBytes)

end BulkTransfer.Blake3
