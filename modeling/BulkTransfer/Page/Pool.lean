/-!
# Page buffers

A pool of page-sized buffers that the tasks of a session share. It counts the buffers that are out
and keeps released ones for reuse, the last one released first. A released buffer is kept when its
capacity is between one and two pages and the pool is not full.
-/
namespace BulkTransfer

def defaultPageSize : Nat := 32 * 1024

def defaultMaxPooled : Nat := 64

/-- The least page size; smaller wishes are raised to it. -/
def leastPageSize : Nat := 64

/-- A buffer by its number. Its content belongs to whoever holds it. -/
structure Buffer where
  number : Nat
  capacity : Nat
  deriving DecidableEq, Repr, Inhabited

structure Pool where
  pageSize : Nat
  maxPooled : Nat
  free : List Buffer
  outstanding : Nat
  allocated : Nat
  deriving DecidableEq, Repr, Inhabited

namespace Pool

def withMaxPooled (pageSize maxPooled : Nat) : Pool :=
  ⟨max pageSize leastPageSize, maxPooled, [], 0, 0⟩

def ofPageSize (pageSize : Nat) : Pool := withMaxPooled pageSize defaultMaxPooled

def pooled (p : Pool) : Nat := p.free.length

def allocate (p : Pool) (capacity : Nat) : Buffer × Pool :=
  (⟨p.allocated, capacity⟩,
    { p with outstanding := p.outstanding + 1, allocated := p.allocated + 1 })

/-- A buffer of at least the wished capacity. A wish beyond the page size is a buffer of its
own. -/
def acquire (p : Pool) (wished : Nat) : Buffer × Pool :=
  if wished ≤ p.pageSize then
    match p.free with
    | buffer :: rest => (buffer, { p with free := rest, outstanding := p.outstanding + 1 })
    | [] => p.allocate p.pageSize
  else p.allocate wished

def keeps (p : Pool) (buffer : Buffer) : Bool :=
  p.pageSize ≤ buffer.capacity && buffer.capacity ≤ 2 * p.pageSize && p.pooled < p.maxPooled

def release (p : Pool) (buffer : Buffer) : Pool :=
  { p with
    outstanding := p.outstanding - 1
    free := if p.keeps buffer then buffer :: p.free else p.free }

end Pool

end BulkTransfer
