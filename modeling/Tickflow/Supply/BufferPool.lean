/-!
A pool of byte buffers. A buffer is lent with the length that was asked for and only zeros in it;
when it comes back it is kept for the next borrower as it is, up to a fixed number of buffers. A
frozen buffer keeps its memory for itself.
-/
namespace Tickflow

/-- A growable array of bytes: what it holds, and how much it has memory for. Blocks are numbered in
the order in which they were made. -/
structure Block where
  number : Nat
  capacity : Nat
  bytes : List UInt8
  deriving DecidableEq, Repr

namespace Block

def empty (number capacity : Nat) : Block := ⟨number, capacity, []⟩

def cleared (b : Block) : Block := { b with bytes := [] }

/-- The block with memory for `length` bytes: when it has too little, it grows at least to twice its
size and to eight. -/
def grown (length : Nat) (b : Block) : Block :=
  if length ≤ b.capacity then b else { b with capacity := max (max (2 * b.capacity) length) 8 }

def resized (length : Nat) (b : Block) : Block :=
  { b.grown length with
    bytes := b.bytes.take length ++ List.replicate (length - b.bytes.length) 0 }

end Block

structure Lease where
  block : Block
  deriving DecidableEq, Repr

structure BufferPool where
  maxRetained : Nat
  idle : List Block
  blocks : Nat
  acquired : Nat
  reused : Nat
  inUse : Nat
  deriving DecidableEq, Repr

namespace Lease

def bytes (l : Lease) : List UInt8 := l.block.bytes

def holding (bytes : List UInt8) (l : Lease) : Lease := ⟨{ l.block with bytes }⟩

def filled (byte : UInt8) (l : Lease) : Lease := l.holding (List.replicate l.bytes.length byte)

def overwritten? (bytes : List UInt8) (l : Lease) : Option Lease :=
  if bytes.length ≤ l.bytes.length then some (l.holding (bytes ++ l.bytes.drop bytes.length))
  else none

end Lease

namespace BufferPool

def make (maxRetained : Nat) : BufferPool := ⟨maxRetained, [], 0, 0, 0, 0⟩

def available (p : BufferPool) : Nat := p.idle.length

/-- Takes out the block at `i`; the last block moves into its place. -/
def swapOut (idle : List Block) (i : Nat) : List Block :=
  match idle.getLast? with
  | some last => (idle.set i last).dropLast
  | none => []

/-- The first idle block that is large enough, otherwise the last one. -/
def chosen (idle : List Block) (length : Nat) : Nat :=
  (idle.findIdx? fun b => decide (length ≤ b.capacity)).getD (idle.length - 1)

/-- Lends an idle block, or a new one when none is idle, emptied and then brought to its length. -/
def acquire (length : Nat) (p : BufferPool) : Lease × BufferPool :=
  let i := chosen p.idle length
  match p.idle[i]? with
  | some block =>
    (⟨block.cleared.resized length⟩,
      { p with
        idle := swapOut p.idle i, acquired := p.acquired + 1, reused := p.reused + 1
        inUse := p.inUse + 1 })
  | none =>
    (⟨(Block.empty p.blocks length).cleared.resized length⟩,
      { p with blocks := p.blocks + 1, acquired := p.acquired + 1, inUse := p.inUse + 1 })

def release (lease : Lease) (p : BufferPool) : BufferPool :=
  { p with
    inUse := p.inUse - 1
    idle := if p.idle.length < p.maxRetained then p.idle ++ [lease.block] else p.idle }

/-- Turns a buffer into bytes that nobody will change. Its memory does not come back. -/
def freeze (lease : Lease) (p : BufferPool) : List UInt8 × BufferPool :=
  (lease.bytes, { p with inUse := p.inUse - 1 })

def clearUnused (p : BufferPool) : BufferPool := { p with idle := [] }

def inspected (p : BufferPool) : String :=
  s!"BufferPool \x7b max_retained: {p.maxRetained}, in_use: {p.inUse}, " ++
    s!"available: {p.available} \x7d"

end BufferPool

end Tickflow
