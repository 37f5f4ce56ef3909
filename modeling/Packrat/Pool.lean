import Packrat.Machine.State

/-!
# Buffer pools

The storage of one parse can be kept for the next one. A pool holds idle buffers, the ones
returned last being taken first, and never more of them than its capacity.

* `Buffers`: the storage of one parse that outlives it.
* `Pool.acquire`, `Pool.release`: taking buffers out and giving them back, emptied.
-/

namespace Packrat

/-- The storage of one parse that outlives it. -/
structure Buffers where
  /-- The outcomes remembered. -/
  memo : MemoTable

namespace Buffers

/-- Buffers that hold nothing. -/
def empty : Buffers := ⟨∅⟩

/-- How many outcomes the buffers hold. -/
def memoSize (b : Buffers) : Nat :=
  b.memo.size

/-- What a parse leaves behind. -/
def ofState (state : ParseState) : Buffers :=
  ⟨state.book.memo⟩

end Buffers

/-- Idle buffers. -/
structure Pool where
  /-- How many idle buffers are kept at most. -/
  capacity : Nat
  /-- The idle buffers, those given back last in front. -/
  free : List Buffers
  /-- There are no more of them than the pool may keep. -/
  bounded : free.length ≤ capacity

namespace Pool

/-- The capacity of a pool unless another one is asked for. -/
def standardCapacity : Nat := 16

/-- A pool without idle buffers. -/
def withCapacity (capacity : Nat) : Pool :=
  ⟨capacity, [], Nat.zero_le _⟩

/-- How many buffers are idle. -/
def idle (p : Pool) : Nat :=
  p.free.length

/-- Take idle buffers out, or new ones if none are idle. -/
def acquire (p : Pool) : Buffers × Pool :=
  match p with
  | ⟨capacity, [], bounded⟩ => (.empty, ⟨capacity, [], bounded⟩)
  | ⟨capacity, b :: rest, bounded⟩ => (b, ⟨capacity, rest, Nat.le_of_succ_le bounded⟩)

/-- Give buffers back. They are emptied, and kept if there is room for them. -/
def release (p : Pool) (_ : Buffers) : Pool :=
  if room : p.free.length < p.capacity then ⟨p.capacity, .empty :: p.free, room⟩ else p

end Pool

end Packrat
