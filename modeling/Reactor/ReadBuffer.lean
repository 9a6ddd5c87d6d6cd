/-!
# Read buffers

The buffer that reads of one handle land in. While a part of it is lent to listeners it is
exposed, and nothing may write into it. Only the front that has ever been written is
stored; the rest holds zeros.
-/

namespace Reactor

/-- A buffer of `size` bytes, of which `front` are the first ones. -/
structure ReadBuffer where
  size : Nat
  front : List UInt8 := []
  exposed : Bool := false
  deriving DecidableEq, Repr

namespace ReadBuffer

/-- A buffer of zeros, which can be had at every size: that memory may run out, or that a size may
be more than memory can address, is left out. -/
def ofSize (size : Nat) : ReadBuffer := { size }

/-- The first `n` bytes of the buffer, or all when it is smaller. -/
def view (b : ReadBuffer) (n : Nat) : List UInt8 :=
  let n := min n b.size
  b.front.take n ++ List.replicate (n - b.front.length) 0

/-- The bytes of the buffer. -/
def bytes (b : ReadBuffer) : List UInt8 := b.view b.size

/-- How many bytes of `data` fit at `offset`. -/
def room (b : ReadBuffer) (offset : Nat) (data : List UInt8) : Nat :=
  min data.length (b.size - offset)

/-- The buffer with the bytes that fit replaced from `offset` on. -/
def overwrite (b : ReadBuffer) (offset : Nat) (data : List UInt8) : ReadBuffer :=
  let n := b.room offset data
  if n = 0 then b
  else { b with front := b.view offset ++ data.take n ++ b.front.drop (offset + n) }

/-- Writes `data` at `offset` and tells how many bytes fit. An exposed buffer refuses. -/
def write? (b : ReadBuffer) (offset : Nat) (data : List UInt8) : Option (Nat × ReadBuffer) :=
  if b.exposed then none else some (b.room offset data, b.overwrite offset data)

end ReadBuffer

end Reactor
