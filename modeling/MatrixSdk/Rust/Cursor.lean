import MatrixSdk.Rust.Bytes

/-!
# Reading a byte buffer through `std::io::Cursor`

The key export decoder does not index its payload: it wraps the decoded bytes in
a `std::io::Cursor` and reads the fixed-width fields with `read_exact` and the
`byteorder` extensions, then seeks to 32 bytes before the end for the MAC. How
far each read gets, and which error it ends with, is what decides the decoder's
answer on a short payload, so the cursor is modelled with its position and its
errors: code on a cursor is a `StateT Cursor (Except IoError)` computation.

A cursor never changes its buffer, only its position; so `into_inner` gives
back the buffer the cursor was made from, and the model of the decoder simply
keeps using that buffer.
-/

namespace MatrixSdk

/-- The `std::io::Error`s the code can meet, by their kind; the message each
one carries is given beside it. -/
inductive IoError where
  /-- `read_exact` ran out of bytes: "failed to fill whole buffer". -/
  | unexpectedEof
  /-- `seek` to a negative position: "invalid seek to a negative or overflowing
  position". -/
  | invalidInput
  /-- `read_to_string` on bytes that are not UTF-8: "stream did not contain
  valid UTF-8". -/
  | invalidData
deriving DecidableEq, Repr

/-- `std::io::SeekFrom`: where a seek counts its offset from. The decoder only seeks
from the end, and the other two variants, `Start` and `Current`, are left out. -/
inductive SeekFrom where
  /-- From the end of the buffer. -/
  | fromEnd (n : Int)
deriving DecidableEq, Repr

/-- `std::io::Cursor<Vec<u8>>`: a buffer and a position in it, which may be past
the end. -/
structure Cursor where
  /-- The buffer read from. -/
  inner : List UInt8
  /-- The position of the next read. -/
  pos : Nat
deriving DecidableEq, Repr

namespace Cursor

/-- `Cursor::new`: a cursor at the start of the buffer. -/
def new (inner : List UInt8) : Cursor := ⟨inner, 0⟩

/-- Code running on a cursor, which may fail with an I/O error. -/
abbrev M := StateT Cursor (Except IoError)

/-- `Read::read_exact` for `n` bytes: the next `n` bytes, or `UnexpectedEof`
when fewer are left. -/
def readExact (n : Nat) : M (List UInt8) := fun c =>
  if n ≤ c.inner.length - c.pos then
    .ok ((c.inner.drop c.pos).take n, { c with pos := c.pos + n })
  else
    .error .unexpectedEof

/-- `ReadBytesExt::read_u8`: `read_exact` into a one-byte buffer. -/
def readU8 : M UInt8 := do
  let buf ← readExact 1
  return buf.headD 0

/-- `ReadBytesExt::read_u32::<BigEndian>`: `read_exact` into a four-byte
buffer, read big-endian. -/
def readU32BigEndian : M UInt32 := do
  let buf ← readExact 4
  return UInt32.ofNat (fromBeBytes buf)

/-- The move of `Seek::seek` to the absolute position `p`, refused when it is
negative. -/
def seekTo (p : Int) : M Nat := fun c =>
  if 0 ≤ p then .ok (p.toNat, { c with pos := p.toNat }) else .error .invalidInput

/-- `Seek::seek`: the new position, counted from the start. -/
def seek : SeekFrom → M Nat
  | .fromEnd n => fun c => seekTo (c.inner.length + n) c

/-- `Cursor::position`. -/
def position : M Nat := fun c => .ok (c.pos, c)

end Cursor

end MatrixSdk
