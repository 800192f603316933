import Mathlib.Data.List.Basic
import Fluoride.Lib.Overwrite

/-!
# The stack's buffer, `BT_HDR` (`bt_hdr.h`)

A `BT_HDR` is a header followed by a data area: the message it carries is the `len` bytes of
the data area from `offset` on. A layer that adds its header moves `offset` back and writes the
header there (`BtHdr.prepend`); a layer that strips one moves `offset` forward (`BtHdr.msg_skip`);
a trailer is written after the message and counted in `len` (`BtHdr.msg_write`). The bytes that
`osi_malloc` leaves unwritten are zeros here; nothing reads them.

The sizes the layers compare a buffer with: `sizeof(BT_HDR)`, the default buffer size, and the
room L2CAP keeps in front of its payload.
-/

namespace Stack

/-- `L2CAP_MIN_OFFSET`: the room in front of a payload for the L2CAP headers. -/
def l2capMinOffset : Nat := 13

/-- `sizeof(BT_HDR)`: four `uint16_t` fields before the data. -/
def btHdrSize : Nat := 8

/-- `BT_DEFAULT_BUFFER_SIZE`. -/
def btDefaultBufferSize : Nat := 4096 + 16

/-- A `BT_HDR`: the message is the `len` bytes of the data area `data` from `offset` on. -/
structure BtHdr where
  offset : Nat
  len : Nat
  data : List UInt8
  deriving DecidableEq, Repr

/-- The bytes of the message a buffer holds. -/
def BtHdr.msg (b : BtHdr) : List UInt8 := (b.data.drop b.offset).take b.len

/-- A buffer with a header written in front of its data. -/
def BtHdr.prepend (b : BtHdr) (hdr : List UInt8) : BtHdr :=
  ⟨b.offset - hdr.length, b.len + hdr.length,
    b.data.take (b.offset - hdr.length) ++ hdr ++ b.data.drop b.offset⟩

/-- A header written in front of a buffer, with room for it before the offset, is read back in
front of the buffer's message. -/
theorem BtHdr.msg_prepend {b : BtHdr} {hdr : List UInt8} (room : hdr.length ≤ b.offset)
    (held : b.offset + b.len ≤ b.data.length) : (b.prepend hdr).msg = hdr ++ b.msg := by
  have prefix_len : (b.data.take (b.offset - hdr.length)).length = b.offset - hdr.length := by
    rw [List.length_take]
    omega
  simp only [BtHdr.msg, BtHdr.prepend, List.append_assoc]
  rw [List.drop_left' prefix_len, List.take_append, List.take_of_length_le (by omega)]
  simp

/-- A header written in front of the offset leaves the data area as long as it was. -/
theorem BtHdr.length_prepend_data {b : BtHdr} {hdr : List UInt8} (room : hdr.length ≤ b.offset)
    (held : b.offset ≤ b.data.length) : (b.prepend hdr).data.length = b.data.length := by
  simp only [BtHdr.prepend, List.length_append, List.length_take, List.length_drop]
  omega

/-- The byte at a buffer's offset is its message's first. -/
theorem BtHdr.getD_offset {b : BtHdr} (nonempty : 0 < b.len) :
    b.data.getD b.offset 0 = b.msg.headD 0 := by
  simp [BtHdr.msg, List.getD_eq_getElem?_getD, List.headD_eq_head?_getD, List.head?_take,
    Nat.pos_iff_ne_zero.1 nonempty]

/-- A buffer's message is what stands after its first `offset` bytes, `len` of them. -/
theorem BtHdr.msg_eq {k n : Nat} {data : List UInt8} (Z M : List UInt8)
    (hdata : Z ++ M <+: data) (hZ : Z.length = k) (hM : M.length = n) :
    (⟨k, n, data⟩ : BtHdr).msg = M := by
  obtain ⟨rest, rfl⟩ := hdata
  rw [BtHdr.msg, List.append_assoc, ← hZ, List.drop_left, ← hM, List.take_left]

/-- A message lies in the data area: it has `len` bytes. -/
theorem BtHdr.length_msg {b : BtHdr} (held : b.offset + b.len ≤ b.data.length) :
    b.msg.length = b.len := by
  rw [BtHdr.msg, List.length_take, List.length_drop]
  omega

/-- Moving the offset `k` bytes into the message leaves the message from there on. -/
theorem BtHdr.msg_skip (b : BtHdr) {k m : Nat} (within : k + m ≤ b.len) :
    (⟨b.offset + k, m, b.data⟩ : BtHdr).msg = (b.msg.drop k).take m := by
  rw [BtHdr.msg, BtHdr.msg, List.drop_take, List.take_take, List.drop_drop,
    Nat.min_eq_left (by omega)]

/-- A trailer written right after a buffer's message, with room for it in the data area, is read
back after the message once the length counts it. -/
theorem BtHdr.msg_write {b : BtHdr} {trailer : List UInt8}
    (room : b.offset + b.len + trailer.length ≤ b.data.length) :
    (⟨b.offset, b.len + trailer.length, Overwrite.write b.data (b.offset + b.len) trailer⟩ :
      BtHdr).msg = b.msg ++ trailer := by
  apply BtHdr.msg_eq (b.data.take b.offset) (b.msg ++ trailer)
  · -- the data area up to the trailer's end is the bytes before the message, the message, and
    -- the trailer
    refine ⟨b.data.drop (b.offset + b.len + trailer.length), ?_⟩
    rw [Overwrite.write, List.take_add, BtHdr.msg]
    simp only [List.append_assoc]
  · rw [List.length_take]
    omega
  · rw [List.length_append, BtHdr.length_msg (by omega)]

end Stack
