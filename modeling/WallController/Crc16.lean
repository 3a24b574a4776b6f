/-
  WallController.Crc16
  ────────────────────────────────
  **THE CRC16-CCITT OF THE FIRMWARE.**

  `u16CRC16_CCITT_Update` occurs three times in the sources, with the same
  body: in the bootloader, in the PC UART hub and in the LittleFS
  controller.  All three are this one definition.  The function is a left
  fold over the bytes, so an update over two consecutive blocks is the update
  over their concatenation; this is the only fact about the CRC that the
  image and file transfers rest on.
-/
import Mathlib.Data.List.Basic

namespace WallController

/-- One pass of the inner loop: shift left, and reduce by `0x1021` when the
top bit was set. -/
def crc16Bit (crc : UInt16) : UInt16 :=
  if crc &&& 0x8000 ≠ 0 then (crc <<< 1) ^^^ 0x1021 else crc <<< 1

/-- The CRC after one more byte. -/
def crc16Byte (crc : UInt16) (data : UInt8) : UInt16 :=
  Nat.repeat crc16Bit 8 (crc ^^^ (data.toUInt16 <<< 8))

/-- `u16CRC16_CCITT_Update(crc, data, len)`. -/
def u16CRC16CCITTUpdate (crc : UInt16) (data : List UInt8) : UInt16 :=
  data.foldl crc16Byte crc

@[simp] theorem u16CRC16CCITTUpdate_nil (crc : UInt16) :
    u16CRC16CCITTUpdate crc [] = crc := rfl

/-- Two consecutive updates are one update over the concatenation. -/
theorem u16CRC16CCITTUpdate_append (crc : UInt16) (xs ys : List UInt8) :
    u16CRC16CCITTUpdate crc (xs ++ ys)
      = u16CRC16CCITTUpdate (u16CRC16CCITTUpdate crc xs) ys :=
  List.foldl_append

/-- The check value of CRC16-CCITT with initial value `0xFFFF`. -/
example : u16CRC16CCITTUpdate 0xFFFF
    [0x31, 0x32, 0x33, 0x34, 0x35, 0x36, 0x37, 0x38, 0x39] = 0x29B1 := by
  decide +kernel

end WallController
