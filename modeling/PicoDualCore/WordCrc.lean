import PicoDualCore.Drivers
import PicoDualCore.FeedbackRegister
import Mathlib.Data.Nat.Bitwise
import Mathlib.Data.List.Basic
set_option autoImplicit false

namespace PicoDualCore.Sht35
open FeedbackRegister

def polynomial : BitVec 8 := BitVec.ofNat 8 CRC_POLYNOMIAL

def byteBits (byte : UInt8) : List Bool := (List.range 8).map byte.toBitVec.getMsbD

def bitsOf (data : Bytes) : List Bool := data.flatMap byteBits

theorem toNat_shift (s : BitVec 8) : (shift polynomial s).toNat =
    if s.toNat &&& 0x80 != 0 then (s.toNat <<< 1 ^^^ CRC_POLYNOMIAL) &&& 0xFF
    else s.toNat <<< 1 &&& 0xFF := by
  have hmsb : (s.toNat &&& 0x80 != 0) = s.msb := by
    rw [BitVec.msb_eq_getLsbD_last]
    show (s.toNat &&& 2 ^ 7 != 0) = s.toNat.testBit 7
    rw [Nat.and_two_pow]
    cases s.toNat.testBit 7 <;> rfl
  have hbyte : ∀ n, n &&& 0xFF = n % 2 ^ 8 := fun n => Nat.and_two_pow_sub_one_eq_mod n 8
  have hpolynomial : polynomial.toNat = CRC_POLYNOMIAL := rfl
  rw [hmsb, hbyte, hbyte, shift]
  cases s.msb with
  | true =>
    rw [if_pos rfl, if_pos rfl, BitVec.toNat_xor, BitVec.toNat_shiftLeft, hpolynomial,
      Nat.xor_mod_two_pow]
    rfl
  | false => rw [if_neg Bool.false_ne_true, if_neg Bool.false_ne_true, BitVec.toNat_shiftLeft]

theorem crcBits_eq (bits : Nat) (s : BitVec 8) :
    crcBits bits s.toNat = (shifts polynomial bits s).toNat := by
  induction bits generalizing s with
  | zero => rfl
  | succ bits ih => rw [crcBits, shifts, ← ih, toNat_shift]

@[simp] theorem length_byteBits (byte : UInt8) : (byteBits byte).length = 8 := rfl

theorem load_byteBits (byte : UInt8) : load (byteBits byte) = byte.toBitVec := by
  refine BitVec.eq_of_getMsbD_eq (fun i hi => ?_)
  rw [getMsbD_load hi, byteBits, List.getD_eq_getElem _ _ (by simpa using hi)]
  simp

theorem crcBits_byte (s : BitVec 8) (byte : UInt8) :
    crcBits 8 (s.toNat ^^^ byte.toNat) = (run polynomial s (byteBits byte)).toNat := by
  have hload := @run_eq_shifts 8 polynomial s (byteBits byte) (Nat.le_refl 8)
  rw [load_byteBits, length_byteBits] at hload
  rw [hload, ← crcBits_eq, BitVec.toNat_xor]
  rfl

theorem crc8_eq (data : Bytes) :
    crc8 data = (run polynomial (BitVec.ofNat 8 CRC_INITIAL) (bitsOf data)).toNat := by
  have hfold : ∀ s : BitVec 8,
      data.foldl (fun crc byte => crcBits 8 (crc ^^^ byte.toNat)) s.toNat =
        (run polynomial s (bitsOf data)).toNat := by
    induction data with
    | nil => exact fun s => rfl
    | cons byte rest ih =>
      intro s
      rw [List.foldl_cons, crcBits_byte, ih, ← run_append]
      rfl
  exact hfold (BitVec.ofNat 8 CRC_INITIAL)

theorem crc8_lt (data : Bytes) : crc8 data < 256 := by
  rw [crc8_eq]
  exact (run _ _ _).isLt

theorem polynomial_odd : polynomial.getLsbD 0 = true := by decide

/-- The comparison with the checksum byte is one of the whole word with zero. -/
theorem crc8_append_eq_zero (data : Bytes) (checksum : UInt8) :
    crc8 (data ++ [checksum]) = 0 ↔ crc8 data = checksum.toNat := by
  have hlt := crc8_lt data
  have hcrc : crc8 data = (BitVec.ofNat 8 (crc8 data)).toNat :=
    (Nat.mod_eq_of_lt hlt).symm
  have hword : crc8 (data ++ [checksum]) =
      (shifts polynomial 8 (BitVec.ofNat 8 (crc8 data) ^^^ checksum.toBitVec)).toNat := by
    rw [← crcBits_eq, BitVec.toNat_xor, ← hcrc]
    simp [crc8]
  rw [hword]
  constructor
  · intro h
    have hzero := shifts_eq_zero polynomial_odd (BitVec.eq_of_toNat_eq (y := 0) h)
    have hsame := BitVec.xor_eq_zero_iff.mp hzero
    rw [hcrc, hsame]
    rfl
  · intro h
    have hsame : BitVec.ofNat 8 (crc8 data) = checksum.toBitVec := by
      refine BitVec.eq_of_toNat_eq ?_
      rw [← hcrc, h]
      rfl
    rw [hsame, BitVec.xor_self]
    exact congrArg BitVec.toNat (shifts_zero 8)

/-- The word with the bits of the error flipped. -/
def flipped (word error : Bytes) : Bytes := List.zipWith (· ^^^ ·) word error

theorem byteBits_xor (a b : UInt8) :
    byteBits (a ^^^ b) = List.zipWith xor (byteBits a) (byteBits b) := by
  simp [byteBits, List.range_succ]

theorem length_bitsOf (data : Bytes) : (bitsOf data).length = 8 * data.length := by
  induction data with
  | nil => rfl
  | cons byte rest ih =>
    rw [bitsOf, List.flatMap_cons, List.length_append, length_byteBits, ← bitsOf, ih,
      List.length_cons]
    omega

theorem bitsOf_flipped {word error : Bytes} (h : word.length = error.length) :
    bitsOf (flipped word error) = List.zipWith xor (bitsOf word) (bitsOf error) := by
  induction word generalizing error with
  | nil => rfl
  | cons a word ih =>
    cases error with
    | nil => cases h
    | cons b error =>
      have hrest := ih (Nat.succ.inj h)
      have hbytes : (byteBits a).length = (byteBits b).length := rfl
      simp only [flipped, List.zipWith_cons_cons, bitsOf, List.flatMap_cons] at hrest ⊢
      rw [List.zipWith_append hbytes, ← hrest, byteBits_xor]

/-- A word whose checksum is its own is no longer one after a burst of at most eight bits. -/
theorem crc8_flipped_ne {word error : Bytes} (hword : crc8 word = 0)
    (hlength : word.length = error.length) (hburst : Burst 8 (bitsOf error)) :
    crc8 (flipped word error) ≠ 0 := by
  have hbits : (bitsOf word).length = (bitsOf error).length := by
    rw [length_bitsOf, length_bitsOf, hlength]
  have hne := run_burst_ne (s := BitVec.ofNat 8 CRC_INITIAL) polynomial_odd hbits hburst
  rw [crc8_eq] at hword
  rw [crc8_eq, bitsOf_flipped hlength]
  intro h
  exact hne (BitVec.eq_of_toNat_eq (h.trans hword.symm))

/-- The data with the checksum byte after it. -/
def checkedWord (data : Bytes) : Bytes := data ++ [UInt8.ofNat (crc8 data)]

theorem crc8_checkedWord (data : Bytes) : crc8 (checkedWord data) = 0 := by
  refine (crc8_append_eq_zero data _).mpr ?_
  rw [UInt8.toNat_ofNat']
  exact (Nat.mod_eq_of_lt (crc8_lt data)).symm

theorem flipped_ne_nil {data error : Bytes} (h : error.length = data.length + 1) :
    flipped (checkedWord data) error ≠ [] := by
  refine List.ne_nil_of_length_pos ?_
  simp [flipped, checkedWord, h]

/-- A burst of at most eight bits anywhere in a word and its checksum byte fails the comparison; so
does it when the driver makes the comparison on two bytes in its buffer. -/
theorem crc8_detects_burst {data error : Bytes} (hlength : error.length = data.length + 1)
    (hburst : Burst 8 (bitsOf error)) :
    crc8 (flipped (checkedWord data) error).dropLast ≠
        ((flipped (checkedWord data) error).getLastD 0).toNat ∧
    (data.length = 2 → ∀ before after, ∃ message,
      verifyWordCrc (before ++ flipped (checkedWord data) error ++ after) before.length =
        throw (.osError message)) := by
  have hlengths : (checkedWord data).length = error.length := by
    rw [hlength, checkedWord, List.length_append, List.length_singleton]
  have hne := crc8_flipped_ne (crc8_checkedWord data) hlengths hburst
  have hfull : (flipped (checkedWord data) error).length = data.length + 1 := by
    rw [flipped, List.length_zipWith, hlengths, Nat.min_self, hlength]
  have hcompare : crc8 (flipped (checkedWord data) error).dropLast ≠
      ((flipped (checkedWord data) error).getLastD 0).toNat := by
    intro h
    have hsplit := List.dropLast_concat_getLast (flipped_ne_nil hlength)
    rw [← hsplit] at hne
    refine hne ((crc8_append_eq_zero _ _).mpr ?_)
    rw [h, List.getLastD_eq_getLast?, List.getLast?_eq_getLast_of_ne_nil (flipped_ne_nil hlength)]
    rfl
  refine ⟨hcompare, fun htwo before after => ?_⟩
  rw [htwo] at hfull
  obtain ⟨first, second, checksum, heq⟩ := List.length_eq_three.mp hfull
  rw [heq] at hcompare ⊢
  unfold verifyWordCrc
  have hbyte : (before ++ [first, second, checksum] ++ after).getD (before.length + 2) 0 =
      checksum := by simp
  have hdata : ((before ++ [first, second, checksum] ++ after).drop before.length).take 2 =
      [first, second] := by simp
  rw [hbyte, hdata]
  exact ⟨_, if_neg hcompare⟩

/-- The last bit of a measured word and the first bit of its checksum. -/
theorem crc8_detects_burst_across :
    crc8 (flipped (checkedWord [0xBE, 0xEF]) [0x00, 0x01, 0x80]).dropLast ≠
      ((flipped (checkedWord [0xBE, 0xEF]) [0x00, 0x01, 0x80]).getLastD 0).toNat :=
  (crc8_detects_burst rfl ⟨15, [true, true], 7, by decide, by decide, by decide⟩).1

end PicoDualCore.Sht35
