import BulkTransfer.Page.Reader
import Mathlib.Data.Nat.Bitwise
/-!
# Bytes in their places

Numbers and flags read back from the bytes they are written as, and what it means that some bytes
stand at a place of a page. A run of bytes that stands somewhere puts each of its parts into a place
of its own; the readers of a page see exactly what stands where they look.
-/
namespace BulkTransfer

section Numbers

@[simp]
theorem littleEndian_length (width n : Nat) : (littleEndian width n).length = width := by
  induction width generalizing n with
  | zero => rfl
  | succ width ih => simp [littleEndian, ih]

/-- What is written in some bytes is the number without the part that does not fit. -/
theorem ofLittleEndian_littleEndian (width n : Nat) :
    ofLittleEndian (littleEndian width n) = n % Nat.pow 256 width := by
  induction width generalizing n with
  | zero => simp [littleEndian, ofLittleEndian, Nat.mod_one]
  | succ width ih =>
    have low : (UInt8.ofNat (n % 256)).toNat = n % 256 := by
      rw [UInt8.toNat_ofNat']; omega
    have power : Nat.pow 256 (width + 1) = 256 * Nat.pow 256 width := Nat.mul_comm _ 256
    rw [littleEndian, ofLittleEndian, ih, low, power, Nat.mod_mul]

theorem ofLittleEndian_four {n : Nat} (h : n ≤ greatestOffset) :
    ofLittleEndian (littleEndian 4 n) = n := by
  rw [ofLittleEndian_littleEndian]
  exact Nat.mod_eq_of_lt (Nat.lt_of_le_of_lt h (by decide))

theorem ofLittleEndian_eight (n : UInt64) : ofLittleEndian (littleEndian 8 n.toNat) = n.toNat := by
  rw [ofLittleEndian_littleEndian]
  exact Nat.mod_eq_of_lt n.toNat_lt

end Numbers

section Flags

theorem flagsValue_testBit (flags : List Bool) (i : Nat) :
    (flagsValue flags).testBit i = flags[i]?.getD false := by
  induction flags generalizing i with
  | nil => simp [flagsValue]
  | cons flag rest ih =>
    have odd : (flag.toNat + 2 * flagsValue rest) % 2 = flag.toNat := by
      cases flag <;> simp
    have half : (flag.toNat + 2 * flagsValue rest) / 2 = flagsValue rest := by
      cases flag <;> simp; omega
    cases i with
    | zero => cases flag <;> simp_all [flagsValue, Nat.testBit_zero]
    | succ i => rw [flagsValue, Nat.testBit_add_one, half, ih]; rfl

theorem flagsValue_lt (flags : List Bool) : flagsValue flags < Nat.pow 2 flags.length := by
  induction flags with
  | nil => decide
  | cons flag rest ih =>
    have power : Nat.pow 2 (rest.length + 1) = Nat.pow 2 rest.length * 2 := rfl
    rw [flagsValue, List.length_cons, power]
    cases flag <;> simp only [Bool.toNat_true, Bool.toNat_false] <;> omega

theorem flagsValue_byte {flags : List Bool} (h : flags.length ≤ 8) :
    (UInt8.ofNat (flagsValue flags)).toNat = flagsValue flags := by
  rw [UInt8.toNat_ofNat']
  apply Nat.mod_eq_of_lt
  exact Nat.lt_of_lt_of_le (flagsValue_lt flags) (Nat.pow_le_pow_right (by decide) h)

theorem packFlags_length (flags : List Bool) : (packFlags flags).length = (flags.length + 7) / 8 := by
  fun_induction packFlags flags with
  | case1 => rfl
  | case2 flag rest ih =>
    simp only [List.length_cons, ih, List.length_drop]
    omega

/-- Flag `i` is bit `i % 8` of byte `i / 8`. -/
theorem packFlags_testBit (flags : List Bool) (i : Nat) (h : i < flags.length) :
    ∃ byte, (packFlags flags)[i / 8]? = some byte ∧
      byte.toNat.testBit (i % 8) = flags[i]?.getD false := by
  fun_induction packFlags flags generalizing i with
  | case1 => simp at h
  | case2 flag rest ih =>
    by_cases hi : i < 8
    · refine ⟨_, by rw [Nat.div_eq_of_lt hi]; rfl, ?_⟩
      have first : (flag :: rest.take 7)[i]? = (flag :: rest)[i]? := by
        rw [← List.take_succ_cons, List.getElem?_take_of_lt hi]
      have short : (flag :: rest.take 7).length ≤ 8 := by
        rw [List.length_cons, List.length_take]
        omega
      rw [flagsValue_byte short, Nat.mod_eq_of_lt hi, flagsValue_testBit, first]
    · obtain ⟨j, rfl⟩ : ∃ j, i = 7 + j + 1 := ⟨i - 8, by omega⟩
      obtain ⟨byte, place, bit⟩ := ih j (by simp at h ⊢; omega)
      refine ⟨byte, ?_, ?_⟩
      · rw [show (7 + j + 1) / 8 = j / 8 + 1 by omega, List.getElem?_cons_succ, place]
      · rw [show (7 + j + 1) % 8 = j % 8 by omega, bit, List.getElem?_cons_succ,
          List.getElem?_drop]

end Flags

/-- The bytes are those of the data from `place` on. -/
def StandsAt (data : Array UInt8) (place : Nat) (bytes : List UInt8) : Prop :=
  ∃ before after, data.toList = before ++ bytes ++ after ∧ before.length = place

namespace StandsAt

variable {data : Array UInt8} {place : Nat} {bytes first second : List UInt8}

theorem left (h : StandsAt data place (first ++ second)) : StandsAt data place first := by
  obtain ⟨before, after, whole, length⟩ := h
  exact ⟨before, second ++ after, by simp [whole], length⟩

theorem right (h : StandsAt data place (first ++ second)) :
    StandsAt data (place + first.length) second := by
  obtain ⟨before, after, whole, length⟩ := h
  exact ⟨before ++ first, after, by simp [whole], by simp [length]⟩

theorem grown (h : StandsAt data place bytes) (more : List UInt8) :
    StandsAt (data ++ more) place bytes := by
  obtain ⟨before, after, whole, length⟩ := h
  exact ⟨before, after ++ more, by simp [whole], length⟩

theorem bound (h : StandsAt data place bytes) : place + bytes.length ≤ data.size := by
  obtain ⟨before, after, whole, length⟩ := h
  rw [← Array.length_toList, whole]
  simp [length]

theorem slice (h : StandsAt data place bytes) :
    slice? data place bytes.length = some bytes := by
  have inside := h.bound
  obtain ⟨before, after, whole, length⟩ := h
  rw [slice?, if_pos inside, Array.toList_extract, whole]
  subst length
  simp [List.extract_eq_take_drop]

theorem byte (h : StandsAt data place bytes) {i : Nat} {b : UInt8} (hb : bytes[i]? = some b) :
    data[place + i]? = some b := by
  obtain ⟨before, after, whole, length⟩ := h
  have hi : i < bytes.length := (List.getElem?_eq_some_iff.mp hb).1
  rw [← Array.getElem?_toList, whole, List.append_assoc, ← length,
    List.getElem?_append_right (by omega), Nat.add_sub_cancel_left,
    List.getElem?_append_left hi, hb]

end StandsAt

end BulkTransfer
