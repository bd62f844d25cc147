import Mathlib
import ObjcImage.Proofs.Fixup.BindStream

set_option autoImplicit false

/-!
# LEB128 numbers read back

The shortest forms of a 64-bit number, unsigned or signed, read back as that number, and no read of
a number takes fewer bytes. The readers keep numbers modulo 2^64, so the arithmetic is about
remainders.
-/

namespace ObjcImage.Leb128

/-- The shortest unsigned LEB128 form of `n`: seven bits a byte, least significant first, the high
bit set on every byte but the last. -/
def encodeUnsigned (n : Nat) : List UInt8 :=
  if n < 128 then [n.toUInt8] else (n % 128 + 128).toUInt8 :: encodeUnsigned (n / 128)
termination_by n
decreasing_by omega

/-- The shortest signed LEB128 form of `n`: as the unsigned one, ending at the first byte whose
seven bits, extended from their sign, are all that is left of `n`. -/
def encodeSigned (n : Int) : List UInt8 :=
  if -64 ≤ n ∧ n < 64 then [(n % 128).toNat.toUInt8]
  else ((n % 128).toNat + 128).toUInt8 :: encodeSigned (n / 128)
termination_by n.natAbs
decreasing_by omega

example : encodeUnsigned 624485 = [0xe5, 0x8e, 0x26] := by cbv

example : encodeSigned (-123456) = [0xc0, 0xbb, 0x78] := by cbv

theorem encodeUnsigned_ne_nil (n : Nat) : encodeUnsigned n ≠ [] := by
  rw [encodeUnsigned]
  split <;> simp

theorem encodeSigned_ne_nil (n : Int) : encodeSigned n ≠ [] := by
  rw [encodeSigned]
  split <;> simp

/-! ### One byte -/

section Step

variable {shift acc : Nat} {b : UInt8} (rest : List UInt8)

theorem unsignedFrom_stop (within : shift < 64) (last : b.toNat < 128) :
    unsignedFrom shift acc (b :: rest) =
      .ok ((acc + b.toNat % 128 * 2 ^ shift) % 2 ^ 64, rest) := by
  simp [unsignedFrom, Nat.pow_eq, Nat.not_le.mpr within, last]

theorem unsignedFrom_continue (within : shift < 64) (more : 128 ≤ b.toNat) :
    unsignedFrom shift acc (b :: rest) =
      unsignedFrom (shift + 7) ((acc + b.toNat % 128 * 2 ^ shift) % 2 ^ 64) rest := by
  simp [unsignedFrom, Nat.pow_eq, Nat.not_le.mpr within, Nat.not_lt.mpr more]

theorem signedFrom_stop (within : shift < 64) (last : b.toNat < 128) :
    signedFrom shift acc (b :: rest) =
      .ok (toSigned 64
        (if shift + 7 < 64 ∧ 64 ≤ b.toNat % 128 then
          (acc + b.toNat % 128 * 2 ^ shift) % 2 ^ 64 + (2 ^ 64 - 2 ^ (shift + 7))
        else (acc + b.toNat % 128 * 2 ^ shift) % 2 ^ 64), rest) := by
  simp [signedFrom, Nat.pow_eq, Nat.not_le.mpr within, last]

theorem signedFrom_continue (within : shift < 64) (more : 128 ≤ b.toNat) :
    signedFrom shift acc (b :: rest) =
      signedFrom (shift + 7) ((acc + b.toNat % 128 * 2 ^ shift) % 2 ^ 64) rest := by
  simp [signedFrom, Nat.pow_eq, Nat.not_le.mpr within, Nat.not_lt.mpr more]

theorem unsignedFrom_error_of_past (past : 64 ≤ shift) :
    unsignedFrom shift acc (b :: rest) = .error ⟨.tooLarge, rest⟩ := by
  simp [unsignedFrom, past]

theorem signedFrom_error_of_past (past : 64 ≤ shift) :
    signedFrom shift acc (b :: rest) = .error ⟨.tooLarge, rest⟩ := by
  simp [signedFrom, past]

end Step

theorem toSigned_eq_of_modEq {n : Nat} {t : Int} (below : n < 2 ^ 64) (lo : -2 ^ 63 ≤ t)
    (hi : t < 2 ^ 63) (same : (n : Int) ≡ t [ZMOD 2 ^ 64]) : toSigned 64 n = t := by
  obtain ⟨k, hk⟩ := same.dvd
  unfold toSigned
  simp only [Nat.pow_eq]
  split <;> push_cast <;> omega

/-! ### Reading the shortest forms back -/

theorem unsignedFrom_encodeUnsigned (m shift acc : Nat) (rest : List UInt8) (within : shift < 64)
    (fits : acc + m * 2 ^ shift < 2 ^ 64) :
    unsignedFrom shift acc (encodeUnsigned m ++ rest) = .ok (acc + m * 2 ^ shift, rest) := by
  induction m using Nat.strong_induction_on generalizing shift acc with
  | _ m ih =>
  rw [encodeUnsigned]
  split
  · next small =>
    have byte : m.toUInt8.toNat = m := by simp; omega
    rw [List.singleton_append, unsignedFrom_stop rest within (by omega), byte,
      Nat.mod_eq_of_lt small, Nat.mod_eq_of_lt fits]
  · next large =>
    have byte : (m % 128 + 128).toUInt8.toNat = m % 128 + 128 := by simp; omega
    have power : 2 ^ (shift + 7) = 2 ^ shift * 128 := Nat.pow_add 2 shift 7
    -- a number of two bytes or more does not fit past bit 57
    have room : shift + 7 < 64 := by
      by_contra past
      have high : 2 ^ 57 ≤ 2 ^ shift := Nat.pow_le_pow_right (by norm_num) (by omega)
      have : 128 * 2 ^ shift ≤ m * 2 ^ shift := Nat.mul_le_mul_right _ (by omega)
      omega
    have halves : m % 128 * 2 ^ shift + m / 128 * 2 ^ (shift + 7) = m * 2 ^ shift := by
      rw [power]
      conv_rhs => rw [← Nat.mod_add_div m 128]
      ring
    have low : m % 128 * 2 ^ shift ≤ m * 2 ^ shift := Nat.mul_le_mul_right _ (Nat.mod_le _ _)
    rw [List.cons_append, unsignedFrom_continue _ within (by omega), byte,
      show (m % 128 + 128) % 128 = m % 128 by omega, Nat.mod_eq_of_lt (by omega),
      ih (m / 128) (by omega) (shift + 7) _ room (by omega)]
    congr 2
    omega

theorem signedFrom_lastByte (m : Int) (shift acc : Nat) (rest : List UInt8)
    (small : -64 ≤ m ∧ m < 64) (within : shift < 64) (low : acc < 2 ^ shift)
    (lo : -2 ^ 63 ≤ m * 2 ^ shift + acc) (hi : m * 2 ^ shift + acc < 2 ^ 63) :
    signedFrom shift acc ((m % 128).toNat.toUInt8 :: rest) = .ok (m * 2 ^ shift + acc, rest) := by
  have byte : (m % 128).toNat.toUInt8.toNat = (m % 128).toNat := by simp; omega
  rw [signedFrom_stop rest within (by omega), byte, Nat.mod_eq_of_lt (by omega)]
  congr 2
  have cast : ((2 ^ shift : Nat) : Int) = 2 ^ shift := by push_cast; rfl
  have powerNat : 2 ^ (shift + 7) = 2 ^ shift * 128 := Nat.pow_add 2 shift 7
  have bits : (m % 128).toNat * 2 ^ shift ≤ 127 * 2 ^ shift :=
    Nat.mul_le_mul_right _ (by omega)
  by_cases sign : 0 ≤ m
  · -- bit 6 clear: nothing to extend, and the number is what was read
    have payload : ((m % 128).toNat : Int) * 2 ^ shift = m * 2 ^ shift := by
      rw [show ((m % 128).toNat : Int) = m by omega]
    rw [if_neg (by omega)]
    refine toSigned_eq_of_modEq (Nat.mod_lt _ (by norm_num)) lo hi ?_
    simp only [Int.ModEq]
    push_cast
    omega
  · have payload : ((m % 128).toNat : Int) * 2 ^ shift = m * 2 ^ shift + 2 ^ shift * 128 := by
      rw [show ((m % 128).toNat : Int) = m + 128 by omega]
      ring
    by_cases room : shift + 7 < 64
    · -- bit 6 set below bit 64: the extension makes up for the byte's 128
      have below : 2 ^ shift ≤ 2 ^ 56 := Nat.pow_le_pow_right (by norm_num) (by omega)
      have bitsInt : ((m % 128).toNat : Int) * 2 ^ shift ≤ 127 * 2 ^ shift := by
        exact_mod_cast bits
      rw [if_pos ⟨room, by omega⟩]
      refine toSigned_eq_of_modEq (by omega) lo hi ?_
      simp only [Int.ModEq]
      push_cast [Nat.mod_eq_of_lt (show acc + (m % 128).toNat * 2 ^ shift < 2 ^ 64 by omega)]
      omega
    · -- the last byte reaches bit 64: its 128 vanishes modulo 2^64
      obtain ⟨j, hj⟩ : 2 ^ 57 ∣ 2 ^ shift := pow_dvd_pow 2 (by omega)
      have whole : (2 : Int) ^ shift = 2 ^ 57 * j := by exact_mod_cast hj
      rw [if_neg (by omega)]
      refine toSigned_eq_of_modEq (Nat.mod_lt _ (by norm_num)) lo hi ?_
      simp only [Int.ModEq]
      push_cast
      omega

/-- A number that needs another byte after `shift` bits is at least `2 ^ (shift + 6)` away from
zero, so in the signed range that byte still starts below bit 64. -/
theorem room_of_large {m : Int} {shift acc : Nat} (large : ¬(-64 ≤ m ∧ m < 64))
    (low : acc < 2 ^ shift) (lo : -2 ^ 63 ≤ m * 2 ^ shift + acc)
    (hi : m * 2 ^ shift + acc < 2 ^ 63) : shift + 7 < 64 := by
  by_contra past
  have positive : (0 : Int) ≤ 2 ^ shift := by positivity
  have cast : ((2 ^ shift : Nat) : Int) = 2 ^ shift := by push_cast; rfl
  have high : (2 : Int) ^ 57 ≤ 2 ^ shift := pow_le_pow_right₀ (by norm_num) (by omega)
  rcases not_and_or.mp large with below | above
  · have : m * 2 ^ shift ≤ -65 * 2 ^ shift := mul_le_mul_of_nonneg_right (by omega) positive
    omega
  · have : 64 * 2 ^ shift ≤ m * 2 ^ shift := mul_le_mul_of_nonneg_right (by omega) positive
    omega

theorem signedFrom_encodeSigned (m : Int) (shift acc : Nat) (rest : List UInt8)
    (within : shift < 64) (low : acc < 2 ^ shift) (lo : -2 ^ 63 ≤ m * 2 ^ shift + acc)
    (hi : m * 2 ^ shift + acc < 2 ^ 63) :
    signedFrom shift acc (encodeSigned m ++ rest) = .ok (m * 2 ^ shift + acc, rest) := by
  induction h : m.natAbs using Nat.strong_induction_on generalizing m shift acc with
  | _ size ih =>
  subst h
  rw [encodeSigned]
  split
  · next small =>
    exact signedFrom_lastByte m shift acc rest small within low lo hi
  · next large =>
    -- the byte carries `m % 128` and the rest of the form carries `m / 128`, seven bits up
    have room := room_of_large large low lo hi
    have byte : ((m % 128).toNat + 128).toUInt8.toNat = (m % 128).toNat + 128 := by simp; omega
    have power : (2 : Int) ^ (shift + 7) = 2 ^ shift * 128 := pow_add 2 shift 7
    have powerNat : 2 ^ (shift + 7) = 2 ^ shift * 128 := Nat.pow_add 2 shift 7
    have below : 2 ^ shift ≤ 2 ^ 56 := Nat.pow_le_pow_right (by norm_num) (by omega)
    have bits : (m % 128).toNat * 2 ^ shift ≤ 127 * 2 ^ shift :=
      Nat.mul_le_mul_right _ (by omega)
    have same : m / 128 * 2 ^ (shift + 7) + ((acc + (m % 128).toNat * 2 ^ shift : Nat) : Int) =
        m * 2 ^ shift + acc := by
      push_cast
      rw [Int.toNat_of_nonneg (Int.emod_nonneg m (by norm_num)), power]
      linear_combination (2 : Int) ^ shift * Int.emod_add_mul_ediv m 128
    rw [List.cons_append, signedFrom_continue _ within (by omega), byte,
      show ((m % 128).toNat + 128) % 128 = (m % 128).toNat by omega, Nat.mod_eq_of_lt (by omega),
      ih (m / 128).natAbs (by omega) (m / 128) (shift + 7) _ room (by omega) (by omega) (by omega)
        rfl, same]

/-! ### The forms are the shortest -/

theorem unsignedFrom_lt {shift acc n : Nat} {read rest : List UInt8} (low : acc < 2 ^ shift)
    (found : unsignedFrom shift acc (read ++ rest) = .ok (n, rest)) :
    n < 2 ^ (shift + 7 * read.length) := by
  induction read generalizing shift acc with
  | nil =>
    have := unsignedFrom_rest found
    simp at this
  | cons b read ih =>
    have within : shift < 64 := by
      by_contra past
      rw [List.cons_append, unsignedFrom_error_of_past _ (by omega)] at found
      cases found
    have power : 2 ^ (shift + 7) = 2 ^ shift * 128 := Nat.pow_add 2 shift 7
    have payload : b.toNat % 128 * 2 ^ shift ≤ 127 * 2 ^ shift :=
      Nat.mul_le_mul_right _ (by omega)
    have kept := Nat.mod_le (acc + b.toNat % 128 * 2 ^ shift) (2 ^ 64)
    have grows : 2 ^ (shift + 7) ≤ 2 ^ (shift + 7 * (read.length + 1)) :=
      Nat.pow_le_pow_right (by norm_num) (by omega)
    rw [List.cons_append] at found
    by_cases last : b.toNat < 128
    · rw [unsignedFrom_stop _ within last, Except.ok.injEq, Prod.mk.injEq] at found
      obtain ⟨rfl, -⟩ := found
      simp only [List.length_cons]
      omega
    · rw [unsignedFrom_continue _ within (by omega)] at found
      have := ih (by omega) found
      simp only [List.length_cons, show shift + 7 * (read.length + 1) =
        shift + 7 + 7 * read.length by ring]
      exact this

theorem pow_le_of_encodeUnsigned (n : Nat) :
    (encodeUnsigned n).length = 1 ∨ 2 ^ (7 * ((encodeUnsigned n).length - 1)) ≤ n := by
  induction n using Nat.strong_induction_on with
  | _ n ih =>
  rw [encodeUnsigned]
  split
  · exact .inl rfl
  · next large =>
    right
    simp only [List.length_cons, Nat.add_sub_cancel]
    have split := Nat.div_add_mod n 128
    rcases ih (n / 128) (by omega) with one | big
    · rw [one]
      omega
    · have power : 2 ^ (7 * (encodeUnsigned (n / 128)).length) =
          2 ^ (7 * ((encodeUnsigned (n / 128)).length - 1)) * 128 := by
        have := List.length_pos_iff.mpr (encodeUnsigned_ne_nil (n / 128))
        calc 2 ^ (7 * (encodeUnsigned (n / 128)).length)
            = 2 ^ (7 * ((encodeUnsigned (n / 128)).length - 1) + 7) := by congr 1; omega
          _ = 2 ^ (7 * ((encodeUnsigned (n / 128)).length - 1)) * 128 := Nat.pow_add _ _ _
      omega

theorem encodeUnsigned_shortest {read rest : List UInt8} {n : Nat}
    (found : readUnsigned (read ++ rest) = .ok (n, rest)) :
    (encodeUnsigned n).length ≤ read.length := by
  have bound := unsignedFrom_lt (by simp) found
  have taken := unsignedFrom_rest found
  simp only [List.length_append] at taken
  rcases pow_le_of_encodeUnsigned n with one | big
  · omega
  · have := (Nat.pow_lt_pow_iff_right (by norm_num : 1 < 2)).mp (lt_of_le_of_lt big bound)
    omega

theorem toSigned_of_lt {n : Nat} (small : n < 2 ^ 63) : toSigned 64 n = n := by
  simp only [toSigned, Nat.pow_eq, Nat.add_one_sub_one]
  rw [if_neg (by omega)]

theorem toSigned_of_le {n : Nat} (large : 2 ^ 63 ≤ n) : toSigned 64 n = n - 2 ^ 64 := by
  simp only [toSigned, Nat.pow_eq, Nat.add_one_sub_one]
  rw [if_pos large]
  push_cast
  rfl

theorem toSigned_range {n : Nat} (below : n < 2 ^ 64) :
    -2 ^ 63 ≤ toSigned 64 n ∧ toSigned 64 n < 2 ^ 63 := by
  rcases Nat.lt_or_ge n (2 ^ 63) with small | large
  · rw [toSigned_of_lt small]
    omega
  · rw [toSigned_of_le large]
    omega

theorem signedFrom_bounds {shift acc : Nat} {n : Int} {read rest : List UInt8}
    (low : acc < 2 ^ shift) (found : signedFrom shift acc (read ++ rest) = .ok (n, rest)) :
    -2 ^ min 63 (shift + 7 * read.length - 1) ≤ n ∧
      n < 2 ^ min 63 (shift + 7 * read.length - 1) := by
  induction read generalizing shift acc with
  | nil =>
    have := signedFrom_rest found
    simp at this
  | cons b read ih =>
    have within : shift < 64 := by
      by_contra past
      rw [List.cons_append, signedFrom_error_of_past _ (by omega)] at found
      cases found
    have power : 2 ^ (shift + 7) = 2 ^ shift * 128 := Nat.pow_add 2 shift 7
    have payload : b.toNat % 128 * 2 ^ shift ≤ 127 * 2 ^ shift :=
      Nat.mul_le_mul_right _ (by omega)
    have payloadInt : 0 ≤ (b.toNat : Int) % 128 * 2 ^ shift ∧
        (b.toNat : Int) % 128 * 2 ^ shift ≤ 127 * 2 ^ shift :=
      ⟨mul_nonneg (Int.emod_nonneg _ (by norm_num)) (by positivity), by exact_mod_cast payload⟩
    rw [List.cons_append] at found
    by_cases last : b.toNat < 128
    · rw [signedFrom_stop _ within last, Except.ok.injEq, Prod.mk.injEq] at found
      obtain ⟨rfl, gone⟩ := found
      have empty : read = [] := by simpa using congrArg List.length gone
      subst empty
      rw [show shift + 7 * [b].length - 1 = shift + 6 by simp]
      by_cases extend : shift + 7 < 64 ∧ 64 ≤ b.toNat % 128
      · -- bit 6 set below bit 64: the number is negative, within 2 ^ (shift + 6)
        have small : 2 ^ shift ≤ 2 ^ 56 := Nat.pow_le_pow_right (by norm_num) (by omega)
        have high : 64 * 2 ^ shift ≤ b.toNat % 128 * 2 ^ shift :=
          Nat.mul_le_mul_right _ extend.2
        have exponent : (2 : Int) ^ (shift + 6) = 2 ^ shift * 64 := pow_add 2 shift 6
        have cast : ((2 ^ shift : Nat) : Int) = 2 ^ shift := by push_cast; rfl
        have highInt : 64 * (2 : Int) ^ shift ≤ (b.toNat : Int) % 128 * 2 ^ shift := by
          exact_mod_cast high
        rw [if_pos extend, Nat.mod_eq_of_lt (by omega), toSigned_of_le (by omega),
          min_eq_right (by omega)]
        push_cast
        omega
      · rw [if_neg extend]
        rcases Nat.lt_or_ge (shift + 6) 63 with inside | top
        · -- bit 6 clear: the number is what was read, below 2 ^ (shift + 6)
          have small : 2 ^ shift ≤ 2 ^ 56 := Nat.pow_le_pow_right (by norm_num) (by omega)
          have plain : b.toNat % 128 * 2 ^ shift ≤ 63 * 2 ^ shift :=
            Nat.mul_le_mul_right _ (by omega)
          have exponent : (2 : Int) ^ (shift + 6) = 2 ^ shift * 64 := pow_add 2 shift 6
          have cast : ((2 ^ shift : Nat) : Int) = 2 ^ shift := by push_cast; rfl
          have plainInt : (b.toNat : Int) % 128 * 2 ^ shift ≤ 63 * 2 ^ shift := by
            exact_mod_cast plain
          rw [Nat.mod_eq_of_lt (by omega), toSigned_of_lt (by omega), min_eq_right (by omega)]
          push_cast
          omega
        · rw [min_eq_left top]
          exact toSigned_range (Nat.mod_lt _ (by norm_num))
    · rw [signedFrom_continue _ within (by omega)] at found
      have kept := Nat.mod_le (acc + b.toNat % 128 * 2 ^ shift) (2 ^ 64)
      have := ih (by omega) found
      rwa [List.length_cons, show shift + 7 * (read.length + 1) - 1 =
        shift + 7 + 7 * read.length - 1 by ring_nf]

theorem pow_le_of_encodeSigned (n : Int) :
    (encodeSigned n).length = 1 ∨ n < -2 ^ (7 * (encodeSigned n).length - 8) ∨
      2 ^ (7 * (encodeSigned n).length - 8) ≤ n := by
  induction h : n.natAbs using Nat.strong_induction_on generalizing n with
  | _ size ih =>
  subst h
  rw [encodeSigned]
  split
  · exact .inl rfl
  · next large =>
    right
    simp only [List.length_cons]
    have halves := Int.emod_add_mul_ediv n 128
    have digit := Int.emod_lt_of_pos n (by norm_num : (0 : Int) < 128)
    have digit' := Int.emod_nonneg n (by norm_num : (128 : Int) ≠ 0)
    by_cases one : (encodeSigned (n / 128)).length = 1
    · rw [one]
      norm_num
      omega
    · have two : 2 ≤ (encodeSigned (n / 128)).length := by
        have := List.length_pos_iff.mpr (encodeSigned_ne_nil (n / 128))
        omega
      have power : (2 : Int) ^ (7 * ((encodeSigned (n / 128)).length + 1) - 8) =
          2 ^ (7 * (encodeSigned (n / 128)).length - 8) * 128 := by
        rw [show 7 * ((encodeSigned (n / 128)).length + 1) - 8 =
          7 * (encodeSigned (n / 128)).length - 8 + 7 by omega, pow_add]
        norm_num
      rcases ih (n / 128).natAbs (by omega) (n / 128) rfl with one' | below | above
      · exact absurd one' one
      · left
        omega
      · right
        omega

theorem encodeSigned_shortest {read rest : List UInt8} {n : Int}
    (found : readSigned (read ++ rest) = .ok (n, rest)) :
    (encodeSigned n).length ≤ read.length := by
  obtain ⟨lo, hi⟩ := signedFrom_bounds (by simp) found
  have taken := signedFrom_rest found
  simp only [List.length_append] at taken
  rcases pow_le_of_encodeSigned n with one | below | above
  · omega
  · have := (pow_lt_pow_iff_right₀ (by norm_num : (1 : Int) < 2)).mp
      (neg_lt_neg_iff.mp (lt_of_le_of_lt lo below))
    omega
  · have := (pow_lt_pow_iff_right₀ (by norm_num : (1 : Int) < 2)).mp (lt_of_le_of_lt above hi)
    omega

/-! ### How many bytes a read takes -/

theorem unsignedFrom_of_signedFrom {shift acc : Nat} {input rest : List UInt8} {n : Int}
    (found : signedFrom shift acc input = .ok (n, rest)) :
    ∃ m, unsignedFrom shift acc input = .ok (m, rest) := by
  induction input generalizing shift acc with
  | nil => simp [signedFrom] at found
  | cons b r ih =>
    by_cases within : shift < 64
    · by_cases last : b.toNat < 128
      · rw [signedFrom_stop _ within last, Except.ok.injEq, Prod.mk.injEq] at found
        exact ⟨_, by rw [unsignedFrom_stop _ within last, ← found.2]⟩
      · rw [signedFrom_continue _ within (by omega)] at found
        rw [unsignedFrom_continue _ within (by omega)]
        exact ih found
    · rw [signedFrom_error_of_past _ (by omega)] at found
      cases found

theorem Operand.length_le {input rest : List UInt8} (operand : Operand input rest) :
    ∃ read, input = read ++ rest ∧ read ≠ [] ∧ read.length ≤ 10 := by
  obtain ⟨k, below, -, b, dropped, -⟩ := operand
  refine ⟨input.take k ++ [b], ?_, by simp, ?_⟩
  · rw [List.append_assoc, List.singleton_append, ← dropped, List.take_append_drop]
  · simp only [List.length_append, List.length_take, List.length_singleton]
    omega

/-! ### Reading a 64-bit number back -/

theorem readUnsigned_encodeUnsigned (n : Nat) (rest : List UInt8) (fits : n < 2 ^ 64) :
    readUnsigned (encodeUnsigned n ++ rest) = .ok (n, rest) := by
  have := unsignedFrom_encodeUnsigned n 0 0 rest (by norm_num) (by simpa using fits)
  simpa [readUnsigned] using this

theorem readSigned_encodeSigned (n : Int) (rest : List UInt8) (lo : -2 ^ 63 ≤ n)
    (hi : n < 2 ^ 63) : readSigned (encodeSigned n ++ rest) = .ok (n, rest) := by
  have := signedFrom_encodeSigned n 0 0 rest (by norm_num) (by norm_num) (by simpa using lo)
    (by simpa using hi)
  simpa [readSigned] using this

/-- The shortest LEB128 form of a 64-bit number reads back as it and leaves what follows, no
read of a number takes fewer bytes than its shortest form, and every read takes one to ten. -/
theorem leb128_reads_shortest_forms :
    (∀ (n : UInt64) (rest : List UInt8),
      readUnsigned (encodeUnsigned n.toNat ++ rest) = .ok (n.toNat, rest)) ∧
    (∀ (n : Int64) (rest : List UInt8),
      readSigned (encodeSigned n.toInt ++ rest) = .ok (n.toInt, rest)) ∧
    (∀ (read rest : List UInt8) (n : Nat), readUnsigned (read ++ rest) = .ok (n, rest) →
      (encodeUnsigned n).length ≤ read.length) ∧
    (∀ (read rest : List UInt8) (n : Int), readSigned (read ++ rest) = .ok (n, rest) →
      (encodeSigned n).length ≤ read.length) ∧
    (∀ (input rest : List UInt8) (n : Nat), readUnsigned input = .ok (n, rest) →
      ∃ read, input = read ++ rest ∧ read ≠ [] ∧ read.length ≤ 10) ∧
    (∀ (input rest : List UInt8) (n : Int), readSigned input = .ok (n, rest) →
      ∃ read, input = read ++ rest ∧ read ≠ [] ∧ read.length ≤ 10) :=
  ⟨fun n rest => readUnsigned_encodeUnsigned n.toNat rest n.toNat_lt,
    fun n rest => readSigned_encodeSigned n.toInt rest n.le_toInt n.toInt_lt,
    fun _ _ _ found => encodeUnsigned_shortest found,
    fun _ _ _ found => encodeSigned_shortest found,
    fun _ _ n found => (readUnsigned_eq_ok_iff.mp ⟨n, found⟩).length_le,
    fun _ _ _ found => (readUnsigned_eq_ok_iff.mp (unsignedFrom_of_signedFrom found)).length_le⟩

/-- `c0 bb 78` reads as -123456, and so takes no fewer bytes than its shortest signed form. -/
theorem readSigned_sample_shortest :
    readSigned ([0xc0, 0xbb, 0x78] ++ []) = .ok (-123456, []) ∧
      (encodeSigned (-123456)).length ≤ 3 := by
  have found : readSigned ([0xc0, 0xbb, 0x78] ++ []) = .ok (-123456, []) := rfl
  exact ⟨found, leb128_reads_shortest_forms.2.2.2.1 _ _ _ found⟩

end ObjcImage.Leb128
