import Mathlib
import ProcessTitle.Text.Utf8

/-!
# Reading UTF-8 and trimming blanks
-/

namespace ProcessTitle

namespace Utf8

/-! ### Bit fields of a byte -/

theorem and_or_eq_add (x j a : Nat) : x &&& (2 ^ j - 1) ||| 2 ^ j * a = 2 ^ j * a + x % 2 ^ j := by
  rw [Nat.and_two_pow_sub_one_eq_mod, Nat.or_comm,
    ← Nat.two_pow_add_eq_or_of_lt (Nat.mod_lt _ (Nat.two_pow_pos j))]

theorem toNat_and_31 (x : UInt8) : (x &&& 31).toNat = x.toNat % 32 := by
  rw [UInt8.toNat_and, show UInt8.toNat 31 = 2 ^ 5 - 1 from rfl, Nat.and_two_pow_sub_one_eq_mod]

theorem toNat_and_15 (x : UInt8) : (x &&& 15).toNat = x.toNat % 16 := by
  rw [UInt8.toNat_and, show UInt8.toNat 15 = 2 ^ 4 - 1 from rfl, Nat.and_two_pow_sub_one_eq_mod]

theorem toNat_and_7 (x : UInt8) : (x &&& 7).toNat = x.toNat % 8 := by
  rw [UInt8.toNat_and, show UInt8.toNat 7 = 2 ^ 3 - 1 from rfl, Nat.and_two_pow_sub_one_eq_mod]

theorem low_eq (x : UInt8) : low x = x.toNat % 64 := by
  rw [low, UInt8.toNat_and, show UInt8.toNat 63 = 2 ^ 6 - 1 from rfl, Nat.and_two_pow_sub_one_eq_mod]

theorem toNat_scalar {n : Nat} (valid : n < 0xD800 ∨ (0xDFFF < n ∧ n < 0x110000)) :
    (scalar n).toNat = n := by
  rw [scalar, Char.ofNat, dif_pos valid]
  show (UInt32.ofNatLT n _).toNat = n
  rfl

theorem isCont_iff (x : UInt8) : isCont x = true ↔ 0x80 ≤ x.toNat ∧ x.toNat ≤ 0xBF := by
  simp [isCont, UInt8.le_iff_toNat_le]

/-! ### The bytes of a character -/

theorem utf8EncodeChar_one {c : Char} (ascii : c.toNat < 0x80) :
    (String.utf8EncodeChar c).map UInt8.toNat = [c.toNat] := by
  have size : c.utf8Size = 1 := by
    rw [Char.utf8Size_eq_one_iff, UInt32.le_iff_toNat_le]
    simp only [Char.toNat_val]
    simp; omega
  rw [String.utf8EncodeChar_eq_singleton size]
  simp only [List.map_cons, List.map_nil, UInt32.toNat_toUInt8, Char.toNat_val, List.cons.injEq,
    and_true]
  omega

theorem utf8EncodeChar_two {c : Char} (low : 0x80 ≤ c.toNat) (high : c.toNat < 0x800) :
    (String.utf8EncodeChar c).map UInt8.toNat = [0xC0 + c.toNat / 64, 0x80 + c.toNat % 64] := by
  have size : c.utf8Size = 2 := by
    rw [Char.utf8Size_eq_two_iff, UInt32.lt_iff_toNat_lt, UInt32.le_iff_toNat_le]
    simp only [Char.toNat_val]
    constructor <;> simp <;> omega
  rw [String.utf8EncodeChar_eq_cons_cons size]
  simp only [List.map_cons, List.map_nil, UInt8.toNat_or, UInt8.toNat_and, UInt32.toNat_toUInt8,
    UInt32.toNat_shiftRight, Char.toNat_val, Nat.shiftRight_eq_div_pow]
  rw [show UInt8.toNat 31 = 2 ^ 5 - 1 from rfl, show UInt8.toNat 192 = 2 ^ 5 * 6 from rfl,
    show UInt8.toNat 63 = 2 ^ 6 - 1 from rfl, show UInt8.toNat 128 = 2 ^ 6 * 2 from rfl,
    show UInt32.toNat 6 % 32 = 6 from rfl, and_or_eq_add, and_or_eq_add]
  simp only [Nat.reducePow, Nat.reduceMul, List.cons.injEq, and_true]
  omega

theorem utf8EncodeChar_three {c : Char} (low : 0x800 ≤ c.toNat) (high : c.toNat < 0x10000) :
    (String.utf8EncodeChar c).map UInt8.toNat =
      [0xE0 + c.toNat / 4096, 0x80 + c.toNat / 64 % 64, 0x80 + c.toNat % 64] := by
  have size : c.utf8Size = 3 := by
    rw [Char.utf8Size_eq_three_iff, UInt32.lt_iff_toNat_lt, UInt32.le_iff_toNat_le]
    simp only [Char.toNat_val]
    constructor <;> simp <;> omega
  rw [String.utf8EncodeChar_eq_cons_cons_cons size]
  simp only [List.map_cons, List.map_nil, UInt8.toNat_or, UInt8.toNat_and, UInt32.toNat_toUInt8,
    UInt32.toNat_shiftRight, Char.toNat_val, Nat.shiftRight_eq_div_pow]
  rw [show UInt8.toNat 15 = 2 ^ 4 - 1 from rfl, show UInt8.toNat 224 = 2 ^ 4 * 14 from rfl,
    show UInt8.toNat 63 = 2 ^ 6 - 1 from rfl, show UInt8.toNat 128 = 2 ^ 6 * 2 from rfl,
    show UInt32.toNat 12 % 32 = 12 from rfl, show UInt32.toNat 6 % 32 = 6 from rfl,
    and_or_eq_add, and_or_eq_add, and_or_eq_add]
  simp only [Nat.reducePow, Nat.reduceMul, List.cons.injEq, and_true]
  omega

theorem utf8EncodeChar_four {c : Char} (low : 0x10000 ≤ c.toNat) :
    (String.utf8EncodeChar c).map UInt8.toNat =
      [0xF0 + c.toNat / 262144, 0x80 + c.toNat / 4096 % 64, 0x80 + c.toNat / 64 % 64,
        0x80 + c.toNat % 64] := by
  have size : c.utf8Size = 4 := by
    rw [Char.utf8Size_eq_four_iff, UInt32.lt_iff_toNat_lt]
    simp only [Char.toNat_val]
    simp; omega
  have bound : c.toNat < 0x110000 := by
    rcases c.valid with below | ⟨-, below⟩
    · exact Nat.lt_trans below (by decide)
    · exact below
  rw [String.utf8EncodeChar_eq_cons_cons_cons_cons size]
  simp only [List.map_cons, List.map_nil, UInt8.toNat_or, UInt8.toNat_and, UInt32.toNat_toUInt8,
    UInt32.toNat_shiftRight, Char.toNat_val, Nat.shiftRight_eq_div_pow]
  rw [show UInt8.toNat 7 = 2 ^ 3 - 1 from rfl, show UInt8.toNat 240 = 2 ^ 3 * 30 from rfl,
    show UInt8.toNat 63 = 2 ^ 6 - 1 from rfl, show UInt8.toNat 128 = 2 ^ 6 * 2 from rfl,
    show UInt32.toNat 18 % 32 = 18 from rfl, show UInt32.toNat 12 % 32 = 12 from rfl,
    show UInt32.toNat 6 % 32 = 6 from rfl, and_or_eq_add, and_or_eq_add, and_or_eq_add,
    and_or_eq_add]
  simp only [Nat.reducePow, Nat.reduceMul, List.cons.injEq, and_true]
  omega

theorem utf8EncodeChar_map_toNat (c : Char) :
    (String.utf8EncodeChar c).map UInt8.toNat =
      if c.toNat < 0x80 then [c.toNat]
      else if c.toNat < 0x800 then [0xC0 + c.toNat / 64, 0x80 + c.toNat % 64]
      else if c.toNat < 0x10000 then
        [0xE0 + c.toNat / 4096, 0x80 + c.toNat / 64 % 64, 0x80 + c.toNat % 64]
      else
        [0xF0 + c.toNat / 262144, 0x80 + c.toNat / 4096 % 64, 0x80 + c.toNat / 64 % 64,
          0x80 + c.toNat % 64] := by
  split
  · next one => exact utf8EncodeChar_one one
  split
  · next two => exact utf8EncodeChar_two (by omega) two
  split
  · next three => exact utf8EncodeChar_three (by omega) three
  · exact utf8EncodeChar_four (by omega)

theorem toNat_of_mem_utf8EncodeChar {c : Char} {x : UInt8} (mem : x ∈ String.utf8EncodeChar c) :
    x.toNat = c.toNat ∨ 0x80 ≤ x.toNat := by
  have code : x.toNat ∈ (String.utf8EncodeChar c).map UInt8.toNat := List.mem_map_of_mem mem
  rw [utf8EncodeChar_map_toNat] at code
  repeat' split at code
  all_goals
    simp only [List.mem_cons, List.not_mem_nil, or_false] at code
    omega

theorem isCont_head_utf8EncodeChar (c : Char) :
    ∀ x ∈ (String.utf8EncodeChar c).head?, isCont x = false := by
  intro x first
  have code : x.toNat ∈ ((String.utf8EncodeChar c).map UInt8.toNat).head? := by
    rw [List.head?_map, Option.mem_def.mp first]
    rfl
  rw [utf8EncodeChar_map_toNat] at code
  rw [Bool.eq_false_iff, Ne, isCont_iff]
  repeat' split at code
  all_goals
    simp only [List.head?_cons, Option.mem_def, Option.some.injEq] at code
    omega

/-! ### What the decoder accepts

Each branch of `head` builds a code point from the bytes it accepts; these lemmas say the
character it builds is written with exactly those bytes. -/

theorem encode_one {b : UInt8} (ascii : b.toNat < 0x80) : String.utf8EncodeChar (scalar b.toNat) = [b] := by
  have code := toNat_scalar (n := b.toNat) (.inl (by omega))
  apply (List.map_inj_right (fun _ _ => UInt8.toNat_inj.mp)).mp
  rw [utf8EncodeChar_one (by omega), code]
  rfl

theorem encode_two {b c1 : UInt8} (lead : 0xC2 ≤ b.toNat ∧ b.toNat < 0xE0) (second : isCont c1 = true) :
    String.utf8EncodeChar (scalar ((b &&& 31).toNat * 64 + low c1)) = [b, c1] := by
  rw [isCont_iff] at second
  rw [toNat_and_31, low_eq]
  have code := toNat_scalar (n := b.toNat % 32 * 64 + c1.toNat % 64) (.inl (by omega))
  apply (List.map_inj_right (fun _ _ => UInt8.toNat_inj.mp)).mp
  rw [utf8EncodeChar_two (by omega) (by omega), code]
  simp only [List.map_cons, List.map_nil, List.cons.injEq, and_true]
  omega

theorem encode_three {b c1 c2 : UInt8} (lead : 0xE0 ≤ b.toNat ∧ b.toNat < 0xF0)
    (second : 0x80 ≤ c1.toNat ∧ c1.toNat ≤ 0xBF) (shortest : b.toNat = 0xE0 → 0xA0 ≤ c1.toNat)
    (notSurrogate : b.toNat = 0xED → c1.toNat ≤ 0x9F) (third : isCont c2 = true) :
    String.utf8EncodeChar (scalar ((b &&& 15).toNat * 4096 + low c1 * 64 + low c2)) = [b, c1, c2] := by
  rw [isCont_iff] at third
  rw [toNat_and_15, low_eq, low_eq]
  have code := toNat_scalar (n := b.toNat % 16 * 4096 + c1.toNat % 64 * 64 + c2.toNat % 64)
    (by omega)
  apply (List.map_inj_right (fun _ _ => UInt8.toNat_inj.mp)).mp
  rw [utf8EncodeChar_three (by omega) (by omega), code]
  simp only [List.map_cons, List.map_nil, List.cons.injEq, and_true]
  omega

theorem encode_four {b c1 c2 c3 : UInt8} (lead : 0xF0 ≤ b.toNat ∧ b.toNat < 0xF5)
    (second : 0x80 ≤ c1.toNat ∧ c1.toNat ≤ 0xBF) (shortest : b.toNat = 0xF0 → 0x90 ≤ c1.toNat)
    (inRange : b.toNat = 0xF4 → c1.toNat ≤ 0x8F) (third : isCont c2 = true)
    (fourth : isCont c3 = true) :
    String.utf8EncodeChar (scalar ((b &&& 7).toNat * 262144 + low c1 * 4096 + low c2 * 64 + low c3)) =
      [b, c1, c2, c3] := by
  rw [isCont_iff] at third fourth
  rw [toNat_and_7, low_eq, low_eq, low_eq]
  have code := toNat_scalar
    (n := b.toNat % 8 * 262144 + c1.toNat % 64 * 4096 + c2.toNat % 64 * 64 + c3.toNat % 64)
    (by omega)
  apply (List.map_inj_right (fun _ _ => UInt8.toNat_inj.mp)).mp
  rw [utf8EncodeChar_four (by omega), code]
  simp only [List.map_cons, List.map_nil, List.cons.injEq, and_true]
  omega

theorem three_accepted {b c1 c2 : UInt8}
    (accepted : ((if b == 0xE0 then (0xA0 : UInt8) else 0x80) ≤ c1 &&
      c1 ≤ (if b == 0xED then (0x9F : UInt8) else 0xBF) && isCont c2) = true) :
    (0x80 ≤ c1.toNat ∧ c1.toNat ≤ 0xBF) ∧ (b.toNat = 0xE0 → 0xA0 ≤ c1.toNat) ∧
      (b.toNat = 0xED → c1.toNat ≤ 0x9F) ∧ isCont c2 = true := by
  simp only [Bool.and_eq_true, decide_eq_true_eq, UInt8.le_iff_toNat_le] at accepted
  obtain ⟨⟨above, below⟩, third⟩ := accepted
  have byteE0 : b.toNat = 0xE0 ↔ (b == 0xE0) = true := by
    rw [beq_iff_eq, ← UInt8.toNat_inj]; rfl
  have byteED : b.toNat = 0xED ↔ (b == 0xED) = true := by
    rw [beq_iff_eq, ← UInt8.toNat_inj]; rfl
  refine ⟨⟨?_, ?_⟩, fun isE0 => ?_, fun isED => ?_, third⟩
  · split at above <;> simp at above <;> omega
  · split at below <;> simp at below <;> omega
  · rw [if_pos (byteE0.mp isE0)] at above
    simpa using above
  · rw [if_pos (byteED.mp isED)] at below
    simpa using below

theorem four_accepted {b c1 c2 c3 : UInt8}
    (accepted : ((if b == 0xF0 then (0x90 : UInt8) else 0x80) ≤ c1 &&
      c1 ≤ (if b == 0xF4 then (0x8F : UInt8) else 0xBF) && isCont c2 && isCont c3) = true) :
    (0x80 ≤ c1.toNat ∧ c1.toNat ≤ 0xBF) ∧ (b.toNat = 0xF0 → 0x90 ≤ c1.toNat) ∧
      (b.toNat = 0xF4 → c1.toNat ≤ 0x8F) ∧ isCont c2 = true ∧ isCont c3 = true := by
  simp only [Bool.and_eq_true, decide_eq_true_eq, UInt8.le_iff_toNat_le] at accepted
  obtain ⟨⟨⟨above, below⟩, third⟩, fourth⟩ := accepted
  have byteF0 : b.toNat = 0xF0 ↔ (b == 0xF0) = true := by
    rw [beq_iff_eq, ← UInt8.toNat_inj]; rfl
  have byteF4 : b.toNat = 0xF4 ↔ (b == 0xF4) = true := by
    rw [beq_iff_eq, ← UInt8.toNat_inj]; rfl
  refine ⟨⟨?_, ?_⟩, fun isF0 => ?_, fun isF4 => ?_, third, fourth⟩
  · split at above <;> simp at above <;> omega
  · split at below <;> simp at below <;> omega
  · rw [if_pos (byteF0.mp isF0)] at above
    simpa using above
  · rw [if_pos (byteF4.mp isF4)] at below
    simpa using below

theorem three_accepted_of {b c1 c2 : UInt8} (second : 0x80 ≤ c1.toNat ∧ c1.toNat ≤ 0xBF)
    (shortest : b.toNat = 0xE0 → 0xA0 ≤ c1.toNat) (notSurrogate : b.toNat = 0xED → c1.toNat ≤ 0x9F)
    (third : isCont c2 = true) :
    ((if b == 0xE0 then (0xA0 : UInt8) else 0x80) ≤ c1 &&
      c1 ≤ (if b == 0xED then (0x9F : UInt8) else 0xBF) && isCont c2) = true := by
  simp only [Bool.and_eq_true, decide_eq_true_eq, UInt8.le_iff_toNat_le, third, and_true]
  have byteE0 : (b == 0xE0) = true → b.toNat = 0xE0 := fun same => by
    rw [beq_iff_eq] at same; rw [same]; rfl
  have byteED : (b == 0xED) = true → b.toNat = 0xED := fun same => by
    rw [beq_iff_eq] at same; rw [same]; rfl
  constructor
  · split
    · next isE0 => simpa using shortest (byteE0 isE0)
    · simpa using second.1
  · split
    · next isED => simpa using notSurrogate (byteED isED)
    · simpa using second.2

theorem four_accepted_of {b c1 c2 c3 : UInt8} (second : 0x80 ≤ c1.toNat ∧ c1.toNat ≤ 0xBF)
    (shortest : b.toNat = 0xF0 → 0x90 ≤ c1.toNat) (inRange : b.toNat = 0xF4 → c1.toNat ≤ 0x8F)
    (third : isCont c2 = true) (fourth : isCont c3 = true) :
    ((if b == 0xF0 then (0x90 : UInt8) else 0x80) ≤ c1 &&
      c1 ≤ (if b == 0xF4 then (0x8F : UInt8) else 0xBF) && isCont c2 && isCont c3) = true := by
  simp only [Bool.and_eq_true, decide_eq_true_eq, UInt8.le_iff_toNat_le, third, fourth, and_true]
  have byteF0 : (b == 0xF0) = true → b.toNat = 0xF0 := fun same => by
    rw [beq_iff_eq] at same; rw [same]; rfl
  have byteF4 : (b == 0xF4) = true → b.toNat = 0xF4 := fun same => by
    rw [beq_iff_eq] at same; rw [same]; rfl
  constructor
  · split
    · next isF0 => simpa using shortest (byteF0 isF0)
    · simpa using second.1
  · split
    · next isF4 => simpa using inRange (byteF4 isF4)
    · simpa using second.2

/-! ### Decoding -/

@[simp] theorem decode_nil : decode [] = [] := by
  rw [decode]

theorem decode_ne_nil {s : Bytes} (nonempty : s ≠ []) : decode s ≠ [] := by
  obtain ⟨b, rest, rfl⟩ := List.exists_cons_of_ne_nil nonempty
  rw [decode]
  exact List.cons_ne_nil _ _

theorem bytes_head (b : UInt8) (rest : Bytes) :
    (head b rest).1.bytes ++ rest.drop (head b rest).2 = b :: rest := by
  unfold head
  by_cases ascii : b < 0x80
  · rw [if_pos ascii]
    simp [Utf8Piece.bytes, encode_one (UInt8.lt_iff_toNat_lt.mp ascii)]
  rw [if_neg ascii]
  by_cases invalid : b < 0xC2
  · rw [if_pos invalid]; rfl
  rw [if_neg invalid]
  have leadLow : 0xC2 ≤ b.toNat := by
    rw [UInt8.lt_iff_toNat_lt] at invalid; simp at invalid; omega
  by_cases two : b < 0xE0
  · rw [if_pos two]
    rcases rest with _ | ⟨c1, r⟩
    · rfl
    · dsimp only
      split
      · next second =>
        have lead : 0xC2 ≤ b.toNat ∧ b.toNat < 0xE0 := ⟨leadLow, UInt8.lt_iff_toNat_lt.mp two⟩
        simp only [Utf8Piece.bytes]
        rw [encode_two lead second]
        rfl
      · rfl
  rw [if_neg two]
  have leadTwo : 0xE0 ≤ b.toNat := by
    rw [UInt8.lt_iff_toNat_lt] at two; simp at two; omega
  by_cases three : b < 0xF0
  · rw [if_pos three]
    rcases rest with _ | ⟨c1, _ | ⟨c2, r⟩⟩
    · rfl
    · rfl
    · dsimp only
      by_cases accepted : ((if b == 0xE0 then (0xA0 : UInt8) else 0x80) ≤ c1 &&
          c1 ≤ (if b == 0xED then (0x9F : UInt8) else 0xBF) && isCont c2) = true
      · rw [if_pos accepted]
        obtain ⟨second, shortest, notSurrogate, third⟩ := three_accepted accepted
        have lead : 0xE0 ≤ b.toNat ∧ b.toNat < 0xF0 := ⟨leadTwo, UInt8.lt_iff_toNat_lt.mp three⟩
        simp only [Utf8Piece.bytes]
        rw [encode_three lead second shortest notSurrogate third]
        rfl
      · rw [if_neg accepted]
        rfl
  rw [if_neg three]
  have leadThree : 0xF0 ≤ b.toNat := by
    rw [UInt8.lt_iff_toNat_lt] at three; simp at three; omega
  by_cases four : b < 0xF5
  · rw [if_pos four]
    rcases rest with _ | ⟨c1, _ | ⟨c2, _ | ⟨c3, r⟩⟩⟩
    · rfl
    · rfl
    · rfl
    · dsimp only
      by_cases accepted : ((if b == 0xF0 then (0x90 : UInt8) else 0x80) ≤ c1 &&
          c1 ≤ (if b == 0xF4 then (0x8F : UInt8) else 0xBF) && isCont c2 && isCont c3) = true
      · rw [if_pos accepted]
        obtain ⟨second, shortest, inRange, third, fourth⟩ := four_accepted accepted
        have lead : 0xF0 ≤ b.toNat ∧ b.toNat < 0xF5 := ⟨leadThree, UInt8.lt_iff_toNat_lt.mp four⟩
        simp only [Utf8Piece.bytes]
        rw [encode_four lead second shortest inRange third fourth]
        rfl
      · rw [if_neg accepted]
        rfl
  · rw [if_neg four]
    rfl

theorem join_decode (s : Bytes) : join (decode s) = s := by
  induction s using decode.induct with
  | case1 => rw [decode_nil]; rfl
  | case2 b rest ih =>
    rw [decode, join, List.flatMap_cons, ← join, ih, bytes_head]

theorem head_append (b : UInt8) (rest t : Bytes) (boundary : ∀ x ∈ t.head?, isCont x = false) :
    head b (rest ++ t) = head b rest := by
  rcases t with _ | ⟨x, t⟩
  · rw [List.append_nil]
  have stop : isCont x = false := boundary x rfl
  -- the boundary byte is never in the range of a byte after a lead byte
  have notSecond : ∀ (lo hi : UInt8) {more : Bool},
      (0x80 ≤ lo.toNat ∧ hi.toNat ≤ 0xBF) → (lo ≤ x && x ≤ hi && more) = false := by
    intro lo hi more bounds
    rw [Bool.eq_false_iff]
    intro inRange
    simp only [Bool.and_eq_true, decide_eq_true_eq, UInt8.le_iff_toNat_le] at inRange
    have : isCont x = true := (isCont_iff x).mpr ⟨by omega, by omega⟩
    rw [stop] at this
    cases this
  unfold head
  by_cases ascii : b < 0x80
  · rw [if_pos ascii, if_pos ascii]
  rw [if_neg ascii, if_neg ascii]
  by_cases invalid : b < 0xC2
  · rw [if_pos invalid, if_pos invalid]
  rw [if_neg invalid, if_neg invalid]
  by_cases two : b < 0xE0
  · rw [if_pos two, if_pos two]
    rcases rest with _ | ⟨c1, r⟩
    · simp [stop]
    · rfl
  rw [if_neg two, if_neg two]
  by_cases three : b < 0xF0
  · rw [if_pos three, if_pos three]
    rcases rest with _ | ⟨c1, _ | ⟨c2, r⟩⟩
    · rcases t with _ | ⟨y, t⟩
      · rfl
      · simp only [List.nil_append]
        rw [notSecond (if b == 0xE0 then 0xA0 else 0x80) (if b == 0xED then 0x9F else 0xBF)
          (by constructor <;> split <;> decide)]
        rfl
    · simp [stop]
    · rfl
  rw [if_neg three, if_neg three]
  by_cases four : b < 0xF5
  · rw [if_pos four, if_pos four]
    rcases rest with _ | ⟨c1, _ | ⟨c2, _ | ⟨c3, r⟩⟩⟩
    · rcases t with _ | ⟨y, _ | ⟨z, t⟩⟩
      · rfl
      · rfl
      · simp only [List.nil_append]
        rw [notSecond (if b == 0xF0 then 0x90 else 0x80) (if b == 0xF4 then 0x8F else 0xBF)
          (by constructor <;> split <;> decide)]
        rfl
    · rcases t with _ | ⟨y, t⟩
      · rfl
      · simp [stop]
    · simp [stop]
    · rfl
  · rw [if_neg four, if_neg four]

theorem head_snd_le (b : UInt8) (rest : Bytes) : (head b rest).2 ≤ rest.length := by
  unfold head
  repeat' split
  -- the ranges of the second byte are bound by `let`; open them and split what they guard
  all_goals dsimp only
  repeat' split
  all_goals simp

theorem decode_append (s t : Bytes) (boundary : ∀ x ∈ t.head?, isCont x = false) :
    decode (s ++ t) = decode s ++ decode t := by
  induction s using decode.induct with
  | case1 => rw [List.nil_append, decode_nil, List.nil_append]
  | case2 b rest ih =>
    rw [List.cons_append, decode, decode, head_append b rest t boundary,
      List.drop_append_of_le_length (head_snd_le b rest), ih, List.cons_append]

theorem decode_utf8EncodeChar_append (c : Char) (t : Bytes) :
    decode (String.utf8EncodeChar c ++ t) = .char c :: decode t := by
  have back : ∀ {n : Nat}, n = c.toNat → scalar n = c := fun same => same ▸ Char.ofNat_toNat c
  have bound : c.toNat < 0x110000 := by
    rcases c.valid with below | ⟨-, below⟩
    · exact Nat.lt_trans below (by decide)
    · exact below
  have notSurrogate : c.toNat < 0xD800 ∨ 0xDFFF < c.toNat := by
    rcases c.valid with below | ⟨above, -⟩
    · exact .inl below
    · exact .inr above
  rcases Nat.lt_or_ge c.toNat 0x80 with one | atLeastTwo
  · obtain ⟨b0, l, written, first, none⟩ := List.map_eq_cons_iff.mp (utf8EncodeChar_one one)
    obtain rfl := List.map_eq_nil_iff.mp none
    have ascii : b0 < 0x80 := UInt8.lt_iff_toNat_lt.mpr (by simp; omega)
    rw [written, List.singleton_append, decode]
    unfold head
    rw [if_pos ascii, back first]
    rfl
  rcases Nat.lt_or_ge c.toNat 0x800 with two | atLeastThree
  · obtain ⟨b0, l, written, first, more⟩ := List.map_eq_cons_iff.mp (utf8EncodeChar_two atLeastTwo two)
    obtain ⟨b1, l, rfl, second, none⟩ := List.map_eq_cons_iff.mp more
    obtain rfl := List.map_eq_nil_iff.mp none
    rw [written, List.cons_append, List.singleton_append, decode]
    unfold head
    rw [if_neg (by rw [UInt8.lt_iff_toNat_lt]; simp; omega),
      if_neg (by rw [UInt8.lt_iff_toNat_lt]; simp; omega),
      if_pos (by rw [UInt8.lt_iff_toNat_lt]; simp; omega)]
    dsimp only
    rw [if_pos ((isCont_iff b1).mpr (by omega)), back (by rw [toNat_and_31, low_eq]; omega)]
    rfl
  rcases Nat.lt_or_ge c.toNat 0x10000 with three | four
  · obtain ⟨b0, l, written, first, more⟩ :=
      List.map_eq_cons_iff.mp (utf8EncodeChar_three atLeastThree three)
    obtain ⟨b1, l, rfl, second, more⟩ := List.map_eq_cons_iff.mp more
    obtain ⟨b2, l, rfl, third, none⟩ := List.map_eq_cons_iff.mp more
    obtain rfl := List.map_eq_nil_iff.mp none
    rw [written, List.cons_append, List.cons_append, List.singleton_append, decode]
    unfold head
    rw [if_neg (by rw [UInt8.lt_iff_toNat_lt]; simp; omega),
      if_neg (by rw [UInt8.lt_iff_toNat_lt]; simp; omega),
      if_neg (by rw [UInt8.lt_iff_toNat_lt]; simp; omega),
      if_pos (by rw [UInt8.lt_iff_toNat_lt]; simp; omega)]
    dsimp only
    rw [if_pos (three_accepted_of (by omega) (by omega) (by omega) ((isCont_iff b2).mpr (by omega))),
      back (by rw [toNat_and_15, low_eq, low_eq]; omega)]
    rfl
  · obtain ⟨b0, l, written, first, more⟩ := List.map_eq_cons_iff.mp (utf8EncodeChar_four four)
    obtain ⟨b1, l, rfl, second, more⟩ := List.map_eq_cons_iff.mp more
    obtain ⟨b2, l, rfl, third, more⟩ := List.map_eq_cons_iff.mp more
    obtain ⟨b3, l, rfl, fourth, none⟩ := List.map_eq_cons_iff.mp more
    obtain rfl := List.map_eq_nil_iff.mp none
    rw [written, List.cons_append, List.cons_append, List.cons_append, List.singleton_append, decode]
    unfold head
    rw [if_neg (by rw [UInt8.lt_iff_toNat_lt]; simp; omega),
      if_neg (by rw [UInt8.lt_iff_toNat_lt]; simp; omega),
      if_neg (by rw [UInt8.lt_iff_toNat_lt]; simp; omega),
      if_neg (by rw [UInt8.lt_iff_toNat_lt]; simp; omega),
      if_pos (by rw [UInt8.lt_iff_toNat_lt]; simp; omega)]
    dsimp only
    rw [if_pos (four_accepted_of (by omega) (by omega) (by omega) ((isCont_iff b2).mpr (by omega))
        ((isCont_iff b3).mpr (by omega))),
      back (by rw [toNat_and_7, low_eq, low_eq, low_eq]; omega)]
    rfl

/-! ### Encoded characters -/

def encode (cs : List Char) : Bytes := cs.flatMap String.utf8EncodeChar

@[simp] theorem encode_nil : encode [] = [] := rfl

theorem encode_cons (c : Char) (cs : List Char) :
    encode (c :: cs) = String.utf8EncodeChar c ++ encode cs := List.flatMap_cons

theorem encode_append (cs ds : List Char) : encode (cs ++ ds) = encode cs ++ encode ds :=
  List.flatMap_append

theorem decode_encode_append (cs : List Char) (t : Bytes) :
    decode (encode cs ++ t) = cs.map .char ++ decode t := by
  induction cs with
  | nil => rfl
  | cons c cs ih =>
    rw [encode_cons, List.append_assoc, decode_utf8EncodeChar_append, ih, List.map_cons,
      List.cons_append]

theorem decode_encode (cs : List Char) : decode (encode cs) = cs.map .char := by
  rw [← List.append_nil (encode cs), decode_encode_append, decode_nil, List.append_nil]

theorem isCont_head_encode_append (cs : List Char) (t : Bytes)
    (boundary : ∀ x ∈ t.head?, isCont x = false) :
    ∀ x ∈ (encode cs ++ t).head?, isCont x = false := by
  cases cs with
  | nil => exact boundary
  | cons c cs =>
    obtain ⟨b, rest, written⟩ := List.exists_cons_of_ne_nil (String.utf8EncodeChar_ne_nil (c := c))
    have first := isCont_head_utf8EncodeChar c
    rw [written] at first
    rw [encode_cons, written]
    exact first

theorem decode_append_encode (m : Bytes) (w : List Char) :
    decode (m ++ encode w) = decode m ++ w.map .char := by
  have boundary := isCont_head_encode_append w [] (by simp)
  rw [List.append_nil] at boundary
  rw [decode_append m _ boundary, decode_encode]

theorem decode_encode_around (w : List Char) (m : Bytes) (w' : List Char) :
    decode (encode w ++ m ++ encode w') = w.map .char ++ decode m ++ w'.map .char := by
  rw [List.append_assoc, decode_encode_append, decode_append_encode, List.append_assoc]

end Utf8

theorem Utf8Piece.bytes_ne_nil (p : Utf8Piece) : p.bytes ≠ [] := by
  cases p with
  | char c => exact String.utf8EncodeChar_ne_nil
  | stray b => exact List.cons_ne_nil _ _

namespace Utf8

theorem join_append (ps qs : List Utf8Piece) :
    join (ps ++ qs) = join ps ++ join qs :=
  List.flatMap_append

theorem join_eq_nil_iff {ps : List Utf8Piece} : join ps = [] ↔ ps = [] := by
  rw [join, List.flatMap_eq_nil_iff]
  constructor
  · intro empty
    cases ps with
    | nil => rfl
    | cons p ps => exact absurd (empty p List.mem_cons_self) p.bytes_ne_nil
  · rintro rfl
    simp

end Utf8

namespace Blank

/-! ### Trimming -/

/-- The pieces trimming keeps: from the first to the last piece that is not blank. -/
def strip (ps : List Utf8Piece) : List Utf8Piece :=
  ((ps.dropWhile isBlankPiece).reverse.dropWhile isBlankPiece).reverse

theorem trim_eq_join_strip (s : Bytes) : trim s = Utf8.join (strip (Utf8.decode s)) := rfl

@[simp] theorem trim_nil : trim [] = [] := by
  rw [trim_eq_join_strip, Utf8.decode_nil]
  rfl

/-- Neither the first nor the last piece is blank. -/
def Unpadded (ps : List Utf8Piece) : Prop :=
  (∀ p ∈ ps.head?, isBlankPiece p = false) ∧ (∀ p ∈ ps.getLast?, isBlankPiece p = false)

theorem dropWhile_of_head {ps : List Utf8Piece} (first : ∀ p ∈ ps.head?, isBlankPiece p = false) :
    ps.dropWhile isBlankPiece = ps := by
  cases ps with
  | nil => rfl
  | cons p ps => exact List.dropWhile_cons_of_neg (by simp [first p rfl])

theorem not_blank_of_mem_head?_dropWhile {ps : List Utf8Piece} {p : Utf8Piece}
    (first : p ∈ (ps.dropWhile isBlankPiece).head?) : isBlankPiece p = false := by
  have kept := List.head?_dropWhile_not isBlankPiece ps
  rw [Option.mem_def.mp first] at kept
  exact kept

theorem strip_of_unpadded {ps : List Utf8Piece} (unpadded : Unpadded ps) : strip ps = ps := by
  obtain ⟨first, last⟩ := unpadded
  rw [strip, dropWhile_of_head first, dropWhile_of_head (by rwa [List.head?_reverse]),
    List.reverse_reverse]

theorem unpadded_strip (ps : List Utf8Piece) : Unpadded (strip ps) := by
  obtain ⟨dropped, kept⟩ := List.dropWhile_suffix isBlankPiece
    (l := (ps.dropWhile isBlankPiece).reverse)
  constructor
  · -- the first kept piece is the last of the second drop, hence the first of the first drop
    intro p first
    rw [strip, List.head?_reverse] at first
    have firstDropped : p ∈ (ps.dropWhile isBlankPiece).head? := by
      rw [← List.getLast?_reverse, ← kept, List.getLast?_append, Option.mem_def.mp first]
      rfl
    exact not_blank_of_mem_head?_dropWhile firstDropped
  · intro p last
    rw [strip, List.getLast?_reverse] at last
    exact not_blank_of_mem_head?_dropWhile last

theorem exists_eq_strip (ps : List Utf8Piece) : ∃ front back, ps = front ++ strip ps ++ back := by
  obtain ⟨front, first⟩ := List.dropWhile_suffix isBlankPiece (l := ps)
  obtain ⟨back, second⟩ := List.dropWhile_suffix isBlankPiece
    (l := (ps.dropWhile isBlankPiece).reverse)
  refine ⟨front, back.reverse, ?_⟩
  rw [strip, List.append_assoc, ← List.reverse_append, second, List.reverse_reverse, first]

theorem strip_blank_around (front ps back : List Utf8Piece)
    (blankFront : ∀ p ∈ front, isBlankPiece p = true) (blankBack : ∀ p ∈ back, isBlankPiece p = true) :
    strip (front ++ ps ++ back) = strip ps := by
  rw [strip, strip, List.append_assoc, List.dropWhile_append_of_pos blankFront]
  by_cases allBlank : ∀ p ∈ ps, isBlankPiece p = true
  · rw [List.dropWhile_append_of_pos allBlank, List.dropWhile_eq_nil_iff.mpr blankBack,
      List.dropWhile_eq_nil_iff.mpr allBlank]
  · have kept : ps.dropWhile isBlankPiece ≠ [] := fun none =>
      allBlank (List.dropWhile_eq_nil_iff.mp none)
    rw [List.dropWhile_append, if_neg (by simpa using kept), List.reverse_append,
      List.dropWhile_append_of_pos (fun p mem => blankBack p (List.mem_reverse.mp mem))]

theorem unpadded_append {ps qs : List Utf8Piece} (hps : ps ≠ []) (hqs : qs ≠ [])
    (first : ∀ p ∈ ps.head?, isBlankPiece p = false) (last : ∀ p ∈ qs.getLast?, isBlankPiece p = false) :
    Unpadded (ps ++ qs) := by
  rw [Unpadded, List.head?_append_of_ne_nil _ hps, List.getLast?_append_of_ne_nil _ hqs]
  exact ⟨first, last⟩

theorem trim_eq_self_iff (s : Bytes) : trim s = s ↔ Unpadded (Utf8.decode s) := by
  constructor
  · intro same
    obtain ⟨front, back, split⟩ := exists_eq_strip (Utf8.decode s)
    -- the kept bytes are as many as all of them, so nothing was trimmed at either end
    have lengths : (Utf8.join (Utf8.decode s)).length =
        (Utf8.join (strip (Utf8.decode s))).length := by
      rw [Utf8.join_decode, ← trim_eq_join_strip, same]
    conv at lengths => lhs; rw [split]
    rw [Utf8.join_append, Utf8.join_append, List.length_append, List.length_append] at lengths
    have noFront : front = [] := Utf8.join_eq_nil_iff.mp (List.eq_nil_of_length_eq_zero (by omega))
    have noBack : back = [] := Utf8.join_eq_nil_iff.mp (List.eq_nil_of_length_eq_zero (by omega))
    rw [split, noFront, noBack, List.nil_append, List.append_nil]
    exact unpadded_strip _
  · intro unpadded
    rw [trim_eq_join_strip, strip_of_unpadded unpadded, Utf8.join_decode]

theorem trim_encode_around (w : List Char) (m : Bytes) (w' : List Char)
    (blank : ∀ c ∈ w ++ w', isBlank c = true) :
    trim (Utf8.encode w ++ m ++ Utf8.encode w') = trim m := by
  have blankPieces : ∀ cs : List Char, (∀ c ∈ cs, isBlank c = true) →
      ∀ p ∈ cs.map .char, isBlankPiece p = true := by
    intro cs blankChars p mem
    obtain ⟨c, inChars, rfl⟩ := List.mem_map.mp mem
    exact blankChars c inChars
  rw [trim_eq_join_strip, Utf8.decode_encode_around,
    strip_blank_around _ _ _ (blankPieces w fun c mem => blank c (List.mem_append_left _ mem))
      (blankPieces w' fun c mem => blank c (List.mem_append_right _ mem)),
    ← trim_eq_join_strip]

theorem toNat_le_of_isBlank {c : Char} (blank : isBlank c = true) (ascii : c.toNat < 0x80) :
    c.toNat ≤ 32 := by
  simp only [isBlank, Bool.or_eq_true, Bool.and_eq_true, decide_eq_true_eq, beq_iff_eq] at blank
  omega

theorem not_mem_encode_of_isBlank {w : List Char} (blank : ∀ c ∈ w, isBlank c = true) {b : UInt8}
    (printable : 32 < b.toNat ∧ b.toNat < 0x80) : b ∉ Utf8.encode w := by
  intro mem
  obtain ⟨c, inW, inChar⟩ := List.mem_flatMap.mp mem
  rcases Utf8.toNat_of_mem_utf8EncodeChar inChar with same | wide
  · have := toNat_le_of_isBlank (blank c inW) (by omega)
    omega
  · omega

end Blank

end ProcessTitle
