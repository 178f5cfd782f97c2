import Mathlib.Tactic.Common
import SwarmDeploy.Proofs.Basic
import SwarmDeploy.Text.Utf8

/-! The bytes of characters are read as those characters, and no other bytes are read.
The reader tells by the first byte how many follow, and by the second one whether the sequence is
the shortest of its character. Bytes are in the order of their characters. -/

namespace SwarmDeploy.Text.Utf8

variable {b b₁ b₂ b₃ : UInt8} {rest : List UInt8}

theorem isTail_iff : isTail b = true ↔ 0x80 ≤ b.toNat ∧ b.toNat ≤ 0xBF := by
  simp [isTail, UInt8.le_iff_toNat_le]

theorem next_one (small : b.toNat < 0x80) : next b rest = .character (Char.ofNat b.toNat) rest := by
  unfold next
  rw [if_pos (by simpa [UInt8.lt_iff_toNat_lt] using small)]

theorem following_two (least : 0xC2 ≤ b.toNat) (most : b.toNat < 0xE0) :
    following b = some (1, 0x80, 0xBF) := by
  unfold following
  rw [if_neg (by simpa [UInt8.lt_iff_toNat_lt] using least),
    if_pos (by simpa [UInt8.lt_iff_toNat_lt] using most)]

theorem next_two (least : 0xC2 ≤ b.toNat) (most : b.toNat < 0xE0) (tail : isTail b₁ = true) :
    next b (b₁ :: rest) =
      .character (Char.ofNat ((b.toNat - 0xC0) * 64 + (b₁.toNat - 0x80))) rest := by
  have second := isTail_iff.1 tail
  unfold next
  rw [if_neg (by simp [UInt8.lt_iff_toNat_lt]; omega), following_two least most]
  simp only
  rw [if_pos (by simpa [UInt8.le_iff_toNat_le] using second)]
  rfl

/-- The range of the second byte keeps out longer forms and surrogates. -/
theorem following_three (least : 0xE0 ≤ b.toNat) (most : b.toNat < 0xF0) (tail : isTail b₁ = true)
    (shortest : 0x20 ≤ (b.toNat - 0xE0) * 64 + (b₁.toNat - 0x80))
    (noSurrogate : (b.toNat - 0xE0) * 64 + (b₁.toNat - 0x80) < 0x360 ∨
      0x380 ≤ (b.toNat - 0xE0) * 64 + (b₁.toNat - 0x80)) :
    ∃ low high, following b = some (2, low, high) ∧ low ≤ b₁ ∧ b₁ ≤ high := by
  have second := isTail_iff.1 tail
  unfold following
  rw [if_neg (by simp [UInt8.lt_iff_toNat_lt]; omega),
    if_neg (by simp [UInt8.lt_iff_toNat_lt]; omega)]
  simp only [← UInt8.toNat_inj, UInt8.le_iff_toNat_le, UInt8.lt_iff_toNat_lt, UInt8.reduceToNat]
  split
  · exact ⟨_, _, rfl, by simp; omega, by simp; omega⟩
  · split
    · exact ⟨_, _, rfl, by simp; omega, by simp; omega⟩
    · exact ⟨_, _, rfl, by simp; omega, by simp; omega⟩

theorem next_three (least : 0xE0 ≤ b.toNat) (most : b.toNat < 0xF0) (tail : isTail b₁ = true)
    (tail₂ : isTail b₂ = true) (shortest : 0x20 ≤ (b.toNat - 0xE0) * 64 + (b₁.toNat - 0x80))
    (noSurrogate : (b.toNat - 0xE0) * 64 + (b₁.toNat - 0x80) < 0x360 ∨
      0x380 ≤ (b.toNat - 0xE0) * 64 + (b₁.toNat - 0x80)) :
    next b (b₁ :: b₂ :: rest) = .character (Char.ofNat
      (((b.toNat - 0xE0) * 64 + (b₁.toNat - 0x80)) * 64 + (b₂.toNat - 0x80))) rest := by
  obtain ⟨low, high, follow, second⟩ := following_three least most tail shortest noSurrogate
  unfold next
  rw [if_neg (by simp [UInt8.lt_iff_toNat_lt]; omega), follow]
  simp only
  rw [if_pos second]
  simp only [tails, tail₂, if_true, Nat.reduceSub, Nat.reduceEqDiff, if_false]

theorem following_four (least : 0xF0 ≤ b.toNat) (tail : isTail b₁ = true)
    (shortest : 0x10 ≤ (b.toNat - 0xF0) * 64 + (b₁.toNat - 0x80))
    (most : (b.toNat - 0xF0) * 64 + (b₁.toNat - 0x80) < 0x110) :
    ∃ low high, following b = some (3, low, high) ∧ low ≤ b₁ ∧ b₁ ≤ high := by
  have second := isTail_iff.1 tail
  unfold following
  rw [if_neg (by simp [UInt8.lt_iff_toNat_lt]; omega),
    if_neg (by simp [UInt8.lt_iff_toNat_lt]; omega)]
  simp only [← UInt8.toNat_inj, UInt8.le_iff_toNat_le, UInt8.lt_iff_toNat_lt, UInt8.reduceToNat]
  rw [if_neg (by omega), if_neg (by omega), if_neg (by omega)]
  split
  · exact ⟨_, _, rfl, by simp; omega, by simp; omega⟩
  · split
    · exact ⟨_, _, rfl, by simp; omega, by simp; omega⟩
    · rw [if_pos (by omega)]
      exact ⟨_, _, rfl, by simp; omega, by simp; omega⟩

theorem next_four (least : 0xF0 ≤ b.toNat) (tail : isTail b₁ = true) (tail₂ : isTail b₂ = true)
    (tail₃ : isTail b₃ = true) (shortest : 0x10 ≤ (b.toNat - 0xF0) * 64 + (b₁.toNat - 0x80))
    (most : (b.toNat - 0xF0) * 64 + (b₁.toNat - 0x80) < 0x110) :
    next b (b₁ :: b₂ :: b₃ :: rest) = .character (Char.ofNat
      ((((b.toNat - 0xF0) * 64 + (b₁.toNat - 0x80)) * 64 + (b₂.toNat - 0x80)) * 64 +
        (b₃.toNat - 0x80))) rest := by
  obtain ⟨low, high, follow, second⟩ := following_four least tail shortest most
  unfold next
  rw [if_neg (by simp [UInt8.lt_iff_toNat_lt]; omega), follow]
  simp only
  rw [if_pos second]
  simp only [tails, tail₂, tail₃, if_true, Nat.reduceSub, Nat.reduceEqDiff, if_false]

theorem encodeChar_of_ascii {c : Char} (ascii : c.toNat < 0x80) :
    String.utf8EncodeChar c = [UInt8.ofNat c.toNat] := by
  have small : c.val.toNat ≤ 0x7F := Nat.le_of_lt_succ ascii
  unfold String.utf8EncodeChar
  exact if_pos small

theorem le_of_mem_encodeChar {c : Char} (large : 0x80 ≤ c.toNat) :
    ∀ b ∈ String.utf8EncodeChar c, 0x80 ≤ b.toNat := by
  have notSmall : ¬c.val.toNat ≤ 0x7F := Nat.not_le.2 large
  intro b mem
  simp only [String.utf8EncodeChar, notSmall, if_false] at mem
  split at mem
  · simp only [List.mem_cons, List.not_mem_nil, or_false] at mem
    rcases mem with rfl | rfl <;> simp <;> omega
  · split at mem
    · simp only [List.mem_cons, List.not_mem_nil, or_false] at mem
      rcases mem with rfl | rfl | rfl <;> simp <;> omega
    · simp only [List.mem_cons, List.not_mem_nil, or_false] at mem
      rcases mem with rfl | rfl | rfl | rfl <;> simp <;> omega

theorem toNat_byte {n : Nat} (small : n < 0x100) : (UInt8.ofNat n).toNat = n :=
  UInt8.toNat_ofNat_of_lt' small

theorem toNat_tail (n : Nat) : (UInt8.ofNat (n % 0x40 + 0x80)).toNat = n % 0x40 + 0x80 :=
  toNat_byte (by omega)

theorem isTail_tail (n : Nat) : isTail (UInt8.ofNat (n % 0x40 + 0x80)) = true := by
  rw [isTail_iff, toNat_tail]
  omega

theorem next_encodeChar (c : Char) (rest : List UInt8) :
    ∃ b bs, String.utf8EncodeChar c = b :: bs ∧ next b (bs ++ rest) = .character c rest := by
  have valid : c.toNat < 0xD800 ∨ 0xDFFF < c.toNat ∧ c.toNat < 0x110000 := c.valid
  have back : Char.ofNat c.toNat = c := Char.ofNat_toNat c
  have value : c.val.toNat = c.toNat := rfl
  simp only [String.utf8EncodeChar, value]
  split
  · have byte : (UInt8.ofNat c.toNat).toNat = c.toNat := toNat_byte (by omega)
    refine ⟨_, _, rfl, ?_⟩
    rw [List.nil_append, next_one (by omega), byte, back]
  · split
    · have lead := toNat_byte (n := c.toNat / 64 % 0x20 + 0xC0) (by omega)
      have joined : (c.toNat / 64 % 0x20 + 0xC0 - 0xC0) * 64 + (c.toNat % 0x40 + 0x80 - 0x80) =
          c.toNat := by omega
      refine ⟨_, _, rfl, ?_⟩
      rw [List.cons_append, List.nil_append,
        next_two (by omega) (by omega) (isTail_tail _), lead, toNat_tail, joined, back]
    · split
      · have lead := toNat_byte (n := c.toNat / 4096 % 0x10 + 0xE0) (by omega)
        have second := toNat_tail (c.toNat / 64)
        have joined : ((c.toNat / 4096 % 0x10 + 0xE0 - 0xE0) * 64 +
            (c.toNat / 64 % 0x40 + 0x80 - 0x80)) * 64 + (c.toNat % 0x40 + 0x80 - 0x80) =
            c.toNat := by omega
        refine ⟨_, _, rfl, ?_⟩
        simp only [List.cons_append, List.nil_append]
        rw [next_three (by omega) (by omega) (isTail_tail _) (isTail_tail _) (by omega) (by omega),
          lead, second, toNat_tail, joined, back]
      · have lead := toNat_byte (n := c.toNat / 262144 % 0x08 + 0xF0) (by omega)
        have second := toNat_tail (c.toNat / 4096)
        have joined : (((c.toNat / 262144 % 0x08 + 0xF0 - 0xF0) * 64 +
            (c.toNat / 4096 % 0x40 + 0x80 - 0x80)) * 64 + (c.toNat / 64 % 0x40 + 0x80 - 0x80)) *
            64 + (c.toNat % 0x40 + 0x80 - 0x80) = c.toNat := by omega
        refine ⟨_, _, rfl, ?_⟩
        simp only [List.cons_append, List.nil_append]
        rw [next_four (by omega) (isTail_tail _) (isTail_tail _) (isTail_tail _) (by omega)
          (by omega), lead, second, toNat_tail, toNat_tail, joined, back]

theorem encode_cons (c : Char) (cs : List Char) :
    encode (c :: cs) = String.utf8EncodeChar c ++ encode cs := rfl

theorem encode_append (cs ds : List Char) : encode (cs ++ ds) = encode cs ++ encode ds :=
  List.flatMap_append

theorem encode_of_ascii {cs : List Char} (ascii : ∀ c ∈ cs, c.toNat < 0x80) :
    encode cs = cs.map fun c => UInt8.ofNat c.toNat := by
  induction cs with
  | nil => rfl
  | cons c cs ih =>
    rw [encode_cons, encodeChar_of_ascii (ascii c List.mem_cons_self),
      ih fun d mem => ascii d (List.mem_cons_of_mem c mem)]
    rfl

theorem decodeFrom_encode {cs : List Char} {fuel index : Nat}
    (enough : (encode cs).length ≤ fuel) : decodeFrom fuel index (encode cs) = .ok cs := by
  induction cs generalizing fuel index with
  | nil => cases fuel <;> rfl
  | cons c cs ih =>
    obtain ⟨b, bs, bytes, first⟩ := next_encodeChar c (encode cs)
    rw [encode_cons, bytes, List.cons_append] at enough ⊢
    cases fuel with
    | zero => simp at enough
    | succ fuel =>
      have fewer : (encode cs).length ≤ fuel := by
        simp only [List.length_cons, List.length_append] at enough
        omega
      simp only [decodeFrom, first, ih fewer]
      rfl

theorem decode_encode (cs : List Char) : decode (encode cs) = .ok cs :=
  decodeFrom_encode (Nat.le_refl _)

theorem encode_inj {cs ds : List Char} : encode cs = encode ds ↔ cs = ds := by
  constructor
  · intro same
    have read := decode_encode cs
    rw [same, decode_encode] at read
    exact (Except.ok.inj read).symm
  · exact fun same => same ▸ rfl

theorem decodeLossyFrom_encode {cs : List Char} {fuel : Nat} (enough : (encode cs).length ≤ fuel) :
    decodeLossyFrom fuel (encode cs) = cs := by
  induction cs generalizing fuel with
  | nil => cases fuel <;> rfl
  | cons c cs ih =>
    obtain ⟨b, bs, bytes, first⟩ := next_encodeChar c (encode cs)
    rw [encode_cons, bytes, List.cons_append] at enough ⊢
    cases fuel with
    | zero => simp at enough
    | succ fuel =>
      have fewer : (encode cs).length ≤ fuel := by
        simp only [List.length_cons, List.length_append] at enough
        omega
      simp only [decodeLossyFrom, first, ih fewer]

theorem decodeLossy_encode (cs : List Char) : decodeLossy (encode cs) = cs :=
  decodeLossyFrom_encode (Nat.le_refl _)

theorem toNat_ofNat_char {n : Nat} (valid : n.isValidChar) : (Char.ofNat n).val.toNat = n := by
  rw [Char.ofNat, dif_pos valid]
  rfl

theorem ofNat_eq {n : Nat} (same : n = b.toNat) : UInt8.ofNat n = b := by
  rw [same, UInt8.ofNat_toNat]

theorem encodeChar_two (least : 0xC2 ≤ b.toNat) (most : b.toNat < 0xE0) (tail : isTail b₁ = true) :
    String.utf8EncodeChar (Char.ofNat ((b.toNat - 0xC0) * 64 + (b₁.toNat - 0x80))) = [b, b₁] := by
  have second := isTail_iff.1 tail
  have value := toNat_ofNat_char (n := (b.toNat - 0xC0) * 64 + (b₁.toNat - 0x80))
    (.inl (by omega))
  simp only [String.utf8EncodeChar, value]
  rw [if_neg (by omega), if_pos (by omega), ofNat_eq (b := b) (by omega),
    ofNat_eq (b := b₁) (by omega)]

theorem encodeChar_three (least : 0xE0 ≤ b.toNat) (most : b.toNat < 0xF0) (tail : isTail b₁ = true)
    (tail₂ : isTail b₂ = true) (shortest : 0x20 ≤ (b.toNat - 0xE0) * 64 + (b₁.toNat - 0x80))
    (noSurrogate : (b.toNat - 0xE0) * 64 + (b₁.toNat - 0x80) < 0x360 ∨
      0x380 ≤ (b.toNat - 0xE0) * 64 + (b₁.toNat - 0x80)) :
    String.utf8EncodeChar (Char.ofNat
      (((b.toNat - 0xE0) * 64 + (b₁.toNat - 0x80)) * 64 + (b₂.toNat - 0x80))) = [b, b₁, b₂] := by
  have second := isTail_iff.1 tail
  have third := isTail_iff.1 tail₂
  have value := toNat_ofNat_char
    (n := ((b.toNat - 0xE0) * 64 + (b₁.toNat - 0x80)) * 64 + (b₂.toNat - 0x80))
    (by unfold Nat.isValidChar; omega)
  simp only [String.utf8EncodeChar, value]
  rw [if_neg (by omega), if_neg (by omega), if_pos (by omega), ofNat_eq (b := b) (by omega),
    ofNat_eq (b := b₁) (by omega), ofNat_eq (b := b₂) (by omega)]

theorem encodeChar_four (least : 0xF0 ≤ b.toNat) (tail : isTail b₁ = true)
    (tail₂ : isTail b₂ = true) (tail₃ : isTail b₃ = true)
    (shortest : 0x10 ≤ (b.toNat - 0xF0) * 64 + (b₁.toNat - 0x80))
    (most : (b.toNat - 0xF0) * 64 + (b₁.toNat - 0x80) < 0x110) :
    String.utf8EncodeChar (Char.ofNat ((((b.toNat - 0xF0) * 64 + (b₁.toNat - 0x80)) * 64 +
      (b₂.toNat - 0x80)) * 64 + (b₃.toNat - 0x80))) = [b, b₁, b₂, b₃] := by
  have second := isTail_iff.1 tail
  have third := isTail_iff.1 tail₂
  have fourth := isTail_iff.1 tail₃
  have value := toNat_ofNat_char (n := (((b.toNat - 0xF0) * 64 + (b₁.toNat - 0x80)) * 64 +
    (b₂.toNat - 0x80)) * 64 + (b₃.toNat - 0x80)) (by unfold Nat.isValidChar; omega)
  simp only [String.utf8EncodeChar, value]
  rw [if_neg (by omega), if_neg (by omega), if_neg (by omega), ofNat_eq (b := b) (by omega),
    ofNat_eq (b := b₁) (by omega), ofNat_eq (b := b₂) (by omega), ofNat_eq (b := b₃) (by omega)]

theorem following_eq_some {n : Nat} {low high : UInt8}
    (follow : following b = some (n, low, high)) :
    (n = 1 ∧ 0xC2 ≤ b.toNat ∧ b.toNat < 0xE0 ∧ 0x80 ≤ low.toNat ∧ high.toNat ≤ 0xBF) ∨
    (n = 2 ∧ 0xE0 ≤ b.toNat ∧ b.toNat < 0xF0 ∧ 0x80 ≤ low.toNat ∧ high.toNat ≤ 0xBF ∧
      (0xE0 < b.toNat ∨ 0xA0 ≤ low.toNat) ∧ (b.toNat ≠ 0xED ∨ high.toNat ≤ 0x9F)) ∨
    (n = 3 ∧ 0xF0 ≤ b.toNat ∧ b.toNat ≤ 0xF4 ∧ 0x80 ≤ low.toNat ∧ high.toNat ≤ 0xBF ∧
      (0xF0 < b.toNat ∨ 0x90 ≤ low.toNat) ∧ (b.toNat < 0xF4 ∨ high.toNat ≤ 0x8F)) := by
  unfold following at follow
  simp only [UInt8.lt_iff_toNat_lt, ← UInt8.toNat_inj, UInt8.reduceToNat] at follow
  split_ifs at follow
  all_goals
    cases follow
    simp only [UInt8.reduceToNat, Nat.reduceEqDiff, true_and, false_and, false_or, or_false]
    omega

theorem exists_tail_of_tails {value length n : Nat} {bytes : List UInt8} {c : Char}
    (read : tails value length (n + 1) bytes = .character c rest) :
    ∃ b bs, bytes = b :: bs ∧ isTail b = true ∧
      tails (value * 64 + (b.toNat - 0x80)) (length + 1) n bs = .character c rest := by
  cases bytes with
  | nil => cases read
  | cons b bs =>
    rw [tails] at read
    split at read
    · rename_i tail
      exact ⟨b, bs, rfl, tail, read⟩
    · cases read

theorem eq_encodeChar_of_next {bytes : List UInt8} {c : Char}
    (read : next b bytes = .character c rest) : b :: bytes = String.utf8EncodeChar c ++ rest := by
  unfold next at read
  split at read
  · rename_i small
    have ascii : b.toNat < 0x80 := by simpa [UInt8.lt_iff_toNat_lt] using small
    obtain ⟨rfl, rfl⟩ := Next.character.inj read
    have value : (Char.ofNat b.toNat).toNat = b.toNat := toNat_ofNat_char (.inl (by omega))
    rw [encodeChar_of_ascii (by rwa [value]), value, UInt8.ofNat_toNat]
    rfl
  · split at read
    · cases read
    · rename_i n low high follow
      split at read
      · cases read
      · rename_i b₁ bs
        split at read
        · rename_i second
          simp only [UInt8.le_iff_toNat_le] at second
          have range := following_eq_some follow
          have tail : isTail b₁ = true := isTail_iff.2 (by omega)
          rcases range with ⟨rfl, least, most, -⟩ | ⟨rfl, least, most, range⟩ |
            ⟨rfl, least, most, range⟩
          · obtain ⟨rfl, rfl⟩ := Next.character.inj read
            rw [if_pos rfl, encodeChar_two least most tail]
            rfl
          · obtain ⟨b₂, bs, rfl, tail₂, read⟩ := exists_tail_of_tails read
            obtain ⟨rfl, rfl⟩ := Next.character.inj read
            rw [if_neg (by decide), if_pos rfl,
              encodeChar_three least most tail tail₂ (by omega) (by omega)]
            rfl
          · obtain ⟨b₂, bs, rfl, tail₂, read⟩ := exists_tail_of_tails read
            obtain ⟨b₃, bs, rfl, tail₃, read⟩ := exists_tail_of_tails read
            obtain ⟨rfl, rfl⟩ := Next.character.inj read
            rw [if_neg (by decide), if_neg (by decide),
              encodeChar_four least tail tail₂ tail₃ (by omega) (by omega)]
            rfl
        · cases read

theorem eq_encode_of_decodeFrom {fuel index : Nat} {bytes : List UInt8} {cs : List Char}
    (decoded : decodeFrom fuel index bytes = .ok cs) : bytes = encode cs := by
  induction fuel generalizing index bytes cs with
  | zero =>
    cases bytes with
    | nil => cases decoded; rfl
    | cons b bytes => cases decoded
  | succ fuel ih =>
    cases bytes with
    | nil => cases decoded; rfl
    | cons b bytes =>
      rw [decodeFrom] at decoded
      split at decoded
      · rename_i c rest read
        obtain ⟨later, behind, rfl⟩ := map_eq_ok_iff.1 decoded
        rw [eq_encodeChar_of_next read, encode_cons, ih behind]
      · cases decoded
      · cases decoded

/-- Bytes are read as a text if and only if they are the bytes of that text. -/
theorem decode_eq_ok_iff {bytes : List UInt8} {cs : List Char} :
    decode bytes = .ok cs ↔ bytes = encode cs :=
  ⟨eq_encode_of_decodeFrom, fun same => same ▸ decode_encode cs⟩

theorem eq_digits {n : Nat} (small : n < 0x200000) :
    n = 262144 * (n / 262144 % 8) + 4096 * (n / 4096 % 64) + 64 * (n / 64 % 64) + n % 64 := by
  omega

theorem encodeChar_append_lt {c d : Char} (less : c < d) (xs ys : List UInt8) :
    String.utf8EncodeChar c ++ xs < String.utf8EncodeChar d ++ ys := by
  have order : c.val.toNat < d.val.toNat := less
  have bound : d.val.toNat < 0x110000 := by
    have valid : d.toNat < 0xD800 ∨ 0xDFFF < d.toNat ∧ d.toNat < 0x110000 := d.valid
    have value : d.val.toNat = d.toNat := rfl
    omega
  simp only [String.utf8EncodeChar]
  generalize c.val.toNat = m at *
  generalize d.val.toNat = n at *
  have digits := eq_digits (n := m) (by omega)
  have digits' := eq_digits (n := n) (by omega)
  repeat' split
  all_goals
    simp (disch := omega) only [List.cons_append, List.nil_append, List.cons_lt_cons_iff,
      UInt8.lt_iff_toNat_lt, ← UInt8.toNat_inj, toNat_byte]
    omega

theorem encode_lt_of_lt {cs ds : List Char} (less : cs < ds) : encode cs < encode ds := by
  induction cs generalizing ds with
  | nil =>
    cases ds with
    | nil => cases less
    | cons d ds =>
      obtain ⟨b, bs, bytes, -⟩ := next_encodeChar d []
      rw [encode_cons, bytes]
      exact List.nil_lt_cons b _
  | cons c cs ih =>
    cases ds with
    | nil => cases less
    | cons d ds =>
      rw [encode_cons, encode_cons]
      rcases List.cons_lt_cons_iff.1 less with first | ⟨rfl, later⟩
      · exact encodeChar_append_lt first _ _
      · exact List.append_left_lt (ih later)

theorem ofString_lt_of_lt {s t : String} (less : s < t) : ofString s < ofString t :=
  encode_lt_of_lt (String.lt_iff.1 less)

end SwarmDeploy.Text.Utf8
