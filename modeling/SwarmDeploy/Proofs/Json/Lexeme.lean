import SwarmDeploy.Proofs.Json.Written
import SwarmDeploy.Proofs.Number.IntegerText

/-! The readers of blanks, literals, numbers and strings take exactly what was written. -/

namespace SwarmDeploy.Json
open SwarmDeploy.Number SwarmDeploy.Text

variable {rest : List UInt8}

theorem skipBlanks_append {blanks : List UInt8} (only : Blanks blanks) (rest : List UInt8) :
    skipBlanks (blanks ++ rest) = skipBlanks rest := by
  induction blanks with
  | nil => rfl
  | cons b blanks ih =>
    rw [List.cons_append, skipBlanks, if_pos (only b List.mem_cons_self)]
    exact ih fun c mem => only c (List.mem_cons_of_mem b mem)

theorem skipBlanks_cons {b : UInt8} (visible : isBlank b = false) (rest : List UInt8) :
    skipBlanks (b :: rest) = b :: rest := by
  rw [skipBlanks, if_neg (by simp [visible])]

theorem readLiteral_append {cs : List Char} (ascii : ∀ c ∈ cs, c.toNat < 0x80)
    (rest : List UInt8) : readLiteral cs (Utf8.encode cs ++ rest) = .ok rest := by
  rw [Utf8.encode_of_ascii ascii]
  clear ascii
  induction cs with
  | nil => rfl
  | cons c cs ih =>
    have same : UInt8.ofNat c.toNat = byteOf c := rfl
    rw [List.map_cons, List.cons_append, readLiteral, if_pos same]
    exact ih

theorem toNat_of_isDigit {c : Char} (digit : c.isDigit = true) : 48 ≤ c.toNat ∧ c.toNat ≤ 57 := by
  simpa [Char.isDigit_iff_toNat] using digit

theorem byteDigit_digit {c : Char} (digit : c.isDigit = true) :
    byteDigit (UInt8.ofNat c.toNat) = some (c.toNat - 48) := by
  have range := toNat_of_isDigit digit
  have byte : (UInt8.ofNat c.toNat).toNat = c.toNat := Utf8.toNat_byte (by omega)
  rw [byteDigit, byte, if_pos range]

def Ends : List UInt8 → Prop
  | [] => True
  | b :: _ => isBlank b = true ∨ b = 0x2C ∨ b = 0x5D ∨ b = 0x7D

theorem Ends.startsWithDigit (ends : Ends rest) : startsWithDigit rest = false := by
  cases rest with
  | nil => rfl
  | cons b rest =>
    simp only [Ends, isBlank, Bool.or_eq_true, beq_iff_eq] at ends
    rcases ends with (((rfl | rfl) | rfl) | rfl) | rfl | rfl | rfl <;> rfl

theorem Ends.readAfterInteger (ends : Ends rest) (negative : Bool) (value : Nat) :
    readAfterInteger negative value rest = .ok (integerNumeral negative value, rest) := by
  cases rest with
  | nil => rfl
  | cons b rest =>
    simp only [Ends, isBlank, Bool.or_eq_true, beq_iff_eq] at ends
    rcases ends with (((rfl | rfl) | rfl) | rfl) | rfl | rfl | rfl <;> rfl

theorem takeDigits_append {cs : List Char} (digits : ∀ c ∈ cs, c.isDigit = true)
    (done : startsWithDigit rest = false) {value : Nat}
    (fits : Nat.ofDigitChars 10 cs value ≤ maxWord) (count : Nat) :
    ∃ count', takeDigits value count (cs.map (fun c => UInt8.ofNat c.toNat) ++ rest) =
      (Nat.ofDigitChars 10 cs value, count', rest) := by
  induction cs generalizing value count with
  | nil =>
    refine ⟨count, ?_⟩
    cases rest with
    | nil => rfl
    | cons b rest =>
      have noDigit : byteDigit b = none := by simpa [startsWithDigit, isDigitByte] using done
      simp only [List.map_nil, List.nil_append, takeDigits, noDigit, Nat.ofDigitChars_nil]
  | cons c cs ih =>
    have digit := byteDigit_digit (digits c List.mem_cons_self)
    rw [Nat.ofDigitChars_cons] at fits
    have step : value * 10 + (c.toNat - 48) = 10 * value + (c.toNat - '0'.toNat) := by
      rw [Nat.mul_comm]
      rfl
    have small := Nat.le_trans (le_ofDigitChars cs _) fits
    obtain ⟨count', taken⟩ :=
      ih (fun d mem => digits d (List.mem_cons_of_mem c mem)) fits (count + 1)
    refine ⟨count', ?_⟩
    rw [List.map_cons, List.cons_append, takeDigits, digit]
    simp only
    rw [step, if_pos small, taken, Nat.ofDigitChars_cons]

theorem isDigit_of_mem_toDigits {n : Nat} : ∀ c ∈ Nat.toDigits 10 n, c.isDigit = true :=
  fun _ mem => Nat.isDigit_of_mem_toDigits (by decide) (by decide) mem

theorem toDigits_eq_cons {n : Nat} (positive : 0 < n) :
    ∃ c cs, Nat.toDigits 10 n = c :: cs ∧ c ≠ '0' := by
  induction n using Nat.strongRecOn with
  | ind n ih =>
    by_cases small : n < 10
    · refine ⟨n.digitChar, [], Nat.toDigits_of_lt_base small, ?_⟩
      rw [ne_eq, Nat.digitChar_eq_zero]
      omega
    · obtain ⟨c, cs, written, notZero⟩ := ih (n / 10) (by omega) (by omega)
      refine ⟨c, cs ++ [(n % 10).digitChar], ?_, notZero⟩
      rw [Nat.toDigits_of_base_le (by decide) (by omega), written, List.cons_append]

def digitBytes (n : Nat) : List UInt8 :=
  (Nat.toDigits 10 n).map fun c => UInt8.ofNat c.toNat

theorem encode_toDigits (n : Nat) : Utf8.encode (Nat.toDigits 10 n) = digitBytes n := by
  apply Utf8.encode_of_ascii
  intro c mem
  have range := toNat_of_isDigit (isDigit_of_mem_toDigits c mem)
  omega

theorem readUnsigned_digitBytes (negative : Bool) {n : Nat} (fits : n ≤ maxWord)
    (ends : Ends rest) :
    readUnsigned negative (digitBytes n ++ rest) = .ok (integerNumeral negative n, rest) := by
  rcases Nat.eq_zero_or_pos n with rfl | positive
  · have zero : digitBytes 0 = [0x30] := rfl
    have digit : byteDigit 0x30 = some 0 := rfl
    rw [zero, List.cons_append, List.nil_append, readUnsigned, digit]
    simp only
    rw [ends.startsWithDigit, if_neg Bool.false_ne_true, ends.readAfterInteger]
  · obtain ⟨c, cs, written, notZero⟩ := toDigits_eq_cons positive
    have digits : ∀ d ∈ c :: cs, d.isDigit = true := written ▸ isDigit_of_mem_toDigits
    have value : Nat.ofDigitChars 10 cs (c.toNat - 48) = n := by
      have whole : Nat.ofDigitChars 10 (c :: cs) 0 = n := written ▸ Nat.ofDigitChars_ten_toDigits
      rwa [Nat.ofDigitChars_cons, Nat.mul_zero, Nat.zero_add] at whole
    have first : c.toNat - 48 ≠ 0 := by
      have range := toNat_of_isDigit (digits c List.mem_cons_self)
      have differs : c.toNat ≠ '0'.toNat := fun same => notZero (Char.toNat_inj.1 same)
      have zero : '0'.toNat = 48 := rfl
      omega
    obtain ⟨count, taken⟩ := takeDigits_append (fun d mem => digits d (List.mem_cons_of_mem c mem))
      ends.startsWithDigit (value ▸ fits) 1
    rw [digitBytes, written, List.map_cons, List.cons_append, readUnsigned,
      byteDigit_digit (digits c List.mem_cons_self)]
    cases digit : c.toNat - 48 with
    | zero => exact absurd digit first
    | succ d =>
      rw [digit] at taken value
      simp only
      rw [taken, value]
      simp only
      rw [ends.startsWithDigit, if_neg Bool.false_ne_true, ends.readAfterInteger]

theorem prepend_prepend (bytes more : List UInt8) (r : Reading (List UInt8)) :
    prepend bytes (prepend more r) = prepend (bytes ++ more) r := by
  cases r with
  | error fault => rfl
  | ok found => simp only [prepend, Except.map, List.append_assoc]

theorem prepend_nil (r : Reading (List UInt8)) : prepend [] r = r := by
  cases r <;> rfl

def Plain (b : UInt8) : Prop :=
  0x20 ≤ b.toNat ∧ b.toNat ≠ 0x22 ∧ b.toNat ≠ 0x5C

theorem readQuotedBytes_plain {bytes : List UInt8} (plain : ∀ b ∈ bytes, Plain b)
    (rest : List UInt8) :
    readQuotedBytes (bytes ++ rest) = prepend bytes (readQuotedBytes rest) := by
  induction bytes with
  | nil => rw [List.nil_append, prepend_nil]
  | cons b bytes ih =>
    obtain ⟨least, notQuote, notEscape⟩ := plain b List.mem_cons_self
    have single : readQuotedBytes (b :: (bytes ++ rest)) =
        prepend [b] (readQuotedBytes (bytes ++ rest)) := by
      rw [readQuotedBytes.eq_def]
      simp only
      rw [if_neg (by simpa [← UInt8.toNat_inj] using notQuote),
        if_neg (by simpa [← UInt8.toNat_inj] using notEscape),
        if_neg (by simpa [UInt8.lt_iff_toNat_lt] using least)]
    rw [List.cons_append, single, ih fun c mem => plain c (List.mem_cons_of_mem b mem),
      prepend_prepend]
    rfl

theorem readQuotedBytes_short {e b : UInt8} (letter : e ≠ 0x75) (short : shortEscape e = some b)
    (rest : List UInt8) :
    readQuotedBytes (0x5C :: e :: rest) = prepend [b] (readQuotedBytes rest) := by
  rw [readQuotedBytes.eq_def]
  simp only
  rw [if_neg (by decide), if_pos trivial, if_neg letter, short]

theorem readQuotedBytes_long {h₁ h₂ h₃ h₄ : UInt8} {n : Nat}
    (value : hexValue4 h₁ h₂ h₃ h₄ = some n) (small : n < 0xD800) (rest : List UInt8) :
    readQuotedBytes (0x5C :: 0x75 :: h₁ :: h₂ :: h₃ :: h₄ :: rest) =
      prepend (codePointBytes n) (readQuotedBytes rest) := by
  have notTrailing : isTrailingSurrogate n = false := by
    simp [isTrailingSurrogate]
    omega
  have notLeading : isLeadingSurrogate n = false := by
    simp [isLeadingSurrogate]
    omega
  rw [readQuotedBytes.eq_def]
  simp only
  rw [if_neg (by decide), if_pos trivial, if_pos trivial, value]
  simp only [notTrailing, notLeading, Bool.false_eq_true, if_false]

theorem hexValue4_control : ∀ n < 0x20, hexValue4 0x30 0x30 (UInt8.ofNat (hexDigit (n / 16)).toNat)
    (UInt8.ofNat (hexDigit (n % 16)).toNat) = some n := by
  decide

theorem hexDigit_isAscii : ∀ n < 16, (hexDigit n).toNat < 0x80 := by
  decide

theorem encode_controlEscape {n : Nat} (control : n < 0x20) :
    Utf8.encode ['\\', 'u', '0', '0', hexDigit (n / 16), hexDigit (n % 16)] =
      [0x5C, 0x75, 0x30, 0x30, UInt8.ofNat (hexDigit (n / 16)).toNat,
        UInt8.ofNat (hexDigit (n % 16)).toNat] := by
  have upper := hexDigit_isAscii (n / 16) (by omega)
  have lower := hexDigit_isAscii (n % 16) (by omega)
  rw [Utf8.encode_of_ascii (by simp [upper, lower])]
  rfl

theorem plain_of_mem_encodeChar {c : Char} (visible : 0x20 ≤ c.toNat) (notQuote : c.toNat ≠ 0x22)
    (notEscape : c.toNat ≠ 0x5C) : ∀ b ∈ String.utf8EncodeChar c, Plain b := by
  by_cases ascii : c.toNat < 0x80
  · have byte : (UInt8.ofNat c.toNat).toNat = c.toNat := Utf8.toNat_byte (by omega)
    rw [Utf8.encodeChar_of_ascii ascii]
    intro b mem
    rw [List.mem_singleton.1 mem, Plain, byte]
    exact ⟨visible, notQuote, notEscape⟩
  · intro b mem
    have high := Utf8.le_of_mem_encodeChar (by omega) b mem
    exact ⟨by omega, by omega, by omega⟩

theorem readQuotedBytes_escape (c : Char) (rest : List UInt8) :
    readQuotedBytes (Utf8.encode (escape c) ++ rest) =
      prepend (String.utf8EncodeChar c) (readQuotedBytes rest) := by
  have back : Char.ofNat c.toNat = c := Char.ofNat_toNat c
  have short : ∀ n e, c.toNat = n → n < 0x80 → e ≠ 0x75 → shortEscape e = some (UInt8.ofNat n) →
      readQuotedBytes (0x5C :: e :: rest) =
        prepend (String.utf8EncodeChar c) (readQuotedBytes rest) := by
    rintro n e rfl ascii letter short
    rw [Utf8.encodeChar_of_ascii ascii, readQuotedBytes_short letter short]
  unfold escape
  simp only
  split
  · exact short 0x22 0x22 ‹_› (by decide) (by decide) rfl
  split
  · exact short 0x5C 0x5C ‹_› (by decide) (by decide) rfl
  split
  · exact short 0x08 0x62 ‹_› (by decide) (by decide) rfl
  split
  · exact short 0x09 0x74 ‹_› (by decide) (by decide) rfl
  split
  · exact short 0x0A 0x6E ‹_› (by decide) (by decide) rfl
  split
  · exact short 0x0C 0x66 ‹_› (by decide) (by decide) rfl
  split
  · exact short 0x0D 0x72 ‹_› (by decide) (by decide) rfl
  split
  · rename_i control
    rw [encode_controlEscape control]
    have value := hexValue4_control c.toNat control
    have bytes := readQuotedBytes_long value (by omega) rest
    rwa [codePointBytes, back] at bytes
  · rename_i notQuote notEscape _ _ _ _ _ visible
    have single : Utf8.encode [c] = String.utf8EncodeChar c := List.append_nil _
    rw [single]
    exact readQuotedBytes_plain
      (plain_of_mem_encodeChar (Nat.not_lt.1 visible) notQuote notEscape) rest

theorem readQuotedBytes_quote (rest : List UInt8) :
    readQuotedBytes (0x22 :: rest) = .ok ([], 0x22 :: rest) := by
  rw [readQuotedBytes.eq_def]
  simp only
  rw [if_pos trivial]

theorem readQuotedBytes_escapes (cs : List Char) (rest : List UInt8) :
    readQuotedBytes (Utf8.encode (cs.flatMap escape) ++ 0x22 :: rest) =
      .ok (Utf8.encode cs, 0x22 :: rest) := by
  induction cs with
  | nil => exact readQuotedBytes_quote rest
  | cons c cs ih =>
    rw [List.flatMap_cons, Utf8.encode_append, List.append_assoc, readQuotedBytes_escape, ih]
    rfl

theorem encode_quoted (s : String) :
    Utf8.encode (quoted s) = 0x22 :: (Utf8.encode (s.toList.flatMap escape) ++ [0x22]) := by
  rw [quoted, List.cons_append, Utf8.encode_cons, Utf8.encode_append]
  rfl

theorem readQuoted_escapes (cs : List Char) (rest : List UInt8) :
    readQuoted (Utf8.encode (cs.flatMap escape) ++ 0x22 :: rest) = .ok (cs, rest) := by
  unfold readQuoted
  rw [readQuotedBytes_escapes]
  simp only [bind, Except.bind, Utf8.decode_encode]
  rfl

end SwarmDeploy.Json
