import SwarmDeploy.Base64
import SwarmDeploy.Proofs.Basic
import SwarmDeploy.Proofs.Text.Utf8

/-! What was written in base64 is read, in both alphabets, and nothing else is.
Written groups are symbols of values below 64; the reader gets the same values back, group by
group, and the last group is told from the others by what follows it. The padding and the unused
bits of a group that was read are those of the written one. -/

namespace SwarmDeploy.Base64
open SwarmDeploy.Text

variable (a : Alphabet)

def Alphabet.byte (value : Nat) : UInt8 :=
  UInt8.ofNat (a.symbol value).toNat

theorem symbol_isAscii : ∀ value < 64, (a.symbol value).toNat < 0x80 := by
  cases a <;> decide

theorem value_byte {value : Nat} (small : value < 64) : a.value (a.byte value) = some value := by
  have all : ∀ value < 64, a.value (a.byte value) = some value := by cases a <;> decide
  exact all value small

theorem byte_ne_pad {value : Nat} (small : value < 64) : a.byte value ≠ pad := by
  have all : ∀ value < 64, a.byte value ≠ pad := by cases a <;> decide
  exact all value small

theorem encode_symbol {value : Nat} (small : value < 64) (cs : List Char) :
    Utf8.encode (a.symbol value :: cs) = a.byte value :: Utf8.encode cs := by
  rw [Utf8.encode_cons, Utf8.encodeChar_of_ascii (symbol_isAscii a value small)]
  rfl

theorem readSymbol_byte {value : Nat} (small : value < 64) (offset : Nat) :
    readSymbol a (a.byte value) offset = .ok value := by
  simp only [readSymbol, value_byte a small]

theorem encode_one (x : UInt8) : Utf8.encode (encode a [x]) =
    [a.byte (x.toNat / 4), a.byte (x.toNat % 4 * 16), pad, pad] := by
  have := x.toNat_lt
  simp only [encode]
  rw [encode_symbol a (by omega), encode_symbol a (by omega)]
  rfl

theorem encode_two (x y : UInt8) : Utf8.encode (encode a [x, y]) =
    [a.byte (x.toNat / 4), a.byte (x.toNat % 4 * 16 + y.toNat / 16), a.byte (y.toNat % 16 * 4),
      pad] := by
  have := x.toNat_lt
  have := y.toNat_lt
  simp only [encode]
  rw [encode_symbol a (by omega), encode_symbol a (by omega), encode_symbol a (by omega)]
  rfl

theorem encode_three (x y z : UInt8) (rest : List UInt8) :
    Utf8.encode (encode a (x :: y :: z :: rest)) =
      a.byte (x.toNat / 4) :: a.byte (x.toNat % 4 * 16 + y.toNat / 16) ::
        a.byte (y.toNat % 16 * 4 + z.toNat / 64) :: a.byte (z.toNat % 64) ::
          Utf8.encode (encode a rest) := by
  have := x.toNat_lt
  have := y.toNat_lt
  have := z.toNat_lt
  simp only [encode]
  rw [encode_symbol a (by omega), encode_symbol a (by omega), encode_symbol a (by omega),
    encode_symbol a (by omega)]

theorem length_encode_mod (bytes : List UInt8) : (Utf8.encode (encode a bytes)).length % 4 = 0 := by
  induction bytes using encode.induct with
  | case1 => rfl
  | case2 x => simp only [encode_one, List.length_cons, List.length_nil]
  | case3 x y => simp only [encode_two, List.length_cons, List.length_nil]
  | case4 x y z rest ih =>
    rw [encode_three]
    simp only [List.length_cons]
    omega

theorem encode_ne_nil {bytes : List UInt8} (some : bytes ≠ []) :
    Utf8.encode (encode a bytes) ≠ [] := by
  cases bytes using encode.induct with
  | case1 => exact absurd rfl some
  | case2 x => rw [encode_one]; exact List.cons_ne_nil _ _
  | case3 x y => rw [encode_two]; exact List.cons_ne_nil _ _
  | case4 x y z rest => rw [encode_three]; exact List.cons_ne_nil _ _

variable (start : Nat)

theorem readLastSymbols_byte {value : Nat} (small : value < 64) (place : Nat)
    (bytes : List UInt8) :
    readLastSymbols a start place none (a.byte value :: bytes) =
      (readLastSymbols a start (place + 1) none bytes).map fun rest =>
        ((value, a.byte value) :: rest.1, rest.2) := by
  simp only [readLastSymbols, byte_ne_pad a small, if_false, readSymbol_byte a small]
  cases readLastSymbols a start (place + 1) none bytes <;> rfl

theorem readLastSymbols_pad {place : Nat} (later : 2 ≤ place) (padded : Option Nat)
    (bytes : List UInt8) :
    readLastSymbols a start place padded (pad :: bytes) =
      (readLastSymbols a start (place + 1) (padded.or (some place)) bytes).map fun rest =>
        (rest.1, rest.2 + 1) := by
  simp only [readLastSymbols, if_true, Nat.not_lt.2 later, if_false]
  cases readLastSymbols a start (place + 1) (padded.or (some place)) bytes <;> rfl

variable (x y z : UInt8)

theorem first_joined :
    UInt8.ofNat (x.toNat / 4 * 4 + (x.toNat % 4 * 16 + y.toNat / 16) / 16) = x := by
  have := x.toNat_lt
  have := y.toNat_lt
  have joined : x.toNat / 4 * 4 + (x.toNat % 4 * 16 + y.toNat / 16) / 16 = x.toNat := by omega
  rw [joined, UInt8.ofNat_toNat]

theorem second_joined : UInt8.ofNat ((x.toNat % 4 * 16 + y.toNat / 16) % 16 * 16 +
    (y.toNat % 16 * 4 + z.toNat / 64) / 4) = y := by
  have := y.toNat_lt
  have := z.toNat_lt
  have joined : (x.toNat % 4 * 16 + y.toNat / 16) % 16 * 16 +
      (y.toNat % 16 * 4 + z.toNat / 64) / 4 = y.toNat := by omega
  rw [joined, UInt8.ofNat_toNat]

theorem third_joined :
    UInt8.ofNat ((y.toNat % 16 * 4 + z.toNat / 64) % 4 * 64 + z.toNat % 64) = z := by
  have := z.toNat_lt
  have joined : (y.toNat % 16 * 4 + z.toNat / 64) % 4 * 64 + z.toNat % 64 = z.toNat := by omega
  rw [joined, UInt8.ofNat_toNat]

theorem decodeLast_one :
    decodeLast a start (Utf8.encode (encode a [x])) = .ok [x] := by
  have := x.toNat_lt
  have joined : x.toNat / 4 * 4 + x.toNat % 4 * 16 / 16 = x.toNat := by omega
  have unused : x.toNat % 4 * 16 % 16 = 0 := by omega
  rw [encode_one]
  unfold decodeLast
  rw [readLastSymbols_byte a start (by omega), readLastSymbols_byte a start (by omega),
    readLastSymbols_pad a start (by omega), readLastSymbols_pad a start (by omega)]
  simp only [readLastSymbols, Except.map, bind, Except.bind, pure, Except.pure, reduceCtorEq,
    and_false, if_false, List.length_cons, List.length_nil, Nat.reduceAdd, Nat.reduceLT,
    Nat.reduceMod, ne_eq, not_true_eq_false, unused, if_true, joined, UInt8.ofNat_toNat]

theorem decodeLast_two :
    decodeLast a start (Utf8.encode (encode a [x, y])) = .ok [x, y] := by
  have := x.toNat_lt
  have := y.toNat_lt
  have joined : (x.toNat % 4 * 16 + y.toNat / 16) % 16 * 16 + y.toNat % 16 * 4 / 4 = y.toNat := by
    omega
  have unused : y.toNat % 16 * 4 % 4 = 0 := by omega
  rw [encode_two]
  unfold decodeLast
  rw [readLastSymbols_byte a start (by omega), readLastSymbols_byte a start (by omega),
    readLastSymbols_byte a start (by omega), readLastSymbols_pad a start (by omega)]
  simp only [readLastSymbols, Except.map, bind, Except.bind, pure, Except.pure, reduceCtorEq,
    and_false, if_false, List.length_cons, List.length_nil, Nat.reduceAdd, Nat.reduceLT,
    Nat.reduceMod, ne_eq, not_true_eq_false, unused, if_true, first_joined, joined,
    UInt8.ofNat_toNat]

theorem decodeLast_three :
    decodeLast a start (Utf8.encode (encode a [x, y, z])) = .ok [x, y, z] := by
  have := x.toNat_lt
  have := y.toNat_lt
  have := z.toNat_lt
  have nothing : Utf8.encode (encode a []) = [] := rfl
  rw [encode_three, nothing]
  unfold decodeLast
  rw [readLastSymbols_byte a start (by omega), readLastSymbols_byte a start (by omega),
    readLastSymbols_byte a start (by omega), readLastSymbols_byte a start (by omega)]
  simp only [readLastSymbols, Except.map, bind, Except.bind, pure, Except.pure, reduceCtorEq,
    and_false, if_false, List.length_cons, List.length_nil, Nat.reduceAdd, Nat.reduceLT,
    Nat.reduceMod, ne_eq, not_true_eq_false, first_joined, second_joined, third_joined]

theorem decodeGroups_three (next : UInt8) (rest : List UInt8) :
    decodeGroups a start (a.byte (x.toNat / 4) :: a.byte (x.toNat % 4 * 16 + y.toNat / 16) ::
      a.byte (y.toNat % 16 * 4 + z.toNat / 64) :: a.byte (z.toNat % 64) :: next :: rest) =
        (decodeGroups a (start + 4) (next :: rest)).map fun bytes => x :: y :: z :: bytes := by
  have := x.toNat_lt
  have := y.toNat_lt
  have := z.toNat_lt
  simp only [decodeGroups, bind, Except.bind, pure, Except.pure]
  rw [readSymbol_byte a (by omega), readSymbol_byte a (by omega), readSymbol_byte a (by omega),
    readSymbol_byte a (by omega)]
  simp only [first_joined, second_joined, third_joined]
  cases decodeGroups a (start + 4) (next :: rest) <;> rfl

theorem decodeGroups_encode (bytes : List UInt8) :
    ∀ start, start = 0 ∨ bytes ≠ [] →
      decodeGroups a start (Utf8.encode (encode a bytes)) = .ok bytes := by
  induction bytes using encode.induct with
  | case1 =>
    rintro start (rfl | some)
    · rfl
    · exact absurd rfl some
  | case2 x =>
    intro start _
    rw [← decodeLast_one a start x, encode_one]
    rfl
  | case3 x y =>
    intro start _
    rw [← decodeLast_two a start x y, encode_two]
    rfl
  | case4 x y z rest ih =>
    intro start _
    by_cases last : rest = []
    · subst last
      rw [← decodeLast_three a start x y z, encode_three]
      rfl
    · obtain ⟨next, more, written⟩ := List.exists_cons_of_ne_nil (encode_ne_nil a last)
      rw [encode_three, written, decodeGroups_three, ← written, ih _ (.inr last)]
      rfl

theorem decode_encode (bytes : List UInt8) :
    decode a (Utf8.encode (encode a bytes)) = .ok bytes := by
  have noneLone : loneLast a (Utf8.encode (encode a bytes)) = none := by
    unfold loneLast
    rw [if_neg (by rw [length_encode_mod]; decide)]
  simp only [decode, noneLone]
  exact decodeGroups_encode a bytes 0 (.inl rfl)

theorem mem_encode {bytes : List UInt8} {c : Char} (mem : c ∈ encode a bytes) :
    c = '=' ∨ ∃ value < 64, c = a.symbol value := by
  induction bytes using encode.induct with
  | case1 => cases mem
  | case2 x =>
    have := x.toNat_lt
    simp only [encode, List.mem_cons, List.not_mem_nil, or_false] at mem
    rcases mem with rfl | rfl | rfl | rfl
    · exact .inr ⟨_, by omega, rfl⟩
    · exact .inr ⟨_, by omega, rfl⟩
    · exact .inl rfl
    · exact .inl rfl
  | case3 x y =>
    have := x.toNat_lt
    have := y.toNat_lt
    simp only [encode, List.mem_cons, List.not_mem_nil, or_false] at mem
    rcases mem with rfl | rfl | rfl | rfl
    · exact .inr ⟨_, by omega, rfl⟩
    · exact .inr ⟨_, by omega, rfl⟩
    · exact .inr ⟨_, by omega, rfl⟩
    · exact .inl rfl
  | case4 x y z rest ih =>
    have := x.toNat_lt
    have := y.toNat_lt
    have := z.toNat_lt
    simp only [encode, List.mem_cons] at mem
    rcases mem with rfl | rfl | rfl | rfl | later
    · exact .inr ⟨_, by omega, rfl⟩
    · exact .inr ⟨_, by omega, rfl⟩
    · exact .inr ⟨_, by omega, rfl⟩
    · exact .inr ⟨_, by omega, rfl⟩
    · exact ih later

variable {a start} {offset : Nat}

theorem value_eq_some {b : UInt8} {value : Nat} (found : a.value b = some value) :
    value < 64 ∧ b = a.byte value := by
  have all : ∀ n < 256, ∀ v ∈ a.value (UInt8.ofNat n), v < 64 ∧ UInt8.ofNat n = a.byte v := by
    cases a <;> decide +kernel
  have this := all b.toNat b.toNat_lt value
  rw [UInt8.ofNat_toNat] at this
  exact this found

theorem readSymbol_eq_ok {b : UInt8} {value : Nat} (read : readSymbol a b offset = .ok value) :
    value < 64 ∧ b = a.byte value := by
  unfold readSymbol at read
  split at read
  · rename_i found
    cases read
    exact value_eq_some found
  · cases read

/-- The last symbols stand in front of the padding signs; behind a padding sign there are none. -/
theorem readLastSymbols_eq_ok {place pads : Nat} {padded : Option Nat} {group : List UInt8}
    {symbols : List (Nat × UInt8)}
    (read : readLastSymbols a start place padded group = .ok (symbols, pads)) :
    group = symbols.map (fun s => a.byte s.1) ++ List.replicate pads pad ∧
      (∀ s ∈ symbols, s.1 < 64) ∧ (padded.isSome = true → symbols = []) := by
  induction group generalizing place padded symbols pads with
  | nil =>
    cases read
    simp
  | cons b group ih =>
    unfold readLastSymbols at read
    split at read
    · rename_i isPad
      split at read
      · cases read
      · obtain ⟨rest, behind, same⟩ := bind_eq_ok_iff.1 read
        cases same
        obtain ⟨written, -, none⟩ := ih behind
        have noSymbols : rest.1 = [] := none (by cases padded <;> rfl)
        rw [noSymbols] at written ⊢
        exact ⟨by rw [isPad, written]; rfl, by simp, fun _ => rfl⟩
    · split at read
      · cases read
      · obtain ⟨value, first, read⟩ := bind_eq_ok_iff.1 read
        obtain ⟨rest, behind, same⟩ := bind_eq_ok_iff.1 read
        cases same
        obtain ⟨small, written⟩ := readSymbol_eq_ok first
        obtain ⟨later, allSmall, -⟩ := ih behind
        refine ⟨by rw [written, later]; rfl, ?_, by simp⟩
        exact List.forall_mem_cons.2 ⟨small, allSmall⟩

variable {p q r s : Nat}

theorem first_toNat (small : p < 64) (small' : q < 64) :
    (UInt8.ofNat (p * 4 + q / 16)).toNat = p * 4 + q / 16 :=
  Utf8.toNat_byte (by omega)

theorem second_toNat (small : r < 64) :
    (UInt8.ofNat (q % 16 * 16 + r / 4)).toNat = q % 16 * 16 + r / 4 :=
  Utf8.toNat_byte (by omega)

theorem third_toNat (small : s < 64) :
    (UInt8.ofNat (r % 4 * 64 + s)).toNat = r % 4 * 64 + s :=
  Utf8.toNat_byte (by omega)

theorem written_one (smallP : p < 64) (smallQ : q < 64) (unused : q % 16 = 0) :
    [a.byte p, a.byte q, pad, pad] = Utf8.encode (encode a [UInt8.ofNat (p * 4 + q / 16)]) := by
  have first : (p * 4 + q / 16) / 4 = p := by omega
  have second : (p * 4 + q / 16) % 4 * 16 = q := by omega
  rw [encode_one, first_toNat smallP smallQ, first, second]

theorem written_two (smallP : p < 64) (smallQ : q < 64) (smallR : r < 64) (unused : r % 4 = 0) :
    [a.byte p, a.byte q, a.byte r, pad] = Utf8.encode (encode a
      [UInt8.ofNat (p * 4 + q / 16), UInt8.ofNat (q % 16 * 16 + r / 4)]) := by
  have first : (p * 4 + q / 16) / 4 = p := by omega
  have second : (p * 4 + q / 16) % 4 * 16 + (q % 16 * 16 + r / 4) / 16 = q := by omega
  have third : (q % 16 * 16 + r / 4) % 16 * 4 = r := by omega
  rw [encode_two, first_toNat smallP smallQ, second_toNat smallR, first, second, third]

theorem written_three (smallP : p < 64) (smallQ : q < 64) (smallR : r < 64) (smallS : s < 64)
    (rest : List UInt8) :
    a.byte p :: a.byte q :: a.byte r :: a.byte s :: Utf8.encode (encode a rest) =
      Utf8.encode (encode a (UInt8.ofNat (p * 4 + q / 16) :: UInt8.ofNat (q % 16 * 16 + r / 4) ::
        UInt8.ofNat (r % 4 * 64 + s) :: rest)) := by
  have first : (p * 4 + q / 16) / 4 = p := by omega
  have second : (p * 4 + q / 16) % 4 * 16 + (q % 16 * 16 + r / 4) / 16 = q := by omega
  have third : (q % 16 * 16 + r / 4) % 16 * 4 + (r % 4 * 64 + s) / 64 = r := by omega
  have fourth : (r % 4 * 64 + s) % 64 = s := by omega
  rw [encode_three, first_toNat smallP smallQ, second_toNat smallR, third_toNat smallS, first,
    second, third, fourth]

theorem eq_encode_of_decodeLast {group bytes : List UInt8} (short : group.length ≤ 4)
    (decoded : decodeLast a start group = .ok bytes) : group = Utf8.encode (encode a bytes) := by
  unfold decodeLast at decoded
  split at decoded
  · rename_i nothing
    cases decoded
    exact nothing.2
  · obtain ⟨⟨symbols, pads⟩, read, decoded⟩ := bind_eq_ok_iff.1 decoded
    obtain ⟨written, small, -⟩ := readLastSymbols_eq_ok read
    have length : symbols.length + pads ≤ 4 := by simpa [written] using short
    dsimp only at decoded
    split at decoded
    · cases decoded
    rename_i many
    split at decoded
    · cases decoded
    · have full : symbols.length + pads = 4 := by omega
      rcases symbols with _ | ⟨p, _ | ⟨q, _ | ⟨r, _ | ⟨s, more⟩⟩⟩⟩
      · simp at many
      · simp at many
      · obtain rfl : pads = 2 := by simp only [List.length_cons, List.length_nil] at full; omega
        dsimp only at decoded
        split at decoded
        · rename_i unused
          cases decoded
          obtain ⟨smallP, smallQ⟩ : p.1 < 64 ∧ q.1 < 64 := by simpa using small
          rw [written]
          exact written_one smallP smallQ unused
        · cases decoded
      · obtain rfl : pads = 1 := by simp only [List.length_cons, List.length_nil] at full; omega
        dsimp only at decoded
        split at decoded
        · rename_i unused
          cases decoded
          obtain ⟨smallP, smallQ, smallR⟩ : p.1 < 64 ∧ q.1 < 64 ∧ r.1 < 64 := by simpa using small
          rw [written]
          exact written_two smallP smallQ smallR unused
        · cases decoded
      · obtain ⟨rfl, rfl⟩ : more = [] ∧ pads = 0 := by
          simp only [List.length_cons] at full
          exact ⟨List.length_eq_zero_iff.1 (by omega), by omega⟩
        cases decoded
        obtain ⟨smallP, smallQ, smallR, smallS⟩ :
            p.1 < 64 ∧ q.1 < 64 ∧ r.1 < 64 ∧ s.1 < 64 := by simpa using small
        rw [written]
        exact written_three smallP smallQ smallR smallS []

theorem eq_encode_of_decodeGroups {offset : Nat} {text bytes : List UInt8}
    (decoded : decodeGroups a offset text = .ok bytes) :
    text = Utf8.encode (encode a bytes) := by
  fun_induction decodeGroups a offset text generalizing bytes with
  | case1 offset w x y z next rest ih =>
    obtain ⟨p, readP, decoded⟩ := bind_eq_ok_iff.1 decoded
    obtain ⟨q, readQ, decoded⟩ := bind_eq_ok_iff.1 decoded
    obtain ⟨r, readR, decoded⟩ := bind_eq_ok_iff.1 decoded
    obtain ⟨s, readS, decoded⟩ := bind_eq_ok_iff.1 decoded
    obtain ⟨later, behind, same⟩ := bind_eq_ok_iff.1 decoded
    cases same
    obtain ⟨smallP, rfl⟩ := readSymbol_eq_ok readP
    obtain ⟨smallQ, rfl⟩ := readSymbol_eq_ok readQ
    obtain ⟨smallR, rfl⟩ := readSymbol_eq_ok readR
    obtain ⟨smallS, rfl⟩ := readSymbol_eq_ok readS
    rw [ih behind]
    exact written_three smallP smallQ smallR smallS later
  | case2 offset group short =>
    refine eq_encode_of_decodeLast ?_ decoded
    rcases group with _ | ⟨w, _ | ⟨x, _ | ⟨y, _ | ⟨z, _ | ⟨next, rest⟩⟩⟩⟩⟩
    case cons.cons.cons.cons.cons => exact absurd rfl (short w x y z next rest)
    all_goals simp

theorem decode_eq_ok_iff {text bytes : List UInt8} :
    decode a text = .ok bytes ↔ text = Utf8.encode (encode a bytes) := by
  constructor
  · intro decoded
    unfold decode at decoded
    split at decoded
    · cases decoded
    · exact eq_encode_of_decodeGroups decoded
  · rintro rfl
    exact decode_encode a bytes

end SwarmDeploy.Base64
