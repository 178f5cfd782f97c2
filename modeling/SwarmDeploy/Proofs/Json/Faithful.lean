import SwarmDeploy.Proofs.Json.Lexeme
import SwarmDeploy.Proofs.Json.View

/-! A document that writes a value is read as the shape's view of it.
Every reader of the grammar gets a lemma of its own, which passes on what its parts do; the lemma
for all shapes puts them together along the shape. -/

namespace SwarmDeploy.Json
open SwarmDeploy.Number SwarmDeploy.Text

variable {w v : Value} {bytes rest blanks : List UInt8} {read : List UInt8 → Reading Value}
  {view : Value → Option Value}

/-- A reader that takes what was written for what a view makes of it. -/
def Faithful (read : List UInt8 → Reading Value) (view : Value → Option Value) : Prop :=
  ∀ {w v bytes rest blanks}, Written w bytes → view w = some v → Ends rest → Blanks blanks →
    read (blanks ++ (bytes ++ rest)) = .ok (v, rest)

theorem skipBlanks_text (only : Blanks blanks) (s : String) (rest : List UInt8) :
    skipBlanks (blanks ++ (Utf8.encode (quoted s) ++ rest)) =
      0x22 :: (Utf8.encode (s.toList.flatMap escape) ++ 0x22 :: rest) := by
  rw [skipBlanks_append only, encode_quoted, List.cons_append, skipBlanks_cons rfl,
    List.append_assoc]
  rfl

theorem readText_faithful : Faithful readText viewText := by
  intro w v bytes rest blanks written viewed ends only
  unfold viewText at viewed
  split at viewed
  · cases written
    cases viewed
    unfold readText
    rw [skipBlanks_text only]
    simp only
    rw [if_pos trivial, readQuoted_escapes]
    simp only [Except.map, String.ofList_toList]
  · cases viewed

theorem readFlag_faithful : Faithful readFlag viewFlag := by
  intro w v bytes rest blanks written viewed ends only
  unfold viewFlag at viewed
  split at viewed
  · rename_i b
    cases written
    cases viewed
    unfold readFlag
    rw [skipBlanks_append only]
    cases b with
    | true =>
      have start : skipBlanks (Utf8.encode (flagText true) ++ rest) =
          0x74 :: (Utf8.encode ['r', 'u', 'e'] ++ rest) := rfl
      rw [start]
      simp only
      rw [if_pos trivial, readLiteral_append (by simp)]
      rfl
    | false =>
      have start : skipBlanks (Utf8.encode (flagText false) ++ rest) =
          0x66 :: (Utf8.encode ['a', 'l', 's', 'e'] ++ rest) := rfl
      rw [start]
      simp only
      rw [if_neg (by decide), if_pos trivial, readLiteral_append (by simp)]
      rfl
  · cases viewed

theorem bounds_of_contains {range : IntegerRange} {n : Int} (within : range.contains n = true) :
    -0x8000000000000000 ≤ n ∧ n < 0x10000000000000000 := by
  cases range <;>
    simp only [IntegerRange.contains, Bool.and_eq_true, decide_eq_true_eq] at within <;> omega

theorem natAbs_le_maxWord {range : IntegerRange} {n : Int} (within : range.contains n = true) :
    n.natAbs ≤ maxWord := by
  have bounds := bounds_of_contains within
  simp only [maxWord]
  omega

theorem acceptInteger_natural {range : IntegerRange} {n : Int} (within : range.contains n = true)
    (natural : 0 ≤ n) (rest : List UInt8) :
    acceptInteger range (integerNumeral false n.natAbs) rest = .ok (.int n, rest) := by
  have same : (n.natAbs : Int) = n := Int.natAbs_of_nonneg natural
  simp only [integerNumeral, acceptInteger, Numeral.integer?, Bool.not_false, if_true, same, within]

theorem acceptInteger_negative {range : IntegerRange} {n : Int} (within : range.contains n = true)
    (negative : n < 0) (rest : List UInt8) :
    acceptInteger range (integerNumeral true n.natAbs) rest = .ok (.int n, rest) := by
  have same : -(n.natAbs : Int) = n := by omega
  have bounds := bounds_of_contains within
  have kept : ¬(n.natAbs = 0 ∨ 0x8000000000000000 < n.natAbs) := by omega
  simp only [integerNumeral, Bool.not_true, Bool.false_eq_true, if_false, kept, acceptInteger,
    Numeral.integer?, same, within, if_true]

theorem digitBytes_eq_cons (n : Nat) :
    ∃ b more, digitBytes n = b :: more ∧ isDigitByte b = true := by
  obtain ⟨c, cs, written⟩ := List.exists_cons_of_ne_nil (Nat.toDigits_ne_nil (n := n) (b := 10))
  have digit : c.isDigit = true := isDigit_of_mem_toDigits c (written ▸ List.mem_cons_self)
  refine ⟨UInt8.ofNat c.toNat, _, by rw [digitBytes, written, List.map_cons], ?_⟩
  rw [isDigitByte, byteDigit_digit digit]
  rfl

theorem toNat_of_isDigitByte {b : UInt8} (digit : isDigitByte b = true) :
    48 ≤ b.toNat ∧ b.toNat ≤ 57 := by
  unfold isDigitByte byteDigit at digit
  split at digit
  · assumption
  · cases digit

theorem isBlank_of_isDigitByte {b : UInt8} (digit : isDigitByte b = true) : isBlank b = false := by
  have range := toNat_of_isDigitByte digit
  simp only [isBlank, Bool.or_eq_false_iff, beq_eq_false_iff_ne, ne_eq, ← UInt8.toNat_inj,
    UInt8.reduceToNat]
  omega

theorem readInteger_faithful (range : IntegerRange) :
    Faithful (readInteger range) (viewInteger range) := by
  intro w v bytes rest blanks written viewed ends only
  unfold viewInteger at viewed
  split at viewed
  · rename_i n
    split at viewed
    · rename_i within
      cases written
      cases viewed
      have fits := natAbs_le_maxWord within
      unfold readInteger
      rw [skipBlanks_append only]
      by_cases negative : n < 0
      · have start : skipBlanks (Utf8.encode ('-' :: Nat.toDigits 10 n.natAbs) ++ rest) =
            0x2D :: (Utf8.encode (Nat.toDigits 10 n.natAbs) ++ rest) := rfl
        rw [integerText, if_pos negative, start, encode_toDigits]
        simp only
        rw [if_pos trivial, readUnsigned_digitBytes true fits ends]
        exact acceptInteger_negative within negative rest
      · obtain ⟨b, more, digits, digit⟩ := digitBytes_eq_cons n.natAbs
        have number := readUnsigned_digitBytes false fits ends
        have notMinus : b ≠ 0x2D := by
          rintro rfl
          cases digit
        rw [integerText, if_neg negative, encode_toDigits, digits, List.cons_append,
          skipBlanks_cons (isBlank_of_isDigitByte digit)]
        rw [digits, List.cons_append] at number
        simp only
        rw [if_neg notMinus, if_pos digit, number]
        exact acceptInteger_natural within (by omega) rest
    · cases viewed
  · cases viewed

theorem readChoice_faithful (names : List String) :
    Faithful (readChoice names) (viewChoice names) := by
  intro w v bytes rest blanks written viewed ends only
  unfold viewChoice at viewed
  split at viewed
  · split at viewed
    · rename_i known
      cases written
      cases viewed
      unfold readChoice readVariant
      rw [skipBlanks_text only]
      simp only
      rw [if_pos trivial, readQuoted_escapes]
      simp only [String.ofList_toList]
      rw [if_pos known]
    · cases viewed
  · cases viewed

theorem Written.exists_cons (written : Written v bytes) :
    ∃ b more, bytes = b :: more ∧ isBlank b = false ∧ b ≠ 0x5D ∧ (v ≠ .null → b ≠ 0x6E) := by
  cases written with
  | null => exact ⟨_, _, rfl, rfl, by decide, fun other => absurd rfl other⟩
  | bool b => cases b <;> exact ⟨_, _, rfl, rfl, by decide, fun _ => by decide⟩
  | int n =>
    by_cases negative : n < 0
    · rw [integerText, if_pos negative]
      exact ⟨_, _, rfl, rfl, by decide, fun _ => by decide⟩
    · obtain ⟨b, more, digits, digit⟩ := digitBytes_eq_cons n.natAbs
      have range := toNat_of_isDigitByte digit
      rw [integerText, if_neg negative, encode_toDigits, digits]
      refine ⟨b, more, rfl, isBlank_of_isDigitByte digit, ?_, fun _ => ?_⟩
      · rintro rfl
        cases digit
      · rintro rfl
        cases digit
  | text s =>
    rw [encode_quoted]
    exact ⟨_, _, rfl, rfl, by decide, fun _ => by decide⟩
  | list items => exact ⟨_, _, rfl, rfl, by decide, fun _ => by decide⟩
  | object members => exact ⟨_, _, rfl, rfl, by decide, fun _ => by decide⟩

theorem readOptional_faithful (faithful : Faithful read view) :
    Faithful (readOptional read) (viewOptional view) := by
  intro w v bytes rest blanks written viewed ends only
  unfold readOptional
  rw [skipBlanks_append only]
  unfold viewOptional at viewed
  split at viewed
  · cases written
    cases viewed
    have start : skipBlanks (Utf8.encode nullText ++ rest) =
        0x6E :: (Utf8.encode ['u', 'l', 'l'] ++ rest) := rfl
    rw [start]
    simp only
    rw [if_pos trivial, readLiteral_append (by simp)]
    rfl
  · rename_i other
    obtain ⟨b, more, rfl, visible, -, notNull⟩ := written.exists_cons
    rw [List.cons_append, skipBlanks_cons visible]
    simp only
    rw [if_neg (notNull other)]
    exact faithful written viewed ends blanks_nil

variable {first : Bool} {items : List Value}

theorem WrittenItems.ends (written : WrittenItems false items bytes) (rest : List UInt8) :
    Ends (bytes ++ rest) := by
  cases written with
  | @nil _ blanks only =>
    cases blanks with
    | nil => exact .inr (.inr (.inl rfl))
    | cons b blanks => exact .inl (only b List.mem_cons_self)
  | cons only value more => exact .inr (.inl rfl)

theorem WrittenItems.length_lt (written : WrittenItems first items bytes) :
    items.length < bytes.length := by
  induction items generalizing first bytes with
  | nil =>
    cases written
    simp
  | cons v items ih =>
    cases written with
    | cons only value more =>
      have shorter := ih more
      obtain ⟨b, others, rfl, -⟩ := value.exists_cons
      simp only [List.length_cons, List.length_append]
      omega

theorem nextItem_nil (only : Blanks blanks) (first : Bool) (rest : List UInt8) :
    nextItem first (blanks ++ [0x5D] ++ rest) = .ok (false, 0x5D :: rest) := by
  have start : skipBlanks ([0x5D] ++ rest) = 0x5D :: rest := rfl
  unfold nextItem
  rw [List.append_assoc, skipBlanks_append only, start]
  simp only
  rw [if_pos trivial]

theorem nextItem_cons (only : Blanks blanks) (written : Written v bytes) (first : Bool)
    (rest : List UInt8) :
    nextItem first (separator first ++ (blanks ++ (bytes ++ rest))) =
      .ok (true, bytes ++ rest) := by
  obtain ⟨b, more, rfl, visible, notEnd, -⟩ := written.exists_cons
  have start : skipBlanks (blanks ++ (b :: more ++ rest)) = b :: (more ++ rest) := by
    rw [skipBlanks_append only, List.cons_append, skipBlanks_cons visible]
  unfold nextItem
  cases first with
  | true =>
    have nothing : separator true = [] := rfl
    rw [nothing, List.nil_append, start]
    simp only
    rw [if_neg notEnd, if_pos trivial, List.cons_append]
  | false =>
    have comma : skipBlanks (separator false ++ (blanks ++ (b :: more ++ rest))) =
        0x2C :: (blanks ++ (b :: more ++ rest)) := rfl
    rw [comma]
    simp only
    rw [if_neg (by decide), if_neg Bool.false_ne_true, if_pos trivial, start]
    simp only
    rw [if_neg notEnd, List.cons_append]

theorem readItems_written (faithful : Faithful read view) {vs : List Value}
    (viewed : List.Forall₂ (fun w v => view w = some v) items vs)
    (written : WrittenItems first items bytes) {fuel : Nat} (enough : items.length < fuel)
    (rest : List UInt8) : readItems read fuel first (bytes ++ rest) = .ok (vs, rest) := by
  induction viewed generalizing first bytes fuel with
  | nil =>
    cases fuel with
    | zero => cases enough
    | succ fuel =>
      cases written with
      | nil only =>
        simp only [readItems, nextItem_nil only, bind, Except.bind]
        rfl
  | cons viewedValue viewed ih =>
    cases fuel with
    | zero => cases enough
    | succ fuel =>
      cases written with
      | cons only value more =>
        have later := ih more (Nat.lt_of_succ_lt_succ enough)
        have item := faithful value viewedValue (more.ends rest) blanks_nil
        rw [List.nil_append] at item
        simp only [List.append_assoc, readItems, nextItem_cons only value, bind, Except.bind,
          if_true, item, later]
        rfl

theorem readList_faithful (faithful : Faithful read view) :
    Faithful (readList read) (viewMany view) := by
  intro w v bytes rest blanks written viewed ends only
  unfold viewMany at viewed
  split at viewed
  · rename_i items
    obtain ⟨vs, viewedItems, rfl⟩ := Option.map_eq_some_iff.1 viewed
    cases written with
    | @list _ bytes written =>
      have start : skipBlanks (0x5B :: bytes ++ rest) = 0x5B :: (bytes ++ rest) := rfl
      have enough : items.length < (blanks ++ (0x5B :: bytes ++ rest)).length := by
        have shorter := written.length_lt
        simp only [List.length_append, List.length_cons]
        omega
      unfold readList
      rw [skipBlanks_append only, start]
      simp only
      rw [if_pos trivial,
        readItems_written faithful (mapM_eq_some_iff.1 viewedItems) written enough]
      rfl
  · cases viewed

variable {members entries : List (String × Value)}

theorem WrittenMembers.ends (written : WrittenMembers false members bytes) (rest : List UInt8) :
    Ends (bytes ++ rest) := by
  cases written with
  | @nil _ blanks only =>
    cases blanks with
    | nil => exact .inr (.inr (.inr rfl))
    | cons b blanks => exact .inl (only b List.mem_cons_self)
  | cons only only' value more => exact .inr (.inl rfl)

theorem WrittenMembers.length_lt (written : WrittenMembers first members bytes) :
    members.length < bytes.length := by
  induction members generalizing first bytes with
  | nil =>
    cases written
    simp
  | cons m members ih =>
    cases written with
    | cons only only' value more =>
      have shorter := ih more
      simp only [List.length_cons, List.length_append]
      omega

theorem nextMember_nil (only : Blanks blanks) (first : Bool) (rest : List UInt8) :
    nextMember first (blanks ++ [0x7D] ++ rest) = .ok (false, 0x7D :: rest) := by
  have start : skipBlanks ([0x7D] ++ rest) = 0x7D :: rest := rfl
  unfold nextMember
  rw [List.append_assoc, skipBlanks_append only, start]
  simp only
  rw [if_pos trivial]

theorem nextMember_cons (only : Blanks blanks) (key : String) (first : Bool) (rest : List UInt8) :
    nextMember first (separator first ++ (blanks ++ (Utf8.encode (quoted key) ++ rest))) =
      .ok (true, Utf8.encode (key.toList.flatMap escape) ++ 0x22 :: rest) := by
  unfold nextMember
  cases first with
  | true =>
    have nothing : separator true = [] := rfl
    rw [nothing, List.nil_append, skipBlanks_text only]
    simp only
    rw [if_neg (by decide), if_pos trivial, if_pos trivial]
  | false =>
    have comma : skipBlanks (separator false ++ (blanks ++ (Utf8.encode (quoted key) ++ rest))) =
        0x2C :: (blanks ++ (Utf8.encode (quoted key) ++ rest)) := rfl
    rw [comma]
    simp only
    rw [if_neg (by decide), if_neg Bool.false_ne_true, if_pos trivial, skipBlanks_text only]
    simp only
    rw [if_pos trivial]

theorem skipColon_colon (rest : List UInt8) : skipColon (0x3A :: rest) = .ok rest := rfl

theorem readEntries_written (faithful : Faithful read view) {vs : List (String × Value)}
    (viewed : List.Forall₂ (fun m n => viewEntry view m = some n) members vs)
    (written : WrittenMembers first members bytes)
    (distinct : (entries.map (·.1) ++ members.map (·.1)).Nodup) {fuel : Nat}
    (enough : members.length < fuel) (rest : List UInt8) :
    readEntries read fuel first entries (bytes ++ rest) = .ok (entries ++ vs, rest) := by
  induction viewed generalizing first bytes fuel entries with
  | nil =>
    cases fuel with
    | zero => cases enough
    | succ fuel =>
      cases written with
      | nil only =>
        simp only [readEntries, nextMember_nil only, bind, Except.bind, List.append_nil]
        rfl
  | @cons _ _ members vs viewedEntry viewed ih =>
    cases fuel with
    | zero => cases enough
    | succ fuel =>
      cases written with
      | @cons _ key w _ blanks blanks' bytes more only only' value later =>
        obtain ⟨v, viewedValue, rfl⟩ := Option.map_eq_some_iff.1 viewedEntry
        have new : key ∉ entries.map (·.1) := by
          intro mem
          exact (List.nodup_append.1 distinct).2.2 key mem key List.mem_cons_self rfl
        have others : ((entries ++ [(key, v)]).map (·.1) ++ members.map (·.1)).Nodup := by
          simpa only [List.map_append, List.map_cons, List.map_nil, List.append_assoc,
            List.singleton_append] using distinct
        have after := ih later others (Nat.lt_of_succ_lt_succ enough)
        have entry := faithful value viewedValue (later.ends rest) only'
        simp only [List.append_assoc, List.cons_append, readEntries, nextMember_cons only, bind,
          Except.bind, if_true, readQuoted_escapes, skipColon_colon, entry, String.ofList_toList,
          Bindings.bind_of_not_mem new, after, List.nil_append]

theorem readDictionary_faithful (faithful : Faithful read view) :
    Faithful (readDictionary read) (viewDictionary view) := by
  intro w v bytes rest blanks written viewed ends only
  unfold viewDictionary at viewed
  split at viewed
  · rename_i entries
    split at viewed
    · rename_i distinct
      obtain ⟨vs, viewedEntries, rfl⟩ := Option.map_eq_some_iff.1 viewed
      cases written with
      | @object _ bytes written =>
        have start : skipBlanks (0x7B :: bytes ++ rest) = 0x7B :: (bytes ++ rest) := rfl
        have enough : entries.length < (blanks ++ (0x7B :: bytes ++ rest)).length := by
          have shorter := written.length_lt
          simp only [List.length_append, List.length_cons]
          omega
        have apart : (([] : List (String × Value)).map (·.1) ++ entries.map (·.1)).Nodup := distinct
        unfold readDictionary
        rw [skipBlanks_append only, start]
        simp only
        rw [if_pos trivial, readEntries_written faithful (mapM_eq_some_iff.1 viewedEntries) written
          apart enough]
        rfl
    · cases viewed
  · cases viewed

end SwarmDeploy.Json
