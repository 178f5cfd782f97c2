import SwarmDeploy.Proofs.Text.Pattern
import SwarmDeploy.Quantity.Memory

/-! The spellings of memory sizes.
The pattern of a size is a number, a space, a unit and two marks, all but the number optional. No
character can stand for two of them, so a text is spelled in one way at most. The pattern takes
more numbers than can be read: digits of other scripts, and numbers with several dots. -/

namespace SwarmDeploy.Memory
open SwarmDeploy.Text SwarmDeploy.Number
open scoped Computability

def unitLetters : List Char :=
  ['k', 'K', 'm', 'M', 'g', 'G', 't', 'T', 'p', 'P']

/-- The powers of 1024 that letters stand for. -/
def units : List (Char × ℕ) :=
  [('k', 1), ('K', 1), ('m', 2), ('M', 2), ('g', 3), ('G', 3), ('t', 4), ('T', 4), ('p', 5),
    ('P', 5)]

def binaryMarks : List Char :=
  ['i', 'I']

def byteMarks : List Char :=
  ['b', 'B']

namespace Pattern

def number : Language Char :=
  separated '.' (many (oneOf isDecimalDigit))

def decimal : Language Char :=
  many (oneOf isAsciiDigit) * maybe (oneOf (· == '.') * many (oneOf isAsciiDigit))

def size : Language Char :=
  number * (maybe (oneOf (· == ' ')) * (maybe (oneOf (· ∈ unitLetters)) *
    (maybe (oneOf (· ∈ binaryMarks)) * maybe (oneOf (· ∈ byteMarks)))))

end Pattern

namespace Spelling

structure Follows (s : Spelling) : Prop where
  number : s.number ∈ Pattern.number
  unit : ∀ c ∈ s.unit, c ∈ unitLetters
  binary : ∀ c ∈ s.binary, c ∈ binaryMarks
  byte : ∀ c ∈ s.byte, c ∈ byteMarks

def gap (s : Spelling) : Option Char :=
  if s.space then some ' ' else none

def suffix (s : Spelling) : List Char :=
  s.gap.toList ++ (s.unit.toList ++ (s.binary.toList ++ s.byte.toList))

theorem text_eq (s : Spelling) : s.text = s.number ++ s.suffix := by
  unfold text suffix gap
  cases s.space <;> simp

end Spelling

variable {p : Char → Bool} {cs number : List Char}

theorem toList_takeOptional (p : Char → Bool) (cs : List Char) :
    (takeOptional p cs).1.toList ++ (takeOptional p cs).2 = cs := by
  cases cs with
  | nil => rfl
  | cons c cs =>
    rw [takeOptional]
    split <;> rfl

theorem of_mem_takeOptional {c : Char} (mem : c ∈ (takeOptional p cs).1) : p c = true := by
  cases cs with
  | nil => cases mem
  | cons d cs =>
    rw [takeOptional] at mem
    split at mem
    · rename_i class_
      cases mem
      exact class_
    · cases mem

theorem takeOptional_append {o : Option Char} {rest : List Char} (class_ : ∀ c ∈ o, p c = true)
    (next : ∀ c ∈ rest, p c = false) : takeOptional p (o.toList ++ rest) = (o, rest) := by
  cases o with
  | some c => simp [takeOptional, class_ c rfl]
  | none =>
    cases rest with
    | nil => rfl
    | cons c rest => simp [takeOptional, next c List.mem_cons_self]

theorem span_append {rest : List Char} (inside : ∀ c ∈ cs, p c = true)
    (outside : ∀ c ∈ rest, p c = false) :
    (cs ++ rest).takeWhile p = cs ∧ (cs ++ rest).dropWhile p = rest := by
  rw [List.takeWhile_append_of_pos inside, List.dropWhile_append_of_pos inside]
  cases rest with
  | nil => simp
  | cons c rest =>
    have stop := outside c List.mem_cons_self
    simp [stop]

theorem of_any_eq_false (absent : cs.any p = false) : ∀ c ∈ cs, p c = false :=
  fun c mem => by simpa using List.any_eq_false.1 absent c mem

theorem unitPower_eq_some_iff {c : Char} {e : ℕ} : unitPower c = some e ↔ (c, e) ∈ units := by
  constructor
  · intro power
    unfold unitPower at power
    split_ifs at power with k m g t p
    all_goals cases power
    · rcases k with rfl | rfl <;> decide
    · rcases m with rfl | rfl <;> decide
    · rcases g with rfl | rfl <;> decide
    · rcases t with rfl | rfl <;> decide
    · rcases p with rfl | rfl <;> decide
  · have known : ∀ u ∈ units, unitPower u.1 = some u.2 := by decide
    exact known (c, e)

theorem isSome_unitPower_iff {c : Char} : (unitPower c).isSome = true ↔ c ∈ unitLetters := by
  have letters : unitLetters = units.map Prod.fst := rfl
  rw [Option.isSome_iff_exists, letters, List.mem_map]
  constructor
  · rintro ⟨e, power⟩
    exact ⟨(c, e), unitPower_eq_some_iff.1 power, rfl⟩
  · rintro ⟨⟨_, e⟩, mem, rfl⟩
    exact ⟨e, unitPower_eq_some_iff.2 mem⟩

theorem dot_not_mem_group : ∀ group ∈ many (oneOf isDecimalDigit), '.' ∉ group :=
  fun _ mem dot => absurd ((mem_many_oneOf.1 mem).2 '.' dot) (by decide)

theorem isNumber_iff : isNumber number = true ↔ number ∈ Pattern.number := by
  rw [Pattern.number, mem_separated_iff dot_not_mem_group, isNumber, List.all_eq_true]
  simp [mem_many_oneOf]

theorem over_number : Over inNumber Pattern.number := by
  refine Over.separated (Over.many (Over.oneOf fun c digit => ?_)) rfl
  simp [inNumber, digit]

namespace Spelling
variable {s t : Spelling}

theorem mem_gap {c : Char} (mem : c ∈ s.gap) : c = ' ' := by
  unfold gap at mem
  split at mem
  · exact (Option.mem_some.1 mem).symm
  · cases mem

theorem Follows.mem_marks (follows : s.Follows) :
    ∀ c ∈ s.binary.toList ++ s.byte.toList, c ∈ binaryMarks ++ byteMarks := by
  intro c mem
  rcases List.mem_append.1 mem with mem | mem
  · exact List.mem_append_left _ (follows.binary c (Option.mem_toList.1 mem))
  · exact List.mem_append_right _ (follows.byte c (Option.mem_toList.1 mem))

theorem Follows.mem_letters (follows : s.Follows) :
    ∀ c ∈ s.unit.toList ++ (s.binary.toList ++ s.byte.toList),
      c ∈ unitLetters ++ (binaryMarks ++ byteMarks) := by
  intro c mem
  rcases List.mem_append.1 mem with mem | mem
  · exact List.mem_append_left _ (follows.unit c (Option.mem_toList.1 mem))
  · exact List.mem_append_right _ (follows.mem_marks c mem)

theorem Follows.mem_suffix (follows : s.Follows) :
    ∀ c ∈ s.suffix, c ∈ ' ' :: (unitLetters ++ (binaryMarks ++ byteMarks)) := by
  intro c mem
  rcases List.mem_append.1 mem with mem | mem
  · exact mem_gap (Option.mem_toList.1 mem) ▸ List.mem_cons_self
  · exact List.mem_cons_of_mem _ (follows.mem_letters c mem)

/-- The parts are found again in the text: no character of one part is of the kind that is looked
for in front of it. -/
theorem read_text (follows : s.Follows) : read s.text = some s := by
  have behindNumber := of_any_eq_false
    (by decide : (' ' :: (unitLetters ++ (binaryMarks ++ byteMarks))).any inNumber = false)
  have behindSpace := of_any_eq_false
    (by decide : (unitLetters ++ (binaryMarks ++ byteMarks)).any (· == ' ') = false)
  have behindUnit := of_any_eq_false
    (by decide : (binaryMarks ++ byteMarks).any (fun c => (unitPower c).isSome) = false)
  have behindMark := of_any_eq_false
    (by decide : byteMarks.any (fun c => c == 'i' || c == 'I') = false)
  obtain ⟨taken, dropped⟩ := span_append (over_number s.number follows.number)
    (fun c mem => behindNumber c (follows.mem_suffix c mem))
  have spaceTaken := takeOptional_append (p := (· == ' ')) (o := s.gap)
    (fun c mem => by rw [mem_gap mem]; rfl)
    (fun c mem => behindSpace c (follows.mem_letters c mem))
  have unitTaken := takeOptional_append (fun c mem => isSome_unitPower_iff.2 (follows.unit c mem))
    (fun c mem => behindUnit c (follows.mem_marks c mem))
  have binaryTaken := takeOptional_append (p := fun c => c == 'i' || c == 'I') (o := s.binary)
    (fun c mem => by simpa [binaryMarks] using follows.binary c mem)
    (fun c mem => behindMark c (follows.byte c (Option.mem_toList.1 mem)))
  have byteTaken : takeOptional (fun c => c == 'b' || c == 'B') (s.byte.toList ++ []) =
      (s.byte, []) :=
    takeOptional_append (fun c mem => by simpa [byteMarks] using follows.byte c mem) (by simp)
  rw [List.append_nil] at byteTaken
  have space : s.gap.isSome = s.space := by
    unfold gap
    cases s.space <;> rfl
  rw [text_eq, read]
  simp only [taken, dropped]
  simp only [suffix, spaceTaken, unitTaken, binaryTaken, byteTaken, space,
    isNumber_iff.2 follows.number, and_self, if_true]

theorem follows_of_read (found : read cs = some s) : s.Follows ∧ s.text = cs := by
  unfold read at found
  extract_lets number space unit binary byte at found
  split at found
  · rename_i whole
    cases found
    have joined : number ++ (space.1.toList ++ (unit.1.toList ++ (binary.1.toList ++
        (byte.1.toList ++ byte.2)))) = cs := by
      rw [toList_takeOptional, toList_takeOptional, toList_takeOptional, toList_takeOptional,
        List.takeWhile_append_dropWhile]
    have space_eq : gap ⟨number, space.1.isSome, unit.1, binary.1, byte.1⟩ = space.1 := by
      cases taken : space.1 with
      | none => rfl
      | some c =>
        have isSpace := of_mem_takeOptional (p := (· == ' ')) taken
        rw [beq_iff_eq.1 isSpace]
        rfl
    refine ⟨⟨isNumber_iff.1 whole.1, fun c mem => ?_, fun c mem => ?_, fun c mem => ?_⟩, ?_⟩
    · exact isSome_unitPower_iff.1 (of_mem_takeOptional mem)
    · simpa [binaryMarks] using of_mem_takeOptional mem
    · simpa [byteMarks] using of_mem_takeOptional mem
    · rw [text_eq, suffix, space_eq, ← joined, whole.2, List.append_nil]
  · cases found

theorem read_eq_some_iff : read cs = some s ↔ s.Follows ∧ s.text = cs := by
  constructor
  · exact follows_of_read
  · rintro ⟨follows, rfl⟩
    exact read_text follows

theorem text_injective (follows : s.Follows) (follows' : t.Follows) (same : s.text = t.text) :
    s = t := by
  have found := read_text follows
  rw [same, read_text follows'] at found
  exact (Option.some.inj found).symm

end Spelling

theorem mem_maybe_oneOf :
    cs ∈ maybe (oneOf p) ↔ ∃ o : Option Char, (∀ c ∈ o, p c = true) ∧ o.toList = cs := by
  rw [mem_maybe, mem_oneOf]
  constructor
  · rintro (rfl | ⟨c, class_, rfl⟩)
    · exact ⟨none, by simp, rfl⟩
    · exact ⟨some c, by simpa using class_, rfl⟩
  · rintro ⟨_ | c, class_, rfl⟩
    · exact .inl rfl
    · exact .inr ⟨c, class_ c rfl, rfl⟩

theorem mem_size_iff : cs ∈ Pattern.size ↔ ∃ s : Spelling, s.Follows ∧ s.text = cs := by
  simp only [Pattern.size, Language.mem_mul, mem_maybe_oneOf, decide_eq_true_eq]
  constructor
  · rintro ⟨number, inNumber, _, ⟨_, ⟨gap, isGap, rfl⟩, _, ⟨_, ⟨unit, isUnit, rfl⟩, _,
      ⟨_, ⟨binary, isBinary, rfl⟩, _, ⟨byte, isByte, rfl⟩, rfl⟩, rfl⟩, rfl⟩, rfl⟩
    refine ⟨⟨number, gap.isSome, unit, binary, byte⟩, ⟨inNumber, isUnit, isBinary, isByte⟩, ?_⟩
    rw [Spelling.text_eq, Spelling.suffix]
    cases gap with
    | none => rfl
    | some c =>
      rw [beq_iff_eq.1 (isGap c rfl)]
      rfl
  · rintro ⟨s, follows, rfl⟩
    refine ⟨s.number, follows.number, s.suffix, ?_, s.text_eq.symm⟩
    exact ⟨_, ⟨s.gap, fun c mem => by rw [Spelling.mem_gap mem]; rfl, rfl⟩, _,
      ⟨_, ⟨s.unit, follows.unit, rfl⟩, _, ⟨_, ⟨s.binary, follows.binary, rfl⟩, _,
        ⟨s.byte, follows.byte, rfl⟩, rfl⟩, rfl⟩, rfl⟩

def IsUnreadable (number : List Char) : Prop :=
  (∃ c ∈ number, c ≠ '.' ∧ isAsciiDigit c = false) ∨ 2 ≤ number.count '.'

theorem decimalParts_eq_none_iff : decimalParts number = none ↔ IsUnreadable number := by
  have length := length_pieces '.' number
  have ascii : (number.all fun c => isAsciiDigit c || c == '.') = true ↔
      ¬∃ c ∈ number, c ≠ '.' ∧ isAsciiDigit c = false := by
    simp only [List.all_eq_true, Bool.or_eq_true, beq_iff_eq, not_exists, not_and,
      Bool.not_eq_false]
    exact forall₂_congr fun c _ => by tauto
  unfold decimalParts IsUnreadable
  split
  · rename_i all
    rw [or_iff_right (ascii.1 all)]
    split
    · rename_i whole one
      simp only [one, List.length_cons, List.length_nil] at length
      simp
      omega
    · rename_i whole fraction two
      simp only [two, List.length_cons, List.length_nil] at length
      simp
      omega
    · rename_i notOne notTwo
      rcases groups : pieces '.' number with _ | ⟨first, _ | ⟨second, _ | ⟨third, more⟩⟩⟩
      · exact absurd groups (pieces_ne_nil '.' number)
      · exact absurd groups (notOne first)
      · exact absurd groups (notTwo first second)
      · simp only [groups, List.length_cons] at length
        simp
        omega
  · rename_i notAll
    simp only [true_iff]
    exact .inl (not_not.1 (mt ascii.2 notAll))

abbrev digits : Language Char :=
  many (oneOf isAsciiDigit)

theorem mem_decimal : number ∈ Pattern.decimal ↔ number ∈ digits ∨
    ∃ whole ∈ digits, ∃ fraction ∈ digits, number = whole ++ '.' :: fraction := by
  rw [Pattern.decimal, Language.mem_mul]
  simp only [mem_maybe, mem_oneOf_mul]
  constructor
  · rintro ⟨whole, inWhole, _, rfl | ⟨c, fraction, dot, inFraction, rfl⟩, rfl⟩
    · exact .inl (by rwa [List.append_nil])
    · rw [beq_iff_eq.1 dot]
      exact .inr ⟨whole, inWhole, fraction, inFraction, rfl⟩
  · rintro (inWhole | ⟨whole, inWhole, fraction, inFraction, rfl⟩)
    · exact ⟨number, inWhole, [], .inl rfl, List.append_nil number⟩
    · exact ⟨whole, inWhole, _, .inr ⟨'.', fraction, rfl, inFraction, rfl⟩, rfl⟩

section
variable {whole fraction : List Char}

theorem dot_not_mem_digits (mem : whole ∈ digits) : '.' ∉ whole :=
  fun dot => absurd ((mem_many_oneOf.1 mem).2 '.' dot) (by decide)

theorem decimalParts_whole (inWhole : whole ∈ digits) :
    decimalParts whole = some (digitsValue whole, 0) := by
  have all : (whole.all fun c => isAsciiDigit c || c == '.') = true := by
    simp only [List.all_eq_true, Bool.or_eq_true]
    exact fun c mem => .inl ((mem_many_oneOf.1 inWhole).2 c mem)
  rw [decimalParts, if_pos all, pieces_of_not_mem (dot_not_mem_digits inWhole)]

theorem decimalParts_fraction (inWhole : whole ∈ digits) (inFraction : fraction ∈ digits) :
    decimalParts (whole ++ '.' :: fraction) =
      some (digitsValue (whole ++ fraction), -(fraction.length : Int)) := by
  have all : ((whole ++ '.' :: fraction).all fun c => isAsciiDigit c || c == '.') = true := by
    simp only [List.all_append, List.all_cons, Bool.and_eq_true, List.all_eq_true, Bool.or_eq_true]
    exact ⟨fun c mem => .inl ((mem_many_oneOf.1 inWhole).2 c mem), .inr rfl,
      fun c mem => .inl ((mem_many_oneOf.1 inFraction).2 c mem)⟩
  rw [decimalParts, if_pos all, pieces_append (dot_not_mem_digits inWhole),
    pieces_of_not_mem (dot_not_mem_digits inFraction)]

end

theorem not_isUnreadable_of_mem_decimal (mem : number ∈ Pattern.decimal) :
    ¬IsUnreadable number := by
  rw [← decimalParts_eq_none_iff]
  rcases mem_decimal.1 mem with inWhole | ⟨whole, inWhole, fraction, inFraction, rfl⟩
  · simp [decimalParts_whole inWhole]
  · simp [decimalParts_fraction inWhole inFraction]

theorem mem_decimal_of_readable (mem : number ∈ Pattern.number) (readable : ¬IsUnreadable number) :
    number ∈ Pattern.decimal := by
  obtain ⟨ascii, few⟩ := not_or.1 readable
  rw [Pattern.number, mem_separated_iff dot_not_mem_group] at mem
  have group : ∀ piece ∈ pieces '.' number, '.' ∉ piece → piece ⊆ number → piece ∈ digits := by
    intro piece inPieces noDot inNumber
    refine mem_many_oneOf.2 ⟨(mem_many_oneOf.1 (mem piece inPieces)).1, fun c occurs => ?_⟩
    by_contra other
    refine ascii ⟨c, inNumber occurs, fun dot => noDot (dot ▸ occurs), ?_⟩
    simpa using other
  cases cut : cutFirst '.' number with
  | none =>
    have noDot := cutFirst_eq_none_iff.1 cut
    rw [pieces_of_not_mem noDot] at group
    exact mem_decimal.2 (.inl (group number (List.mem_singleton_self _) noDot (List.Subset.refl _)))
  | some parts =>
    obtain ⟨whole, fraction⟩ := parts
    obtain ⟨noDot, rfl⟩ := cutFirst_eq_some_iff.1 cut
    have noDot' : '.' ∉ fraction := by
      rw [List.count_append, List.count_cons_self, List.count_eq_zero.2 noDot] at few
      exact List.count_eq_zero.1 (by omega)
    rw [pieces_append noDot, pieces_of_not_mem noDot'] at group
    refine mem_decimal.2 (.inr ⟨whole, ?_, fraction, ?_, rfl⟩)
    · exact group whole (by simp) noDot (by simp)
    · exact group fraction (by simp) noDot' (fun c mem => by simp [mem])

theorem mem_number_of_mem_decimal (mem : number ∈ Pattern.decimal) : number ∈ Pattern.number := by
  have group : ∀ cs ∈ digits, cs ∈ many (oneOf isDecimalDigit) := by
    intro cs inDigits
    obtain ⟨notEmpty, ascii⟩ := mem_many_oneOf.1 inDigits
    exact mem_many_oneOf.2 ⟨notEmpty, fun c mem => isDecimalDigit_of_isAsciiDigit (ascii c mem)⟩
  rcases mem_decimal.1 mem with inWhole | ⟨whole, inWhole, fraction, inFraction, rfl⟩
  · exact mem_separated_of_mem (group number inWhole)
  · exact append_mem_separated (group whole inWhole)
      (mem_separated_of_mem (group fraction inFraction))

theorem mem_decimal_iff :
    number ∈ Pattern.decimal ↔ number ∈ Pattern.number ∧ ¬IsUnreadable number :=
  ⟨fun mem => ⟨mem_number_of_mem_decimal mem, not_isUnreadable_of_mem_decimal mem⟩,
    fun readable => mem_decimal_of_readable readable.1 readable.2⟩

namespace Spelling
variable {s t : Spelling} {text other : String}

def Spells (s : Spelling) (text : String) : Prop :=
  s.Follows ∧ s.text = text.toList

def outcome (s : Spelling) : Except QuantityFault Int :=
  match decimalParts s.number with
  | none => .error (.notANumber s.number)
  | some (digits, exponent) =>
    match bytes digits exponent s.power with
    | none => .error .tooLarge
    | some n => .ok n

theorem Spells.parse_eq (spells : s.Spells text) : parse text = s.outcome := by
  rw [parse, parseChars, ← spells.2, read_text spells.1]
  rfl

theorem parse_eq_malformed_iff : parse text = .error .malformed ↔ text.toList ∉ Pattern.size := by
  rw [mem_size_iff]
  constructor
  · rintro refused ⟨s, spells⟩
    rw [Spells.parse_eq spells, outcome] at refused
    split at refused
    · cases refused
    · split at refused <;> cases refused
  · intro none
    have unread : read text.toList = .none :=
      Option.eq_none_iff_forall_not_mem.2 fun s found => none ⟨s, read_eq_some_iff.1 found⟩
    rw [parse, parseChars, unread]

theorem Spells.parse_eq_notANumber_iff (spells : s.Spells text) :
    parse text = .error (.notANumber s.number) ↔ IsUnreadable s.number := by
  rw [spells.parse_eq, ← decimalParts_eq_none_iff, outcome]
  constructor
  · intro refused
    split at refused
    · assumption
    · split at refused <;> cases refused
  · intro none
    rw [none]

theorem outcome_congr (number : s.number = t.number) (power : s.power = t.power) :
    s.outcome = t.outcome := by
  rw [outcome, outcome, number, power]

theorem unitPower_toLower {c : Char} (letter : c ∈ unitLetters) :
    unitPower c.toLower = unitPower c := by
  simp only [unitLetters, List.mem_cons, List.not_mem_nil, or_false] at letter
  rcases letter with rfl | rfl | rfl | rfl | rfl | rfl | rfl | rfl | rfl | rfl <;> rfl

theorem power_congr (follows : s.Follows) (follows' : t.Follows)
    (same : s.unit.map Char.toLower = t.unit.map Char.toLower) : s.power = t.power := by
  unfold power
  cases unit : s.unit <;> cases unit' : t.unit <;> rw [unit, unit'] at same
  case none.some => cases same
  case some.none => cases same
  case some.some c d =>
    have equal : c.toLower = d.toLower := Option.some.inj same
    rw [Option.bind_some, Option.bind_some, ← unitPower_toLower (follows.unit c unit), equal,
      unitPower_toLower (follows'.unit d unit')]

theorem exists_spells {n : Int} (parsed : parse text = .ok n) :
    ∃ s : Spelling, s.Spells text ∧ s.number ∈ Pattern.decimal := by
  have inSize : text.toList ∈ Pattern.size := by
    by_contra outside
    rw [parse_eq_malformed_iff.2 outside] at parsed
    cases parsed
  obtain ⟨s, spells⟩ := mem_size_iff.1 inSize
  refine ⟨s, spells, mem_decimal_iff.2 ⟨spells.1.number, fun unreadable => ?_⟩⟩
  rw [Spells.parse_eq_notANumber_iff spells |>.2 unreadable] at parsed
  cases parsed

/-- A size that is read is spelled in one way, with a decimal number. The pattern decides which
texts are malformed, and the number of a text of the pattern which are no numbers. The outcome
depends on the number and on the unit up to its case. -/
theorem size_has_one_spelling (text : String) :
    (∀ n, parse text = .ok n → ∃ s : Spelling, s.Spells text ∧ s.number ∈ Pattern.decimal) ∧
    (∀ s t : Spelling, s.Spells text → t.Spells text → s = t) ∧
    (parse text = .error .malformed ↔ text.toList ∉ Pattern.size) ∧
    (∀ s : Spelling, s.Spells text → text.toList ∈ Pattern.size ∧
      (parse text = .error (.notANumber s.number) ↔ IsUnreadable s.number)) ∧
    ∀ (other : String) (s t : Spelling), s.Spells text → t.Spells other → s.number = t.number →
      s.unit.map Char.toLower = t.unit.map Char.toLower → parse text = parse other := by
  refine ⟨fun n => exists_spells, fun s t spells spells' => ?_, parse_eq_malformed_iff,
    fun s spells => ⟨mem_size_iff.2 ⟨s, spells⟩, spells.parse_eq_notANumber_iff⟩,
    fun other s t spells spells' number unit => ?_⟩
  · exact text_injective spells.1 spells'.1 (spells.2.trans spells'.2.symm)
  · rw [spells.parse_eq, spells'.parse_eq]
    exact outcome_congr number (power_congr spells.1 spells'.1 unit)

/-- Two spellings of one size: every optional part, and only the unit. -/
theorem gibibytes_spelled_twice :
    Spells ⟨"1.5".toList, true, some 'G', some 'i', some 'B'⟩ "1.5 GiB" ∧
      Spells ⟨"1.5".toList, false, some 'g', none, none⟩ "1.5g" ∧
      (some 'G').map Char.toLower = (some 'g').map Char.toLower ∧
      parse "1.5 GiB" = parse "1.5g" := by
  have full : Spells ⟨"1.5".toList, true, some 'G', some 'i', some 'B'⟩ "1.5 GiB" :=
    follows_of_read (by rfl)
  have short : Spells ⟨"1.5".toList, false, some 'g', none, none⟩ "1.5g" :=
    follows_of_read (by rfl)
  exact ⟨full, short, by decide,
    (size_has_one_spelling "1.5 GiB").2.2.2.2 "1.5g" _ _ full short rfl (by decide)⟩

end Spelling
end SwarmDeploy.Memory
