import Mathlib.Data.List.Infix
import Mathlib.Tactic.Common
import SwarmDeploy.Proofs.Json.Escape
import SwarmDeploy.Text.Split
import SwarmDeploy.Yaml.Scalar

/-! JSON strings as scalars in double quotes.
What JSON escapes is read as it was meant. It leaves three line breaks of YAML as they are, though,
and these are folded together with the spaces around them. -/

namespace SwarmDeploy.Yaml
open Json (escape letters numberEscape hexDigit escape_cases)

def breaksRaw (c : Char) : Bool :=
  c.toNat == 0x85 || isSeparator c

def startsBlank : List Char → Bool
  | [] => false
  | c :: _ => c == ' ' || breaksRaw c

def spells (sign : Char) (cs : List Char) : Bool :=
  (Text.dropStart (List.replicate 3 sign) cs).any startsBlank

def spellsMark (cs : List Char) : Bool :=
  spells '-' cs || spells '.' cs

/-- What is read in quotes behind a gap where JSON has written a text. -/
def refold (atStart : Bool) (gap : Option Gap) : List Char → Option (List Char)
  | [] => some (gap.getD {}).text
  | c :: cs =>
    let g := gap.getD {}
    if c = ' ' then refold false (some (g.addSpace c)) cs
    else if breaksRaw c then refold true (some (g.addBreak c)) cs
    else if gap.isSome && atStart && spellsMark (c :: cs) then none
    else (refold false none cs).map (g.text ++ [c] ++ ·)

variable {c sign : Char} {cs rest : List Char} {gap : Option Gap} {column : Nat}

theorem startsWithMark_eq (sign : Char) (cs : List Char) :
    startsWithMark sign cs = (Text.dropStart (List.replicate 3 sign) cs).any atBlank := by
  cases found : Text.dropStart (List.replicate 3 sign) cs with
  | some rest =>
    rw [Text.dropStart_eq_some_iff.1 found]
    simp [startsWithMark, List.replicate]
  | none =>
    unfold startsWithMark
    split
    · rename_i a b c rest
      have differ : ¬(a = sign ∧ b = sign ∧ c = sign) := by
        rintro ⟨rfl, rfl, rfl⟩
        simp [Text.dropStart, List.replicate] at found
      rw [Option.any_none, Bool.eq_false_iff]
      intro all
      simp only [Bool.and_eq_true, beq_iff_eq] at all
      exact differ ⟨all.1.1.1, all.1.1.2, all.1.2⟩
    · rfl

theorem atDocumentMark_of_ne (noHyphen : c ≠ '-') (noDot : c ≠ '.') (cs : List Char) :
    atDocumentMark (c :: cs) = false := by
  simp [atDocumentMark, startsWithMark_eq, List.replicate, Text.dropStart, noHyphen.symm,
    noDot.symm]

theorem spellsMark_of_ne (noHyphen : c ≠ '-') (noDot : c ≠ '.') (cs : List Char) :
    spellsMark (c :: cs) = false := by
  simp [spellsMark, spells, List.replicate, Text.dropStart, noHyphen.symm, noDot.symm]

def inQuotes (cs rest : List Char) : List Char :=
  cs.flatMap escape ++ '"' :: rest

theorem inQuotes_cons (c : Char) (cs rest : List Char) :
    inQuotes (c :: cs) rest = escape c ++ inQuotes cs rest := by
  simp [inQuotes]

/-- Hyphens and dots stand in quotes as they are, and nothing else looks like them. -/
theorem dropStart_inQuotes (plain : sign = '-' ∨ sign = '.') (n : Nat) (cs rest : List Char) :
    Text.dropStart (List.replicate n sign) (inQuotes cs rest) =
      (Text.dropStart (List.replicate n sign) cs).map (inQuotes · rest) := by
  have notQuote : sign ≠ '"' := by rcases plain with rfl | rfl <;> decide
  have notBackslash : sign ≠ '\\' := by rcases plain with rfl | rfl <;> decide
  have same : escape sign = [sign] := by rcases plain with rfl | rfl <;> rfl
  induction n generalizing cs with
  | zero => rfl
  | succ n ih =>
    cases cs with
    | nil => simp [inQuotes, List.replicate_succ, Text.dropStart, notQuote]
    | cons c cs =>
      rw [inQuotes_cons, List.replicate_succ]
      by_cases here : sign = c
      · subst here
        simp [same, Text.dropStart, ih]
      · obtain ⟨e, -, pair⟩ | ⟨-, number⟩ | ⟨-, -, -, alone⟩ := escape_cases c
        · simp [pair, Text.dropStart, notBackslash, here]
        · simp [number, numberEscape, Text.dropStart, notBackslash, here]
        · simp [alone, Text.dropStart, here]

structure IsOrdinary (c : Char) : Prop where
  noSpace : c ≠ ' '
  noBreak : breaksRaw c = false
  noHyphen : c ≠ '-'
  noDot : c ≠ '.'

theorem isOrdinary_of_letters {e : Char} (pair : (c, e) ∈ letters) : IsOrdinary c := by
  have known : ∀ p ∈ letters, p.1 ≠ ' ' ∧ breaksRaw p.1 = false ∧ p.1 ≠ '-' ∧ p.1 ≠ '.' := by
    decide
  obtain ⟨noSpace, noBreak, noHyphen, noDot⟩ := known _ pair
  exact ⟨noSpace, noBreak, noHyphen, noDot⟩

theorem isOrdinary_of_control (control : c.toNat < 0x20) : IsOrdinary c := by
  have other {d : Char} (visible : 0x20 ≤ d.toNat) : c ≠ d := by
    rintro rfl
    omega
  refine ⟨other (by decide), ?_, other (by decide), other (by decide)⟩
  simp [breaksRaw, isSeparator]
  omega

theorem isBreak_eq (visible : 0x20 ≤ c.toNat) : isBreak c = breaksRaw c := by
  have noFeed : (c == '\n') = false := by
    rw [beq_eq_false_iff_ne]
    rintro rfl
    exact absurd visible (by decide)
  have noReturn : (c == '\r') = false := by
    rw [beq_eq_false_iff_ne]
    rintro rfl
    exact absurd visible (by decide)
  rw [isBreak, breaksRaw, noFeed, noReturn, Bool.false_or, Bool.false_or]

theorem isSpace_eq (visible : 0x20 ≤ c.toNat) : isSpace c = (c == ' ') := by
  have noTab : (c == '\t') = false := by
    rw [beq_eq_false_iff_ne]
    rintro rfl
    exact absurd visible (by decide)
  rw [isSpace, noTab, Bool.or_false]

theorem atBlank_inQuotes (cs rest : List Char) :
    atBlank (inQuotes cs rest) = startsBlank cs := by
  have notBlank {c : Char} (ordinary : IsOrdinary c) (cs : List Char) :
      startsBlank (c :: cs) = false := by
    simp [startsBlank, ordinary.noSpace, ordinary.noBreak]
  cases cs with
  | nil => rfl
  | cons c cs =>
    rw [inQuotes_cons]
    obtain ⟨e, pair, written⟩ | ⟨control, number⟩ | ⟨visible, -, -, alone⟩ := escape_cases c
    · rw [written, notBlank (isOrdinary_of_letters pair)]
      rfl
    · rw [number, notBlank (isOrdinary_of_control control)]
      rfl
    · rw [alone]
      exact congrArg₂ or (isSpace_eq visible) (isBreak_eq visible)

theorem atDocumentMark_inQuotes (cs rest : List Char) :
    atDocumentMark (inQuotes cs rest) = spellsMark cs := by
  have marks {sign : Char} (plain : sign = '-' ∨ sign = '.') :
      startsWithMark sign (inQuotes cs rest) = spells sign cs := by
    rw [startsWithMark_eq, dropStart_inQuotes plain, spells]
    cases Text.dropStart (List.replicate 3 sign) cs with
    | none => rfl
    | some after => exact atBlank_inQuotes after rest
  rw [atDocumentMark, marks (.inl rfl), marks (.inr rfl), spellsMark]

theorem scanDouble_letter {e : Char} (pair : (c, e) ∈ letters) (rest : List Char) :
    scanDouble column gap ('\\' :: e :: rest) =
      (scanDouble (column + 2) none rest).map (.prepend ((gap.getD {}).text ++ [c])) := by
  have known : ∀ p ∈ letters, isBreak p.2 = false ∧ p.2 ≠ 'x' ∧ p.2 ≠ 'u' ∧ p.2 ≠ 'U' ∧
    shortEscape p.2 = some p.1 := by decide
  obtain ⟨noBreak, notX, notU, notBig, read⟩ := known _ pair
  have noMark := atDocumentMark_of_ne (c := '\\') (by decide) (by decide) (e :: rest)
  have sign : isSpace '\\' = false ∧ isBreak '\\' = false := by decide
  simp only at noBreak notX notU notBig read
  rw [scanDouble.eq_def]
  simp [sign.1, sign.2, noMark, noBreak, notX, notU, notBig, read]

theorem hexChar_control : ∀ n < 0x20,
    hexChar ['0', '0', hexDigit (n / 16), hexDigit (n % 16)] = some (Char.ofNat n) := by
  decide

theorem scanDouble_number (control : c.toNat < 0x20) (rest : List Char) :
    scanDouble column gap (numberEscape c.toNat ++ rest) =
      (scanDouble (column + 6) none rest).map (.prepend ((gap.getD {}).text ++ [c])) := by
  have read := hexChar_control c.toNat control
  rw [Char.ofNat_toNat] at read
  have noMark := atDocumentMark_of_ne (c := '\\') (by decide) (by decide)
  have sign : isSpace '\\' = false ∧ isBreak '\\' = false ∧ isBreak 'u' = false := by decide
  rw [numberEscape, List.cons_append, scanDouble.eq_def]
  simp [sign.1, sign.2, noMark, read]

theorem refold_ordinary (ordinary : IsOrdinary c) (atStart : Bool) (gap : Option Gap)
    (cs : List Char) : refold atStart gap (c :: cs) =
      (refold false none cs).map ((gap.getD {}).text ++ [c] ++ ·) := by
  have noMark := spellsMark_of_ne ordinary.noHyphen ordinary.noDot cs
  simp [refold, ordinary.noSpace, ordinary.noBreak, noMark]

theorem prepend_read (before : List Char) (read : Option (List Char)) (rest : List Char) :
    (read.map fun text => (⟨text, rest, false⟩ : Scanned)).map (Scanned.prepend before) =
      (read.map (before ++ ·)).map fun text => (⟨text, rest, false⟩ : Scanned) := by
  rw [Option.map_map, Option.map_map]
  rfl

/-- What JSON has written in quotes is read as the text with its lines folded again. -/
theorem scanDouble_inQuotes (cs rest : List Char) :
    scanDouble column gap (inQuotes cs rest) =
      (refold (column == 0) gap cs).map fun text => ⟨text, rest, false⟩ := by
  induction cs generalizing column gap with
  | nil =>
    have noMark := atDocumentMark_of_ne (c := '"') (by decide) (by decide) rest
    have sign : isSpace '"' = false ∧ isBreak '"' = false := by decide
    rw [inQuotes, List.flatMap_nil, List.nil_append, scanDouble.eq_def]
    simp [sign.1, sign.2, noMark, refold]
  | cons c cs ih =>
    rw [inQuotes_cons]
    obtain ⟨e, pair, written⟩ | ⟨control, number⟩ | ⟨visible, notQuote, notBackslash, alone⟩ :=
      escape_cases c
    · rw [written, refold_ordinary (isOrdinary_of_letters pair), List.cons_append,
        List.cons_append, List.nil_append, scanDouble_letter pair, ih, prepend_read]
      rfl
    · rw [number, refold_ordinary (isOrdinary_of_control control), scanDouble_number control, ih,
        prepend_read]
      rfl
    · have short : startsLongBreak c (inQuotes cs rest) = false := by
        have noReturn : c ≠ '\r' := by
          rintro rfl
          exact absurd visible (by decide)
        simp [startsLongBreak, noReturn]
      have mark : atDocumentMark (c :: inQuotes cs rest) = spellsMark (c :: cs) := by
        rw [← atDocumentMark_inQuotes (c :: cs) rest, inQuotes_cons, alone]
        rfl
      rw [alone, List.cons_append, List.nil_append, scanDouble.eq_def, refold]
      simp only [isSpace_eq visible, isBreak_eq visible, short, mark, notQuote, notBackslash,
        beq_iff_eq, Bool.false_eq_true, if_false]
      split
      · exact ih
      · split
        · exact ih
        · split
          · rfl
          · rw [ih, prepend_read]
            rfl

end SwarmDeploy.Yaml
