import SwarmDeploy.Proofs.Json.Escape
import SwarmDeploy.Proofs.Number.IntegerText
import SwarmDeploy.Text.Blank

/-! White space outside of strings.
The two written forms of a value differ in it and in nothing else: without the white space that
stands between its signs, the indented form is the compact one. Inside a string every character
counts, so a reader of the text has to know where strings start and end. -/

namespace SwarmDeploy.Json

inductive Place where
  | outside
  | inside
  | escaped
  deriving DecidableEq

def Place.next : Place → Char → Place
  | outside, c => if c = '"' then inside else outside
  | inside, c => if c = '\\' then escaped else if c = '"' then outside else inside
  | escaped, _ => inside

def withoutBlanks : Place → List Char → List Char
  | _, [] => []
  | p, c :: cs =>
    if p = .outside ∧ Text.isBlank c then withoutBlanks p cs else c :: withoutBlanks (p.next c) cs

variable {c : Char} {cs rest : List Char}

theorem withoutBlanks_blanks (blank : ∀ c ∈ cs, Text.isBlank c = true) (rest : List Char) :
    withoutBlanks .outside (cs ++ rest) = withoutBlanks .outside rest := by
  induction cs with
  | nil => rfl
  | cons c cs ih =>
    have first : Text.isBlank c = true := blank c List.mem_cons_self
    rw [List.cons_append, withoutBlanks, if_pos ⟨rfl, first⟩]
    exact ih fun d mem => blank d (List.mem_cons_of_mem c mem)

def IsSign (c : Char) : Prop :=
  Text.isBlank c = false ∧ c ≠ '"'

theorem withoutBlanks_sign (sign : IsSign c) (rest : List Char) :
    withoutBlanks .outside (c :: rest) = c :: withoutBlanks .outside rest := by
  have kept : ¬(Place.outside = .outside ∧ Text.isBlank c = true) := by simp [sign.1]
  rw [withoutBlanks, if_neg kept, Place.next, if_neg sign.2]

theorem withoutBlanks_signs (signs : ∀ c ∈ cs, IsSign c) (rest : List Char) :
    withoutBlanks .outside (cs ++ rest) = cs ++ withoutBlanks .outside rest := by
  induction cs with
  | nil => rfl
  | cons c cs ih =>
    rw [List.cons_append, withoutBlanks_sign (signs c List.mem_cons_self),
      ih fun d mem => signs d (List.mem_cons_of_mem c mem), List.cons_append]

theorem isSign_of_isDigit (digit : c.isDigit = true) : IsSign c := by
  have range : 48 ≤ c.toNat ∧ c.toNat ≤ 57 := by simpa [Char.isDigit_iff_toNat] using digit
  refine ⟨?_, ?_⟩
  · simp [Text.isBlank]
    omega
  · rintro rfl
    simp at range

theorem withoutBlanks_inside {p : Place} (within : p ≠ .outside) (c : Char) (rest : List Char) :
    withoutBlanks p (c :: rest) = c :: withoutBlanks (p.next c) rest := by
  rw [withoutBlanks, if_neg fun both => within both.1]

theorem withoutBlanks_plain (notQuote : c ≠ '"') (notBackslash : c ≠ '\\') (rest : List Char) :
    withoutBlanks .inside (c :: rest) = c :: withoutBlanks .inside rest := by
  rw [withoutBlanks_inside (by decide), Place.next, if_neg notBackslash, if_neg notQuote]

theorem withoutBlanks_pair (c : Char) (rest : List Char) :
    withoutBlanks .inside ('\\' :: c :: rest) = '\\' :: c :: withoutBlanks .inside rest := by
  rw [withoutBlanks_inside (by decide), withoutBlanks_inside (by decide)]
  rfl

theorem hexDigit_plain : ∀ n < 16, hexDigit n ≠ '"' ∧ hexDigit n ≠ '\\' := by
  decide

theorem withoutBlanks_escape (c : Char) (rest : List Char) :
    withoutBlanks .inside (escape c ++ rest) = escape c ++ withoutBlanks .inside rest := by
  obtain ⟨e, -, pair⟩ | ⟨control, number⟩ | ⟨-, notQuote, notBackslash, same⟩ := escape_cases c
  · rw [pair]
    exact withoutBlanks_pair e rest
  · have high := hexDigit_plain (c.toNat / 16) (by omega)
    have low := hexDigit_plain (c.toNat % 16) (by omega)
    simp only [number, numberEscape, List.cons_append, List.nil_append, withoutBlanks_pair]
    rw [withoutBlanks_plain (by decide) (by decide), withoutBlanks_plain (by decide) (by decide),
      withoutBlanks_plain high.1 high.2, withoutBlanks_plain low.1 low.2]
  · rw [same]
    exact withoutBlanks_plain notQuote notBackslash rest

theorem withoutBlanks_escapes (cs rest : List Char) :
    withoutBlanks .inside (cs.flatMap escape ++ rest) =
      cs.flatMap escape ++ withoutBlanks .inside rest := by
  induction cs with
  | nil => rfl
  | cons c cs ih =>
    rw [List.flatMap_cons, List.append_assoc, withoutBlanks_escape, ih, ← List.append_assoc]

theorem withoutBlanks_quoted (s : String) (rest : List Char) :
    withoutBlanks .outside (quoted s ++ rest) = quoted s ++ withoutBlanks .outside rest := by
  have opening (more : List Char) :
      withoutBlanks .outside ('"' :: more) = '"' :: withoutBlanks .inside more := rfl
  have closing : withoutBlanks .inside ('"' :: rest) = '"' :: withoutBlanks .outside rest := rfl
  simp only [quoted, List.cons_append, List.append_assoc, List.nil_append]
  rw [opening, withoutBlanks_escapes, closing]

theorem withoutBlanks_newLine (depth : Nat) (rest : List Char) :
    withoutBlanks .outside (newLine depth ++ rest) = withoutBlanks .outside rest := by
  refine withoutBlanks_blanks (fun c mem => ?_) rest
  obtain rfl | ⟨-, rfl⟩ := by simpa [newLine] using mem
  · rfl
  · rfl

theorem withoutBlanks_flagText (b : Bool) (rest : List Char) :
    withoutBlanks .outside (flagText b ++ rest) = flagText b ++ withoutBlanks .outside rest := by
  cases b <;> rfl

theorem withoutBlanks_integerText (n : Int) (rest : List Char) :
    withoutBlanks .outside (integerText n ++ rest) =
      integerText n ++ withoutBlanks .outside rest := by
  have digits : ∀ c ∈ Nat.toDigits 10 n.natAbs, IsSign c := fun c mem =>
    isSign_of_isDigit (Nat.isDigit_of_mem_toDigits (by decide) (by decide) mem)
  unfold integerText
  split
  · rw [List.cons_append, withoutBlanks_sign ⟨rfl, by decide⟩, withoutBlanks_signs digits]
    rfl
  · exact withoutBlanks_signs digits rest

section

variable (rest : List Char)

theorem withoutBlanks_space :
    withoutBlanks .outside (' ' :: rest) = withoutBlanks .outside rest := rfl

theorem withoutBlanks_colon :
    withoutBlanks .outside (':' :: rest) = ':' :: withoutBlanks .outside rest := rfl

theorem withoutBlanks_comma :
    withoutBlanks .outside (',' :: rest) = ',' :: withoutBlanks .outside rest := rfl

theorem withoutBlanks_openList :
    withoutBlanks .outside ('[' :: rest) = '[' :: withoutBlanks .outside rest := rfl

theorem withoutBlanks_closeList :
    withoutBlanks .outside (']' :: rest) = ']' :: withoutBlanks .outside rest := rfl

theorem withoutBlanks_openObject :
    withoutBlanks .outside ('\x7b' :: rest) = '\x7b' :: withoutBlanks .outside rest := rfl

theorem withoutBlanks_closeObject :
    withoutBlanks .outside ('\x7d' :: rest) = '\x7d' :: withoutBlanks .outside rest := rfl

end

mutual

theorem withoutBlanks_indented (depth : Nat) : (v : Value) → (rest : List Char) →
    withoutBlanks .outside (v.indented depth ++ rest) =
      v.compact ++ withoutBlanks .outside rest
  | .null, _ => rfl
  | .bool b, rest => withoutBlanks_flagText b rest
  | .int n, rest => withoutBlanks_integerText n rest
  | .text s, rest => withoutBlanks_quoted s rest
  | .list [], _ => rfl
  | .list (v :: vs), rest => by
    simp only [Value.indented, Value.compact, List.cons_append, List.append_assoc,
      withoutBlanks_openList, withoutBlanks_newLine]
    rw [withoutBlanks_indented (depth + 1) v, withoutBlanks_indentedItems depth vs]
  | .object [], _ => rfl
  | .object ((k, v) :: ms), rest => by
    simp only [Value.indented, Value.compact, List.cons_append, List.append_assoc,
      withoutBlanks_openObject, withoutBlanks_newLine, withoutBlanks_quoted, withoutBlanks_colon,
      withoutBlanks_space]
    rw [withoutBlanks_indented (depth + 1) v, withoutBlanks_indentedMembers depth ms]

theorem withoutBlanks_indentedItems (depth : Nat) : (vs : List Value) → (rest : List Char) →
    withoutBlanks .outside (indentedItems depth vs ++ rest) =
      compactItems vs ++ withoutBlanks .outside rest
  | [], rest => by
    rw [indentedItems, List.append_assoc, withoutBlanks_newLine]
    exact withoutBlanks_closeList rest
  | v :: vs, rest => by
    simp only [indentedItems, compactItems, List.cons_append, List.append_assoc,
      withoutBlanks_comma, withoutBlanks_newLine]
    rw [withoutBlanks_indented (depth + 1) v, withoutBlanks_indentedItems depth vs]

theorem withoutBlanks_indentedMembers (depth : Nat) :
    (ms : List (String × Value)) → (rest : List Char) →
    withoutBlanks .outside (indentedMembers depth ms ++ rest) =
      compactMembers ms ++ withoutBlanks .outside rest
  | [], rest => by
    rw [indentedMembers, List.append_assoc, withoutBlanks_newLine]
    exact withoutBlanks_closeObject rest
  | (k, v) :: ms, rest => by
    simp only [indentedMembers, compactMembers, List.cons_append, List.append_assoc,
      withoutBlanks_comma, withoutBlanks_newLine, withoutBlanks_quoted, withoutBlanks_colon,
      withoutBlanks_space]
    rw [withoutBlanks_indented (depth + 1) v, withoutBlanks_indentedMembers depth ms]

end

/-- Both forms of a value differ only in white space outside of strings. -/
theorem withoutBlanks_toIndentedText (v : Value) :
    String.ofList (withoutBlanks .outside v.toIndentedText.toList) = v.toText := by
  have written := withoutBlanks_indented 0 v []
  rw [List.append_nil, withoutBlanks, List.append_nil] at written
  rw [Value.toIndentedText, String.toList_ofList, written, Value.toText]

end SwarmDeploy.Json
