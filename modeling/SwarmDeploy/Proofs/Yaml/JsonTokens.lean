import SwarmDeploy.Proofs.Yaml.Flow

/-! JSON texts as tokens of YAML.
The compact form of an object is a text of YAML. It has the tokens of the value that the text was
made of, apart from its strings, of which the lines are folded. -/

namespace SwarmDeploy.Json
open Yaml (Allowed Cursor Token inQuotes reread)
open Yaml.Cursor

mutual

def Value.mapTexts (f : String → Option String) : Value → Option Value
  | .null => some .null
  | .bool b => some (.bool b)
  | .int n => some (.int n)
  | .text s => (f s).map .text
  | .list items => (mapItems f items).map .list
  | .object members => (mapMembers f members).map .object

def mapItems (f : String → Option String) : List Value → Option (List Value)
  | [] => some []
  | v :: vs => (v.mapTexts f).bind fun w => (mapItems f vs).map (w :: ·)

def mapMembers (f : String → Option String) :
    List (String × Value) → Option (List (String × Value))
  | [] => some []
  | (k, v) :: ms => (v.mapTexts f).bind fun w => (mapMembers f ms).map ((k, w) :: ·)

end

mutual

def Value.Keyed : Value → Prop
  | .list items => KeyedItems items
  | .object members => KeyedMembers members
  | _ => True

def KeyedItems : List Value → Prop
  | [] => True
  | v :: vs => v.Keyed ∧ KeyedItems vs

def KeyedMembers : List (String × Value) → Prop
  | [] => True
  | (k, v) :: ms => IsKey k ∧ v.Keyed ∧ KeyedMembers ms

end

theorem keyedMembers_iff {ms : List (String × Value)} :
    KeyedMembers ms ↔ ∀ m ∈ ms, IsKey m.1 ∧ m.2.Keyed := by
  induction ms with
  | nil => simp [KeyedMembers]
  | cons m ms ih => rw [KeyedMembers, ih, List.forall_mem_cons, and_assoc]

mutual

def Value.ownTexts : Value → List String
  | .text s => [s]
  | .list items => itemTexts items
  | .object members => memberTexts members
  | _ => []

def itemTexts : List Value → List String
  | [] => []
  | v :: vs => v.ownTexts ++ itemTexts vs

def memberTexts : List (String × Value) → List String
  | [] => []
  | (_, v) :: ms => v.ownTexts ++ memberTexts ms

end

def commaUnless (first : Bool) : List Token :=
  if first then [] else [.comma]

mutual

def Value.tokens : Value → List Token
  | .null => [.scalar (String.ofList nullText) .plain]
  | .bool b => [.scalar (String.ofList (flagText b)) .plain]
  | .int n => [.scalar (String.ofList (integerText n)) .plain]
  | .text s => [.scalar s .quoted]
  | .list items => .openSequence :: itemTokens true items
  | .object members => .openMapping :: memberTokens true members

def itemTokens (first : Bool) : List Value → List Token
  | [] => [.closeSequence]
  | v :: vs => commaUnless first ++ v.tokens ++ itemTokens false vs

def memberTokens (first : Bool) : List (String × Value) → List Token
  | [] => [.closeMapping]
  | (k, v) :: ms =>
    commaUnless first ++ [.key, .scalar k .quoted, .value] ++ v.tokens ++ memberTokens false ms

end

variable {c : Cursor} {rest : List Char} {ts : List Token} {depth : Nat} {v : Value}

theorem isWord_of_digits {cs : List Char} (given : cs ≠ []) (digits : ∀ c ∈ cs, c.isDigit = true) :
    IsWord cs ∧ IsWord ('-' :: cs) := by
  have letters : ∀ c ∈ cs, c.isAlphanum = true := fun c mem => by
    simp [Char.isAlphanum, digits c mem]
  cases cs with
  | nil => exact absurd rfl given
  | cons d ds => exact ⟨.letters letters, .minus letters⟩

theorem isWord_integerText (n : Int) : IsWord (integerText n) := by
  have digits : ∀ c ∈ Nat.toDigits 10 n.natAbs, c.isDigit = true := fun c mem =>
    Nat.isDigit_of_mem_toDigits (by decide) (by decide) mem
  have words := isWord_of_digits Nat.toDigits_ne_nil digits
  unfold integerText
  split
  · exact words.2
  · exact words.1

theorem isWord_flagText (b : Bool) : IsWord (flagText b) := by
  cases b <;> exact .letters (List.all_eq_true.1 (by decide))

theorem isWord_nullText : IsWord nullText :=
  .letters (List.all_eq_true.1 (by decide))

def EndsValue (rest : List Char) : Prop :=
  ∃ d ds, rest = d :: ds ∧ Yaml.isFlowIndicator d = true

theorem endsValue_compactItems (vs : List Value) (rest : List Char) :
    EndsValue (compactItems vs ++ rest) := by
  cases vs with
  | nil => exact ⟨']', rest, rfl, rfl⟩
  | cons v vs => exact ⟨',', _, rfl, rfl⟩

theorem endsValue_compactMembers (ms : List (String × Value)) (rest : List Char) :
    EndsValue (compactMembers ms ++ rest) := by
  cases ms with
  | nil => exact ⟨'\x7d', rest, rfl, rfl⟩
  | cons m ms => exact ⟨',', _, rfl, rfl⟩

theorem quoted_append (s : String) (rest : List Char) :
    quoted s ++ rest = '"' :: inQuotes s.toList rest := by
  simp [quoted, inQuotes]

theorem scans_word {word : List Char} (isWord : IsWord word) (ends : EndsValue rest)
    (at_ : c.At (word ++ rest) ts (depth + 1)) :
    Scans c rest (depth + 1) (some (ts ++ [.scalar (String.ofList word) .plain])) := by
  obtain ⟨d, ds, rfl, indicator⟩ := ends
  exact at_.scans_word isWord indicator

theorem join_items (f : String → Option String) (ts : List Token) (first : Bool) (v : Value)
    (vs : List Value) :
    (((v.mapTexts f).map fun w => ts ++ commaUnless first ++ w.tokens).bind fun ts' =>
      (mapItems f vs).map fun ws => ts' ++ itemTokens false ws) =
    (mapItems f (v :: vs)).map fun ws => ts ++ itemTokens first ws := by
  rw [mapItems]
  cases v.mapTexts f with
  | none => rfl
  | some w => cases mapItems f vs <;> simp [itemTokens]

theorem join_members (f : String → Option String) (ts : List Token) (first : Bool) (k : String)
    (v : Value) (ms : List (String × Value)) :
    (((v.mapTexts f).map fun w =>
        ts ++ commaUnless first ++ [.key, .scalar k .quoted, .value] ++ w.tokens).bind fun ts' =>
      (mapMembers f ms).map fun ws => ts' ++ memberTokens false ws) =
    (mapMembers f ((k, v) :: ms)).map fun ws => ts ++ memberTokens first ws := by
  rw [mapMembers]
  cases v.mapTexts f with
  | none => rfl
  | some w => cases mapMembers f ms <;> simp [memberTokens]

theorem goes_name {k : String} (isKey : IsKey k)
    (at_ : c.At (quoted k ++ ':' :: rest) ts (depth + 1)) (allowed : c.keyAllowed = true) :
    ∃ c', Goes c c' ∧ c'.At rest (ts ++ [.key, .scalar k .quoted, .value]) (depth + 1) := by
  rw [quoted_append] at at_
  exact at_.goes_key isKey allowed

mutual

/-- A value in brackets is read as its tokens, and the cursor stands right behind it. -/
theorem scans_value : (v : Value) → v.Keyed → ∀ {c : Cursor} {rest : List Char} {ts : List Token}
    {depth : Nat}, EndsValue rest → c.At (v.compact ++ rest) ts (depth + 1) →
    Scans c rest (depth + 1) ((v.mapTexts reread).map fun w => ts ++ w.tokens)
  | .null, _, _, _, _, _, ends, at_ => scans_word isWord_nullText ends at_
  | .bool b, _, _, _, _, _, ends, at_ => scans_word (isWord_flagText b) ends at_
  | .int n, _, _, _, _, _, ends, at_ => scans_word (isWord_integerText n) ends at_
  | .text s, _, c, rest, ts, depth, _, at_ => by
    rw [Value.compact, quoted_append] at at_
    have scans := at_.scans_text
    rw [Value.mapTexts, reread, Option.map_map, Option.map_map]
    exact scans
  | .list [], _, c, rest, ts, depth, _, at_ => by
    obtain ⟨c', opened, at', -⟩ := at_.goes_open (.inl ⟨rfl, rfl⟩)
    have closed := at'.scans_close (.inl ⟨rfl, rfl⟩)
    rw [List.append_assoc] at closed
    exact opened.scans closed
  | .list (v :: vs), keyed, c, rest, ts, depth, _, at_ => by
    rw [Value.compact, List.cons_append, List.cons_append, List.append_assoc] at at_
    obtain ⟨c', opened, at', -⟩ := at_.goes_open (.inl ⟨rfl, rfl⟩)
    have first := scans_value v keyed.1 (endsValue_compactItems vs rest) at'
    have whole := first.bind fun ts' c'' at'' => scans_items vs keyed.2 at''
    have join := join_items reread (ts ++ [.openSequence]) true v vs
    simp only [commaUnless, if_true, List.append_nil, List.append_assoc] at join whole
    rw [join] at whole
    rw [Value.mapTexts, Option.map_map]
    exact opened.scans whole
  | .object ms, keyed, c, rest, ts, depth, _, at_ => by
    have scans := scans_object ms keyed at_
    rw [Value.mapTexts, Option.map_map]
    exact scans

/-- An object is read in the same way where no bracket is around it. -/
theorem scans_object : (ms : List (String × Value)) → KeyedMembers ms → ∀ {c : Cursor}
    {rest : List Char} {ts : List Token} {depth : Nat},
    c.At ((Value.object ms).compact ++ rest) ts depth →
    Scans c rest depth ((mapMembers reread ms).map fun ws => ts ++ (Value.object ws).tokens)
  | [], _, c, rest, ts, depth, at_ => by
    obtain ⟨c', opened, at', -⟩ := at_.goes_open (.inr ⟨rfl, rfl⟩)
    have closed := at'.scans_close (.inr ⟨rfl, rfl⟩)
    rw [List.append_assoc] at closed
    exact opened.scans closed
  | (k, v) :: ms, keyed, c, rest, ts, depth, at_ => by
    simp only [Value.compact, List.cons_append, List.append_assoc] at at_
    obtain ⟨c', opened, at', allowed⟩ := at_.goes_open (.inr ⟨rfl, rfl⟩)
    obtain ⟨c₁, named, at₁⟩ := goes_name keyed.1 at' allowed
    have first := scans_value v keyed.2.1 (endsValue_compactMembers ms rest) at₁
    have whole := first.bind fun ts' c'' at'' => scans_members ms keyed.2.2 at''
    have join := join_members reread (ts ++ [.openMapping]) true k v ms
    simp only [commaUnless, if_true, List.append_nil, List.append_assoc] at join whole
    rw [join] at whole
    exact (opened.trans named).scans whole

theorem scans_items : (vs : List Value) → KeyedItems vs → ∀ {c : Cursor} {rest : List Char}
    {ts : List Token} {depth : Nat}, c.At (compactItems vs ++ rest) ts (depth + 1) →
    Scans c rest depth ((mapItems reread vs).map fun ws => ts ++ itemTokens false ws)
  | [], _, _, _, _, _, at_ => at_.scans_close (.inl ⟨rfl, rfl⟩)
  | v :: vs, keyed, c, rest, ts, depth, at_ => by
    simp only [compactItems, List.cons_append, List.append_assoc] at at_
    obtain ⟨c', passed, at', -⟩ := at_.goes_comma
    have first := scans_value v keyed.1 (endsValue_compactItems vs rest) at'
    have whole := first.bind fun ts' c'' at'' => scans_items vs keyed.2 at''
    rw [← join_items reread ts false v vs]
    exact passed.scans whole

theorem scans_members : (ms : List (String × Value)) → KeyedMembers ms → ∀ {c : Cursor}
    {rest : List Char} {ts : List Token} {depth : Nat},
    c.At (compactMembers ms ++ rest) ts (depth + 1) →
    Scans c rest depth ((mapMembers reread ms).map fun ws => ts ++ memberTokens false ws)
  | [], _, _, _, _, _, at_ => at_.scans_close (.inr ⟨rfl, rfl⟩)
  | (k, v) :: ms, keyed, c, rest, ts, depth, at_ => by
    simp only [compactMembers, List.cons_append, List.append_assoc] at at_
    obtain ⟨c', passed, at', allowed⟩ := at_.goes_comma
    obtain ⟨c₁, named, at₁⟩ := goes_name keyed.1 at' allowed
    have first := scans_value v keyed.2.1 (endsValue_compactMembers ms rest) at₁
    have whole := first.bind fun ts' c'' at'' => scans_members ms keyed.2.2 at''
    rw [← join_members reread ts false k v ms]
    exact (passed.trans named).scans whole

end

theorem isAllowed_of_visible {c : Char} (above : 0x20 ≤ c.toNat) (below : c.toNat < 0x7F) :
    Yaml.isAllowed c = true := by
  simp [Yaml.isAllowed]
  omega

theorem all_allowed_word {word : List Char} (isWord : IsWord word) :
    word.all Yaml.isAllowed = true := by
  have letters {cs : List Char} (all : ∀ c ∈ cs, c.isAlphanum = true) :
      cs.all Yaml.isAllowed = true := by
    rw [List.all_eq_true]
    intro c mem
    have range := toNat_of_isAlphanum (all c mem)
    exact isAllowed_of_visible (by omega) (by omega)
  cases isWord with
  | letters all => exact letters all
  | minus all =>
    rw [List.all_cons, letters all]
    rfl

theorem all_allowed_escape (c : Char) :
    (escape c).all Yaml.isAllowed = true ↔ c.toNat < 0x20 ∨ Yaml.isAllowed c = true := by
  obtain ⟨e, pair, written⟩ | ⟨control, number⟩ | ⟨visible, -, -, alone⟩ := escape_cases c
  · have known : ∀ p ∈ letters, ['\\', p.2].all Yaml.isAllowed = true ∧
      (p.1.toNat < 0x20 ∨ Yaml.isAllowed p.1 = true) := by decide
    rw [written]
    exact iff_of_true (known _ pair).1 (known _ pair).2
  · have known : ∀ n < 0x20, (numberEscape n).all Yaml.isAllowed = true := by decide
    rw [number]
    exact iff_of_true (known _ control) (.inl control)
  · have above : ¬c.toNat < 0x20 := by omega
    simp [alone, above]

theorem all_allowed_quoted (s : String) : (quoted s).all Yaml.isAllowed = true ↔ Allowed s := by
  have quotes : Yaml.isAllowed '"' = true := by decide
  simp only [quoted, List.cons_append, List.all_cons, List.all_append, List.all_nil, quotes,
    Bool.true_and, Bool.and_true, List.all_flatMap, List.all_eq_true, Allowed]
  exact forall₂_congr fun c _ => by simpa using all_allowed_escape c

theorem allowed_of_isKey {k : String} (isKey : IsKey k) : Allowed k := by
  intro c mem
  obtain ⟨above, below, -⟩ := isKey.visible c mem
  exact .inr (isAllowed_of_visible (by omega) below)

theorem allowed_signs : Yaml.isAllowed '[' = true ∧ Yaml.isAllowed ']' = true ∧
    Yaml.isAllowed '\x7b' = true ∧ Yaml.isAllowed '\x7d' = true ∧ Yaml.isAllowed ',' = true ∧
    Yaml.isAllowed ':' = true := by
  decide

mutual

theorem all_allowed_compact : (v : Value) → v.Keyed →
    (v.compact.all Yaml.isAllowed = true ↔ ∀ s ∈ v.ownTexts, Allowed s)
  | .null, _ => by simp [Value.compact, Value.ownTexts, all_allowed_word isWord_nullText]
  | .bool b, _ => by simp [Value.compact, Value.ownTexts, all_allowed_word (isWord_flagText b)]
  | .int n, _ => by simp [Value.compact, Value.ownTexts, all_allowed_word (isWord_integerText n)]
  | .text s, _ => by
    rw [Value.compact, all_allowed_quoted, Value.ownTexts, List.forall_mem_singleton]
  | .list [], _ => by simp [Value.compact, Value.ownTexts, itemTexts, allowed_signs]
  | .list (v :: vs), keyed => by
    simp only [Value.compact, Value.ownTexts, itemTexts, List.cons_append, List.all_cons,
      List.all_append, Bool.and_eq_true, List.forall_mem_append, allowed_signs, true_and]
    rw [all_allowed_compact v keyed.1, all_allowed_items vs keyed.2]
  | .object [], _ => by simp [Value.compact, Value.ownTexts, memberTexts, allowed_signs]
  | .object ((k, v) :: ms), keyed => by
    have name := (all_allowed_quoted k).2 (allowed_of_isKey keyed.1)
    simp only [Value.compact, Value.ownTexts, memberTexts, List.cons_append, List.all_cons,
      List.all_append, Bool.and_eq_true, List.forall_mem_append, allowed_signs, name, true_and]
    rw [all_allowed_compact v keyed.2.1, all_allowed_members ms keyed.2.2]

theorem all_allowed_items : (vs : List Value) → KeyedItems vs →
    ((compactItems vs).all Yaml.isAllowed = true ↔ ∀ s ∈ itemTexts vs, Allowed s)
  | [], _ => by simp [compactItems, itemTexts, allowed_signs]
  | v :: vs, keyed => by
    simp only [compactItems, itemTexts, List.cons_append, List.all_cons, List.all_append,
      Bool.and_eq_true, List.forall_mem_append, allowed_signs, true_and]
    rw [all_allowed_compact v keyed.1, all_allowed_items vs keyed.2]

theorem all_allowed_members : (ms : List (String × Value)) → KeyedMembers ms →
    ((compactMembers ms).all Yaml.isAllowed = true ↔ ∀ s ∈ memberTexts ms, Allowed s)
  | [], _ => by simp [compactMembers, memberTexts, allowed_signs]
  | (k, v) :: ms, keyed => by
    have name := (all_allowed_quoted k).2 (allowed_of_isKey keyed.1)
    simp only [compactMembers, memberTexts, List.cons_append, List.all_cons, List.all_append,
      Bool.and_eq_true, List.forall_mem_append, allowed_signs, name, true_and]
    rw [all_allowed_compact v keyed.2.1, all_allowed_members ms keyed.2.2]

end

theorem object_eq_cons (ms : List (String × Value)) :
    ∃ rest, (Value.object ms).compact = '\x7b' :: rest := by
  cases ms with
  | nil => exact ⟨_, rfl⟩
  | cons m ms => exact ⟨_, rfl⟩

theorem tokens_toText_eq_some_iff {ms : List (String × Value)} (keyed : KeyedMembers ms) :
    Yaml.tokens (Value.object ms).toText = some ts ↔ (∀ s ∈ memberTexts ms, Allowed s) ∧
      ∃ ws, mapMembers reread ms = some ws ∧ (Value.object ws).tokens = ts := by
  obtain ⟨rest, text⟩ := object_eq_cons ms
  have scans : Scans { rest := (Value.object ms).compact } [] 0
      ((mapMembers reread ms).map fun ws => [] ++ (Value.object ws).tokens) := by
    refine scans_object ms keyed ?_
    rw [List.append_nil, text]
    exact at_start rest
  have read := scans.readAll (Nat.lt_succ_self _)
  have bare : (if (Value.object ms).compact.head? == some Yaml.byteOrderMark
      then (Value.object ms).compact.drop 1 else (Value.object ms).compact) =
      (Value.object ms).compact := by
    rw [text]
    rfl
  have allowed := all_allowed_compact (.object ms) keyed
  rw [Value.ownTexts] at allowed
  rw [Yaml.tokens, Value.toText, String.toList_ofList, bare, ← allowed]
  rw [read]
  cases (Value.object ms).compact.all Yaml.isAllowed <;> simp

end SwarmDeploy.Json
