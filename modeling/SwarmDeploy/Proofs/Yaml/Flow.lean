import SwarmDeploy.Proofs.Yaml.Folding
import SwarmDeploy.Yaml.Token

/-! The scanner inside of brackets.
Nothing depends on the indentation there, no key is required, and every token is read where the
last one ends. What a cursor knows of keys is therefore left open here, but for the key that stands
right in front of a colon. -/

namespace SwarmDeploy.Yaml.Cursor

/-- A cursor in front of `rest`, with `ts` behind it and `depth` open brackets around it. Only a
bracket stands at the start of a line, where marks of documents would. -/
structure At (rest : List Char) (ts : List Token) (depth : Nat) (c : Cursor) : Prop where
  rest : c.rest = rest
  tokens : c.tokens = ts
  depth : c.outerKeyStarts.length = depth
  loose : ∀ k ∈ c.keyStart :: c.outerKeyStarts, ∀ s ∈ k, s.required = false
  inside : c.column = 0 → c.rest.head? = some '\x7b'
  indent : c.indent = -1
  outerIndents : c.outerIndents = []

variable {c c' c'' : Cursor} {d : Char} {rest rest' word : List Char} {ts ts' : List Token}
  {depth depth' : Nat} {found : Option (List Token)}

def Goes (c c' : Cursor) : Prop :=
  ∀ fuel, c.rest.length < fuel →
    ∃ fuel', c'.rest.length < fuel' ∧ c.readAll fuel = c'.readAll fuel'

def Stuck (c : Cursor) : Prop :=
  ∀ fuel, c.rest.length < fuel → c.readAll fuel = none

/-- The scanner comes to `rest` with all the tokens that are found, or else it gets stuck. -/
def Scans (c : Cursor) (rest : List Char) (depth : Nat) : Option (List Token) → Prop
  | none => Stuck c
  | some ts => ∃ c', Goes c c' ∧ c'.At rest ts depth

theorem Goes.refl (c : Cursor) : Goes c c :=
  fun fuel enough => ⟨fuel, enough, rfl⟩

theorem Goes.trans (first : Goes c c') (second : Goes c' c'') : Goes c c'' := by
  intro fuel enough
  obtain ⟨fuel', enough', same⟩ := first fuel enough
  obtain ⟨fuel'', enough'', same'⟩ := second fuel' enough'
  exact ⟨fuel'', enough'', same.trans same'⟩

theorem Goes.stuck (goes : Goes c c') (stuck : Stuck c') : Stuck c := by
  intro fuel enough
  obtain ⟨fuel', enough', same⟩ := goes fuel enough
  exact same.trans (stuck fuel' enough')

theorem Goes.scans (goes : Goes c c') (scans : Scans c' rest depth found) :
    Scans c rest depth found := by
  cases found with
  | none => exact goes.stuck scans
  | some ts =>
    obtain ⟨c'', further, at''⟩ := scans
    exact ⟨c'', goes.trans further, at''⟩

theorem Scans.bind {next : List Token → Option (List Token)} (scans : Scans c rest depth found)
    (further : ∀ ts c', c'.At rest ts depth → Scans c' rest' depth' (next ts)) :
    Scans c rest' depth' (found.bind next) := by
  cases found with
  | none => exact scans
  | some ts =>
    obtain ⟨c', goes, at'⟩ := scans
    exact goes.scans (further ts c' at')

def Visible (d : Char) : Prop :=
  isSpace d = false ∧ isBreak d = false ∧ d ≠ '#'

instance (d : Char) : Decidable (Visible d) :=
  inferInstanceAs (Decidable (_ ∧ _))

theorem dropBlanks_visible (visible : Visible d) (flow keyAllowed : Bool) (rest : List Char) :
    dropBlanks flow keyAllowed false (d :: rest) = (keyAllowed, d :: rest) := by
  obtain ⟨noSpace, noBreak, noComment⟩ := visible
  simp only [isSpace, Bool.or_eq_false_iff, beq_eq_false_iff_ne] at noSpace
  simp [dropBlanks, noBreak, noSpace.1, noSpace.2, noComment]

theorem moveTo_self (c : Cursor) : c.moveTo c.rest = c := by
  simp [moveTo, Position.advance]

def settled (c : Cursor) : Cursor :=
  { c with
    keyStart := c.keyStart.filter (!·.isPast c.position)
    outerKeyStarts := c.outerKeyStarts.map (·.filter (!·.isPast c.position)) }

theorem At.settled (at_ : c.At rest ts depth) : c.settled.At rest ts depth where
  rest := at_.rest
  tokens := at_.tokens
  depth := by simpa [Cursor.settled] using at_.depth
  loose := by
    intro k mem s own
    simp only [Cursor.settled, List.mem_cons, List.mem_map] at mem
    obtain rfl | ⟨k', mem, rfl⟩ := mem
    · exact at_.loose _ List.mem_cons_self s (Option.filter_eq_some_iff.1 own).1
    · exact at_.loose k' (List.mem_cons_of_mem _ mem) s (Option.filter_eq_some_iff.1 own).1
  inside := at_.inside
  indent := at_.indent
  outerIndents := at_.outerIndents

theorem At.skipBlanks (at_ : c.At (d :: rest) ts depth) (visible : Visible d) :
    c.skipBlanks = c := by
  have same : c.moveTo (d :: rest) = c := by rw [← at_.rest, moveTo_self]
  rw [Cursor.skipBlanks, at_.rest, dropBlanks_visible visible]
  simp only [same]

theorem At.forgetPastKeys (at_ : c.At rest ts depth) : c.forgetPastKeys = some c.settled := by
  have loose : ((c.keyStart :: c.outerKeyStarts).any
      (·.any fun k => k.required && k.isPast c.position)) = false := by
    rw [List.any_eq_false]
    intro k mem
    cases own : k with
    | none => simp
    | some s => simp [at_.loose k mem s own]
  rw [Cursor.forgetPastKeys, if_neg (by simpa using loose)]
  rfl

theorem At.closeBlocks (at_ : c.At rest ts depth) (column : Int) : c.closeBlocks column = c := by
  have unindented : unindent column c.indent c.outerIndents = (c.indent, c.outerIndents, 0) := by
    rw [at_.outerIndents]
    rfl
  rw [Cursor.closeBlocks, unindented]
  simp

theorem At.readAll_succ (at_ : c.At (d :: rest) ts depth) (visible : Visible d) (fuel : Nat) :
    c.readAll (fuel + 1) = (c.settled.readToken d rest).bind fun c' => c'.readAll fuel := by
  rw [readAll, at_.skipBlanks visible, at_.forgetPastKeys]
  simp only [Option.bind_eq_bind, Option.bind_some, at_.settled.closeBlocks, at_.settled.rest]

theorem At.goes (at_ : c.At (d :: rest) ts depth) (visible : Visible d)
    (token : c.settled.readToken d rest = some c') (at' : c'.At rest' ts' depth')
    (less : rest'.length ≤ rest.length) : Goes c c' := by
  rw [← at'.rest] at less
  intro fuel enough
  rw [at_.rest, List.length_cons] at enough
  obtain ⟨fuel, rfl⟩ : ∃ n, fuel = n + 1 := ⟨fuel - 1, by omega⟩
  refine ⟨fuel, by omega, ?_⟩
  rw [at_.readAll_succ visible, token, Option.bind_some]

theorem At.stuck (at_ : c.At (d :: rest) ts depth) (visible : Visible d)
    (token : c.settled.readToken d rest = none) : Stuck c := by
  intro fuel enough
  obtain ⟨fuel, rfl⟩ : ∃ n, fuel = n + 1 := ⟨fuel - 1, by omega⟩
  rw [at_.readAll_succ visible, token, Option.bind_none]

theorem At.column_ne (at_ : c.At (d :: rest) ts depth) (other : d ≠ '\x7b') : c.column ≠ 0 :=
  fun zero => other (by simpa [at_.rest] using at_.inside zero)

theorem moveTo_append (text : List Char) (next : c.rest = text ++ rest) :
    c.moveTo rest = { c with rest, position := c.position.advance text } := by
  have read : c.rest.take (c.rest.length - rest.length) = text := by simp [next]
  rw [moveTo, read]

theorem skip_one (next : c.rest = d :: rest) (noBreak : isBreak d = false) :
    c.skip 1 = { c with
      rest, position := ⟨c.position.index + 1, c.position.line, c.position.column + 1⟩ } := by
  have moved := moveTo_append [d] next
  rw [skip, next, List.drop_succ_cons, List.drop_zero, moved]
  simp [Position.advance, noBreak]

theorem At.forgetKey (at_ : c.At rest ts depth) :
    c.forgetKey = some { c with keyStart := none } := by
  have loose : c.keyStart.any KeyStart.required = false := by
    cases own : c.keyStart with
    | none => rfl
    | some k => exact at_.loose _ List.mem_cons_self k own
  rw [Cursor.forgetKey, loose]
  rfl

theorem At.noteKey (at_ : c.At rest ts depth) (allowed : c.keyAllowed = true) :
    c.noteKey = some { c with keyStart := some ⟨c.position, ts.length, false⟩ } := by
  have noIndent : (c.indent == (c.column : Int)) = false := by
    rw [at_.indent, beq_eq_false_iff_ne]
    omega
  rw [Cursor.noteKey, if_pos allowed, at_.forgetKey]
  simp [column, inFlow, at_.tokens] at noIndent ⊢
  exact fun _ => noIndent

theorem At.withKeys (at_ : c.At rest ts depth) {k : Option KeyStart}
    (loose : ∀ s ∈ k, s.required = false) : ({ c with keyStart := k } : Cursor).At rest ts depth :=
  { at_ with
    loose := by
      intro k' mem s own
      obtain rfl | mem := List.mem_cons.1 mem
      · exact loose s own
      · exact at_.loose k' (List.mem_cons_of_mem _ mem) s own }

theorem At.exists_noteKey (at_ : c.At rest ts depth) :
    ∃ c', c.noteKey = some c' ∧ c'.At rest ts depth := by
  cases allowed : c.keyAllowed with
  | true =>
    refine ⟨_, at_.noteKey allowed, at_.withKeys ?_⟩
    rintro s own
    cases own
    rfl
  | false => exact ⟨c, by simp [Cursor.noteKey, allowed], at_⟩

theorem At.skip_emit (at_ : c.At (d :: rest) ts depth) (noBreak : isBreak d = false) (t : Token) :
    ((c.skip 1).emit t).At rest (ts ++ [t]) depth := by
  rw [skip_one at_.rest noBreak]
  exact {
    rest := rfl
    tokens := congrArg (· ++ [t]) at_.tokens
    depth := at_.depth
    loose := at_.loose
    inside := fun zero => absurd zero (Nat.succ_ne_zero _)
    indent := at_.indent
    outerIndents := at_.outerIndents }

theorem At.openBracket (at_ : c.At (d :: rest) ts depth) (noBreak : isBreak d = false)
    (t : Token) : ∃ c', c.openBracket t = some c' ∧ c'.At rest (ts ++ [t]) (depth + 1) ∧
      c'.keyAllowed = true := by
  obtain ⟨c₁, noted, at₁⟩ := at_.exists_noteKey
  have opened := at₁.skip_emit noBreak t
  rw [Cursor.openBracket, noted]
  refine ⟨_, rfl, ?_, rfl⟩
  exact { opened with
    depth := congrArg (· + 1) at₁.depth
    loose := by
      intro k mem s own
      obtain rfl | mem := List.mem_cons.1 mem
      · cases own
      · exact at₁.loose k mem s own }

theorem At.closeBracket (at_ : c.At (d :: rest) ts (depth + 1)) (noBreak : isBreak d = false)
    (t : Token) : ∃ c', c.closeBracket t = some c' ∧ c'.At rest (ts ++ [t]) depth := by
  have closed := (at_.withKeys (k := none) nofun).skip_emit noBreak t
  rw [Cursor.closeBracket, at_.forgetKey]
  have some := at_.depth
  cases outer : c.outerKeyStarts with
  | nil => simp [outer] at some
  | cons k outerKeyStarts =>
    refine ⟨_, rfl, ?_⟩
    simp only
    exact { closed with
      depth := by simpa [outer] using some
      loose := fun k' mem s own =>
        at_.loose k' (List.mem_cons_of_mem _ (by rw [outer]; exact mem)) s own }

theorem At.comma (at_ : c.At (',' :: rest) ts depth) :
    ∃ c', c.comma = some c' ∧ c'.At rest (ts ++ [.comma]) depth ∧ c'.keyAllowed = true := by
  have next := (at_.withKeys (k := none) nofun).skip_emit rfl .comma
  rw [Cursor.comma, at_.forgetKey]
  exact ⟨_, rfl, { next with }, rfl⟩

theorem readToken_openMapping (c : Cursor) (rest : List Char) :
    c.readToken '\x7b' rest = c.openBracket .openMapping := by
  have mark (sign : Char) (other : sign ≠ '\x7b') :
      startsWithMark sign ('\x7b' :: rest) = false := by
    rw [startsWithMark_eq, List.replicate_succ, Text.dropStart, if_neg other]
    rfl
  simp [readToken, mark '-' (by decide), mark '.' (by decide)]

theorem readToken_openSequence (inside : c.column ≠ 0) (rest : List Char) :
    c.readToken '[' rest = c.openBracket .openSequence := by
  simp [readToken, inside]

theorem At.goes_open {t : Token} (at_ : c.At (d :: rest) ts depth)
    (bracket : d = '[' ∧ t = .openSequence ∨ d = '\x7b' ∧ t = .openMapping) :
    ∃ c', Goes c c' ∧ c'.At rest (ts ++ [t]) (depth + 1) ∧ c'.keyAllowed = true := by
  obtain ⟨rfl, rfl⟩ | ⟨rfl, rfl⟩ := bracket
  · obtain ⟨c', opened, at', allowed⟩ := at_.settled.openBracket rfl .openSequence
    rw [← readToken_openSequence (at_.settled.column_ne (by decide)) rest] at opened
    exact ⟨c', at_.goes (by decide) opened at' (Nat.le_refl _), at', allowed⟩
  · obtain ⟨c', opened, at', allowed⟩ := at_.settled.openBracket rfl .openMapping
    rw [← readToken_openMapping c.settled rest] at opened
    exact ⟨c', at_.goes (by decide) opened at' (Nat.le_refl _), at', allowed⟩

theorem At.scans_close {t : Token} (at_ : c.At (d :: rest) ts (depth + 1))
    (bracket : d = ']' ∧ t = .closeSequence ∨ d = '\x7d' ∧ t = .closeMapping) :
    Scans c rest depth (some (ts ++ [t])) := by
  obtain ⟨rfl, rfl⟩ | ⟨rfl, rfl⟩ := bracket
  all_goals
    have inside := at_.settled.column_ne (by decide)
    obtain ⟨c', closed, at'⟩ := at_.settled.closeBracket rfl _
    refine ⟨c', at_.goes (by decide) ?_ at' (Nat.le_refl _), at'⟩
    simpa [readToken, inside] using closed

theorem At.goes_comma (at_ : c.At (',' :: rest) ts depth) :
    ∃ c', Goes c c' ∧ c'.At rest (ts ++ [.comma]) depth ∧ c'.keyAllowed = true := by
  have inside := at_.settled.column_ne (by decide)
  obtain ⟨c', read, at', allowed⟩ := at_.settled.comma
  refine ⟨c', at_.goes (by decide) ?_ at' (Nat.le_refl _), at', allowed⟩
  simpa [readToken, inside] using read

theorem column_advance_concat (noBreak : isBreak d = false) (cs : List Char) (p : Position) :
    (p.advance (cs ++ [d])).column ≠ 0 := by
  induction cs generalizing p with
  | nil => simp [Position.advance, noBreak]
  | cons c cs ih =>
    rw [List.cons_append, Position.advance]
    split <;> exact ih _

theorem At.scalar (word : List Char) (at_ : c.At (word ++ d :: rest) ts depth)
    (noBreak : isBreak d = false) (style : Style) (keyAllowed : Bool) (s : Scanned)
    (ends : s.rest = rest) : (c.scalar style keyAllowed s).At rest
      (ts ++ [.scalar (String.ofList s.text) style]) depth := by
  have next : c.rest = word ++ [d] ++ s.rest := by
    rw [at_.rest, ends, List.append_assoc]
    rfl
  have moved := moveTo_append (word ++ [d]) next
  rw [Cursor.scalar, moved]
  exact {
    rest := ends
    tokens := congrArg (· ++ [_]) at_.tokens
    depth := at_.depth
    loose := at_.loose
    inside := fun zero => absurd zero (column_advance_concat noBreak word _)
    indent := at_.indent
    outerIndents := at_.outerIndents }

theorem readToken_quote (inside : c.column ≠ 0) (rest : List Char) :
    c.readToken '"' rest = c.doubleQuoted := by
  simp [readToken, inside, singleQuote]

theorem length_le_inQuotes (cs rest : List Char) : rest.length ≤ (inQuotes cs rest).length := by
  simp only [inQuotes, List.length_append, List.length_cons]
  omega

theorem doubleQuoted_eq {cs : List Char} (noted : c.noteKey = some c')
    (at' : c'.At ('"' :: inQuotes cs rest) ts depth) : c.doubleQuoted =
      (refold false none cs).map fun text => c'.scalar .quoted false ⟨text, rest, false⟩ := by
  have read : c'.rest.drop 1 = inQuotes cs rest := by
    rw [at'.rest]
    rfl
  have behind : (c'.column + 1 == 0) = false := rfl
  rw [Cursor.doubleQuoted, noted]
  simp only [Option.bind_eq_bind, Option.bind_some, read, scanDouble_inQuotes, behind]
  cases refold false none cs <;> rfl

theorem At.scans_text {cs : List Char} (at_ : c.At ('"' :: inQuotes cs rest) ts depth) :
    Scans c rest depth
      ((refold false none cs).map fun text => ts ++ [.scalar (String.ofList text) .quoted]) := by
  obtain ⟨c', noted, at'⟩ := at_.settled.exists_noteKey
  have token := readToken_quote (at_.settled.column_ne (by decide)) (inQuotes cs rest)
  rw [doubleQuoted_eq noted at'] at token
  cases text : refold false none cs with
  | none =>
    rw [text] at token
    exact at_.stuck (by decide) token
  | some text' =>
    rw [text] at token
    have scalar := At.scalar ('"' :: cs.flatMap Json.escape) at' rfl .quoted false
      ⟨text', rest, false⟩ rfl
    exact ⟨_, at_.goes (by decide) token scalar (length_le_inQuotes cs rest), scalar⟩

def InWord (c : Char) : Prop :=
  isSpace c = false ∧ isBreak c = false ∧ c ≠ ':' ∧ isFlowIndicator c = false

theorem scanPlain_word (signs : ∀ c ∈ word, InWord c) (ends : isFlowIndicator d = true)
    (indent column : Nat) (rest : List Char) :
    scanPlain true indent column none (word ++ d :: rest) = some ⟨word, d :: rest, false⟩ := by
  have noSpace : isSpace d = false ∧ isBreak d = false := by
    simp only [isFlowIndicator, Bool.or_eq_true, beq_iff_eq] at ends
    obtain (((rfl | rfl) | rfl) | rfl) | rfl := ends <;> decide
  induction word generalizing column with
  | nil =>
    rw [List.nil_append, scanPlain]
    simp [noSpace.1, noSpace.2, endsPlain, ends]
  | cons c word ih =>
    obtain ⟨space, noBreak, colon, indicator⟩ := signs c List.mem_cons_self
    have later := ih (fun d mem => signs d (List.mem_cons_of_mem c mem)) (column + 1)
    rw [List.cons_append, scanPlain]
    simp [space, noBreak, endsPlain, colon, indicator, isStrayColon, later, Scanned.prepend,
      Gap.text]

/-- The words that JSON writes without quotes: letters or digits, perhaps behind a minus sign. -/
inductive IsWord : List Char → Prop
  | letters {d : Char} {ds : List Char} (all : ∀ c ∈ d :: ds, c.isAlphanum = true) :
    IsWord (d :: ds)
  | minus {d : Char} {ds : List Char} (all : ∀ c ∈ d :: ds, c.isAlphanum = true) :
    IsWord ('-' :: d :: ds)

theorem ne_of_isAlphanum {e : Char} (letter : d.isAlphanum = true)
    (other : e.isAlphanum = false) : d ≠ e := by
  rintro rfl
  rw [other] at letter
  cases letter

theorem toNat_of_isAlphanum (letter : d.isAlphanum = true) :
    0x30 ≤ d.toNat ∧ d.toNat ≤ 0x7A := by
  have value : d.toNat = d.val.toNat := rfl
  have range : (decide ('A'.val ≤ d.val ∧ d.val ≤ 'Z'.val) ||
      (decide ('a'.val ≤ d.val) && decide (d.val ≤ 'z'.val)) || d.isDigit) = true := letter
  simp [UInt32.le_iff_toNat_le, Char.isDigit_iff_toNat] at range
  omega

theorem inWord_of_isAlphanum (letter : d.isAlphanum = true) : InWord d := by
  have ne {e : Char} (other : e.isAlphanum = false) : d ≠ e := ne_of_isAlphanum letter other
  refine ⟨?_, ?_, ne rfl, ?_⟩
  · simpa [isSpace] using ⟨ne rfl, ne rfl⟩
  · have range := toNat_of_isAlphanum letter
    have noFeed : d ≠ '\n' := ne rfl
    have noReturn : d ≠ '\r' := ne rfl
    simp [isBreak, isSeparator, noFeed, noReturn]
    omega
  · have none : d ≠ ',' ∧ d ≠ '[' ∧ d ≠ ']' ∧ d ≠ '\x7b' ∧ d ≠ '\x7d' :=
      ⟨ne rfl, ne rfl, ne rfl, ne rfl, ne rfl⟩
    simpa [isFlowIndicator, and_assoc] using none

theorem readToken_letter (inside : c.column ≠ 0) (letter : d.isAlphanum = true)
    (rest : List Char) : c.readToken d rest = c.plain := by
  have ne (e : Char) (other : e.isAlphanum = false) : d ≠ e := ne_of_isAlphanum letter other
  have starts : startsPlain c.inFlow d = true := by
    have known : indicators.all (!·.isAlphanum) = true := by decide
    have none : d ∉ indicators := by
      intro mem
      have other := List.all_eq_true.1 known d mem
      exact ne d (by simpa using other) rfl
    simp [startsPlain, none, (inWord_of_isAlphanum letter).1]
  simp only [readToken, inside, false_and, if_false, ne '[' rfl, ne '\x7b' rfl, ne ']' rfl,
    ne '\x7d' rfl, ne ',' rfl, ne '-' rfl, ne '?' rfl, ne ':' rfl, ne '*' rfl, ne '&' rfl,
    ne '!' rfl, ne '|' rfl, ne '>' rfl, ne singleQuote rfl, ne '"' rfl, starts, if_true]

theorem readToken_minus {e : Char} (inside : c.column ≠ 0) (letter : e.isAlphanum = true)
    (rest : List Char) : c.readToken '-' (e :: rest) = c.plain := by
  have next := inWord_of_isAlphanum letter
  have more : atBlank (e :: rest) = false := by simp [atBlank, next.1, next.2.1]
  have starts : startsPlain c.inFlow '-' = true := by
    have known : indicators.contains '-' = true := by decide
    rw [startsPlain, if_pos known]
    rfl
  simp [readToken, inside, more, starts, singleQuote]

theorem IsWord.inWord (isWord : IsWord word) : ∀ c ∈ word, InWord c := by
  cases isWord with
  | letters all => exact fun c mem => inWord_of_isAlphanum (all c mem)
  | minus all =>
    intro c mem
    obtain rfl | mem := List.mem_cons.1 mem
    · exact ⟨rfl, rfl, by decide, rfl⟩
    · exact inWord_of_isAlphanum (all c mem)

theorem IsWord.readToken (isWord : IsWord word) (at_ : c.At (word ++ rest) ts depth) :
    ∃ d ds, word = d :: ds ∧ Visible d ∧ c.readToken d (ds ++ rest) = c.plain := by
  cases isWord with
  | @letters d ds all =>
    have letter : d.isAlphanum = true := all d List.mem_cons_self
    have sign := inWord_of_isAlphanum letter
    have inside := at_.column_ne (ne_of_isAlphanum letter rfl)
    exact ⟨d, ds, rfl, ⟨sign.1, sign.2.1, ne_of_isAlphanum letter rfl⟩,
      readToken_letter inside letter _⟩
  | @minus d ds all =>
    have inside := at_.column_ne (by decide)
    exact ⟨'-', d :: ds, rfl, by decide, readToken_minus inside (all d List.mem_cons_self) _⟩

theorem At.inFlow (at_ : c.At rest ts (depth + 1)) : c.inFlow = true := by
  have some := at_.depth
  rw [Cursor.inFlow]
  cases outer : c.outerKeyStarts with
  | nil => simp [outer] at some
  | cons k outerKeyStarts => rfl

theorem At.scans_word (at_ : c.At (word ++ d :: rest) ts (depth + 1)) (isWord : IsWord word)
    (ends : isFlowIndicator d = true) :
    Scans c (d :: rest) (depth + 1) (some (ts ++ [.scalar (String.ofList word) .plain])) := by
  obtain ⟨c', noted, at'⟩ := at_.settled.exists_noteKey
  have scanned := scanPlain_word isWord.inWord ends (c'.indent + 1).toNat c'.column rest
  have plain : c.settled.plain = some (c'.scalar .plain false ⟨word, d :: rest, false⟩) := by
    rw [Cursor.plain, noted]
    simp only [Option.bind_eq_bind, Option.bind_some, at'.inFlow, at'.rest, scanned]
  obtain ⟨e, es, rfl, visible, token⟩ := isWord.readToken at_.settled
  obtain ⟨init, last, same⟩ : ∃ init last, e :: es = init ++ [last] :=
    ⟨_, _, (List.dropLast_append_getLast (List.cons_ne_nil e es)).symm⟩
  have noBreak : isBreak last = false := (isWord.inWord last (by simp [same])).2.1
  rw [same, List.append_assoc] at at'
  have scalar := At.scalar init at' noBreak .plain false ⟨e :: es, d :: rest, false⟩ rfl
  exact ⟨_, at_.goes visible (token.trans plain) scalar (by simp), scalar⟩

/-- A key that JSON writes as it is, on one line and short enough for YAML. -/
structure IsKey (key : String) : Prop where
  visible : ∀ c ∈ key.toList, 0x20 < c.toNat ∧ c.toNat < 0x7F ∧ c ≠ '"' ∧ c ≠ '\\'
  short : key.toList.length ≤ 1022

instance (key : String) : Decidable (IsKey key) :=
  have := List.decidableBAll
    (fun c : Char => 0x20 < c.toNat ∧ c.toNat < 0x7F ∧ c ≠ '"' ∧ c ≠ '\\') key.toList
  decidable_of_iff ((∀ c ∈ key.toList, 0x20 < c.toNat ∧ c.toNat < 0x7F ∧ c ≠ '"' ∧ c ≠ '\\') ∧
    key.toList.length ≤ 1022) ⟨fun h => ⟨h.1, h.2⟩, fun h => ⟨h.visible, h.short⟩⟩

theorem IsKey.escape {key : String} (isKey : IsKey key) :
    key.toList.flatMap Json.escape = key.toList := by
  have escape (c : Char) (mem : c ∈ key.toList) : Json.escape c = [c] := by
    obtain ⟨above, -, notQuote, notBackslash⟩ := isKey.visible c mem
    have known : ∀ p ∈ Json.letters, p.1.toNat < 0x20 ∨ p.1 = '"' ∨ p.1 = '\\' := by decide
    obtain ⟨e, pair, -⟩ | ⟨control, -⟩ | ⟨-, -, -, same⟩ := Json.escape_cases c
    · obtain control | quote | backslash := known _ pair
      · simp only at control
        omega
      · exact absurd quote notQuote
      · exact absurd backslash notBackslash
    · omega
    · exact same
  rw [List.flatMap_def, List.map_congr_left escape]
  exact List.flatMap_singleton' key.toList

theorem IsKey.refold {key : String} (isKey : IsKey key) :
    refold false none key.toList = some key.toList := by
  have small : ∀ c ∈ key.toList, c ≠ ' ' ∧ isSeparator c = false ∧ c ≠ nextLine := by
    intro c mem
    obtain ⟨above, below, -⟩ := isKey.visible c mem
    refine ⟨?_, ?_, ?_⟩
    · rintro rfl
      exact absurd above (by decide)
    · simp [isSeparator]
      omega
    · rintro rfl
      exact absurd below (by decide)
  refine refold_eq_self_iff.2 ⟨fun mem => (small _ mem).2.2 rfl, fun c rest suffix => ?_⟩
  obtain ⟨notSpace, noSep, -⟩ := small c (suffix.subset List.mem_cons_self)
  exact follows_of_ordinary ⟨notSpace, noSep⟩ rest

theorem IsKey.noBreak {key : String} (isKey : IsKey key) :
    ∀ c ∈ '"' :: (key.toList ++ ['"']), isBreak c = false := by
  intro c mem
  simp only [List.mem_cons, List.mem_append, List.not_mem_nil, or_false] at mem
  obtain rfl | mem | rfl := mem
  · rfl
  · obtain ⟨above, below, -⟩ := isKey.visible c mem
    rw [isBreak_eq (by omega)]
    simp [breaksRaw, isSeparator]
    omega
  · rfl

theorem advance_of_noBreak (noBreak : ∀ c ∈ word, isBreak c = false) (p : Position) :
    p.advance word = ⟨p.index + word.length, p.line, p.column + word.length⟩ := by
  induction word generalizing p with
  | nil => rfl
  | cons c word ih =>
    have later := ih fun d mem => noBreak d (List.mem_cons_of_mem c mem)
    rw [Position.advance, noBreak c List.mem_cons_self]
    simp [later, Nat.add_assoc, Nat.add_comm 1]

theorem insertIdx_length_append {α : Type} (as bs : List α) (a : α) :
    (as ++ bs).insertIdx as.length a = as ++ a :: bs := by
  induction as with
  | nil => rfl
  | cons b as ih => rw [List.cons_append, List.length_cons, List.insertIdx_succ_cons, ih]; rfl

theorem At.colon {t : Token} {p : Position} (at_ : c.At (':' :: rest) (ts ++ [t]) (depth + 1))
    (start : c.keyStart = some ⟨p, ts.length, false⟩) :
    ∃ c', c.colon = some c' ∧ c'.At rest (ts ++ [.key, t, .value]) (depth + 1) := by
  have inserted : c.tokens.insertIdx ts.length .key = ts ++ [.key, t] := by
    rw [at_.tokens, insertIdx_length_append]
  have named : ({ c with tokens := ts ++ [.key, t], keyStart := none } : Cursor).At (':' :: rest)
      (ts ++ [.key, t]) (depth + 1) :=
    { at_.withKeys (k := none) nofun with tokens := rfl }
  have next := named.skip_emit rfl .value
  have flow := named.inFlow
  rw [List.append_assoc] at next
  rw [Cursor.colon, start]
  simp only [inserted, openBlock, flow, Bool.true_or, if_true]
  exact ⟨_, rfl, { next with }⟩

theorem settled_of_near {k : KeyStart} (start : c.keyStart = some k)
    (near : k.isPast c.position = false) : c.settled.keyStart = some k := by
  simp [settled, start, near]

theorem IsKey.near {key : String} (isKey : IsKey key) {k : KeyStart} (start : c.keyStart = some k)
    (here : k.position = c.position) (next : c.rest = '"' :: inQuotes key.toList (':' :: rest)) :
    (c.moveTo (':' :: rest)).settled.keyStart = some k := by
  have text : c.rest = '"' :: (key.toList ++ ['"']) ++ ':' :: rest := by
    simp [next, inQuotes, isKey.escape]
  refine settled_of_near start ?_
  have short := isKey.short
  rw [moveTo_append _ text, advance_of_noBreak isKey.noBreak, KeyStart.isPast, here]
  simp only [List.length_cons, List.length_append, List.length_nil]
  simp
  omega

theorem At.goes_key {key : String} (isKey : IsKey key)
    (at_ : c.At ('"' :: inQuotes key.toList (':' :: rest)) ts (depth + 1))
    (allowed : c.keyAllowed = true) :
    ∃ c', Goes c c' ∧ c'.At rest (ts ++ [.key, .scalar key .quoted, .value]) (depth + 1) := by
  have noted := at_.settled.noteKey allowed
  have at₁ := at_.settled.withKeys (k := some ⟨c.settled.position, ts.length, false⟩)
    (by rintro s own; cases own; rfl)
  have token := readToken_quote (at_.settled.column_ne (by decide))
    (inQuotes key.toList (':' :: rest))
  rw [doubleQuoted_eq noted at₁, isKey.refold, Option.map_some] at token
  have at₂ := At.scalar ('"' :: key.toList.flatMap Json.escape) at₁ rfl .quoted false
    ⟨key.toList, ':' :: rest, false⟩ rfl
  rw [String.ofList_toList] at at₂
  have goes := at_.goes (by decide) token at₂ (length_le_inQuotes key.toList (':' :: rest))
  obtain ⟨c', colon, at'⟩ := at₂.settled.colon (isKey.near rfl rfl at_.rest)
  have inside := at₂.settled.column_ne (by decide)
  refine ⟨c', goes.trans (at₂.goes (by decide) ?_ at' (Nat.le_refl _)), at'⟩
  have flow := at₂.settled.inFlow
  simpa [readToken, inside, flow] using colon

theorem at_start (rest : List Char) : At ('\x7b' :: rest) [] 0 { rest := '\x7b' :: rest } where
  rest := rfl
  tokens := rfl
  depth := rfl
  loose := by simp
  inside := fun _ => rfl
  indent := rfl
  outerIndents := rfl

theorem At.readAll_end (at_ : c.At [] ts depth) {fuel : Nat} (some : 0 < fuel) :
    c.readAll fuel = Option.some ts := by
  obtain ⟨fuel, rfl⟩ : ∃ n, fuel = n + 1 := ⟨fuel - 1, by omega⟩
  have same : c.moveTo [] = c := by rw [← at_.rest, moveTo_self]
  have skipped : c.skipBlanks = c := by
    rw [Cursor.skipBlanks, at_.rest, dropBlanks]
    simp only [same]
  rw [readAll, skipped, at_.forgetPastKeys]
  simp only [Option.bind_eq_bind, Option.bind_some, at_.settled.closeBlocks, at_.settled.rest,
    at_.settled.forgetKey, Option.map_some, at_.settled.tokens]

theorem Scans.readAll (scans : Scans c [] depth found) {fuel : Nat}
    (enough : c.rest.length < fuel) : c.readAll fuel = found := by
  cases found with
  | none => exact scans fuel enough
  | some ts =>
    obtain ⟨c', goes, at'⟩ := scans
    obtain ⟨fuel', enough', same⟩ := goes fuel enough
    rw [same]
    exact at'.readAll_end (by omega)

end SwarmDeploy.Yaml.Cursor
