import Mathlib.Tactic.Common
import SwarmDeploy.Image.Reference

/-! Qualified texts, and what a reference is read from.
A text is a reference if it is no container's identifier and its qualified form, a domain and a
remainder, says so. A qualified form is taken apart and put together again without loss. -/

namespace SwarmDeploy.Image
open SwarmDeploy.Text

theorem splitTag_text (cs : List Char) :
    (splitTag cs).1 ++ ((splitTag cs).2.elim [] fun t => ':' :: t) = cs := by
  unfold splitTag
  split
  · split
    · simp
    · rename_i name tag found
      simp [(cutFirst_eq_some_iff.1 found).2]
  · rename_i directory last slash
    have eq := (cutLast_eq_some_iff.1 slash).2
    split
    · simp
    · rename_i base tag found
      simp [eq, (cutFirst_eq_some_iff.1 found).2]

theorem Parts.text_split (cs : List Char) : (Parts.split cs).text = cs := by
  unfold Parts.split
  split
  · simp [Parts.text, splitTag_text]
  · rename_i front digest found
    simp [Parts.text, splitTag_text, (cutFirst_eq_some_iff.1 found).2]

theorem takeApart_eq_some_iff {cs : List Char} {parts : Parts} :
    takeApart cs = some parts ↔ parts = Parts.split cs ∧ parts.valid = true := by
  simp only [takeApart]
  split
  · rename_i valid
    constructor
    · rintro ⟨⟩
      exact ⟨rfl, valid⟩
    · rintro ⟨rfl, -⟩
      rfl
  · rename_i invalid
    constructor
    · intro none
      cases none
    · rintro ⟨rfl, valid⟩
      exact absurd valid invalid

/-- A domain and a remainder that are a qualified form already: splitting leaves them as they
are. -/
structure IsQualified (domain remainder : List Char) : Prop where
  noSlash : '/' ∉ domain
  host : looksLikeHost domain = true
  notLegacy : domain ≠ legacyDomain.toList
  namespaced : domain = defaultDomain.toList → '/' ∈ remainder

theorem hostAndRest_fst (cs : List Char) :
    '/' ∉ (hostAndRest cs).1 ∧ looksLikeHost (hostAndRest cs).1 = true := by
  have default : '/' ∉ defaultDomain.toList ∧ looksLikeHost defaultDomain.toList = true := by
    decide
  unfold hostAndRest
  split
  · rename_i first rest found
    split
    · rename_i host
      exact ⟨(cutFirst_eq_some_iff.1 found).1, host⟩
    · exact default
  · exact default

theorem splitDomain_isQualified (cs : List Char) :
    IsQualified (splitDomain cs).1 (splitDomain cs).2 := by
  unfold splitDomain
  extract_lets found domain
  obtain ⟨noSlash, host⟩ := hostAndRest_fst cs
  -- The former name of the default domain is the only host that does not stay.
  have hosted : '/' ∉ domain ∧ looksLikeHost domain = true ∧ domain ≠ legacyDomain.toList := by
    dsimp only [domain]
    split
    · decide
    · rename_i notLegacy
      exact ⟨noSlash, host, notLegacy⟩
  obtain ⟨absent, looks, notLegacy⟩ := hosted
  by_cases official : domain = defaultDomain.toList ∧ '/' ∉ found.2
  · rw [if_pos official]
    have slash : '/' ∈ officialNamespace.toList := by decide
    exact ⟨absent, looks, notLegacy, fun _ => List.mem_append_left _ slash⟩
  · rw [if_neg official]
    refine ⟨absent, looks, notLegacy, fun isDefault => ?_⟩
    by_contra missing
    exact official ⟨isDefault, missing⟩

theorem IsQualified.splitDomain {domain remainder : List Char}
    (q : IsQualified domain remainder) :
    splitDomain (domain ++ '/' :: remainder) = (domain, remainder) := by
  have cut : cutFirst '/' (domain ++ '/' :: remainder) = some (domain, remainder) :=
    cutFirst_eq_some_iff.2 ⟨q.noSlash, rfl⟩
  have found : hostAndRest (domain ++ '/' :: remainder) = (domain, remainder) := by
    simp [hostAndRest, cut, q.host]
  have namespaced : ¬(domain = defaultDomain.toList ∧ '/' ∉ remainder) :=
    fun official => official.2 (q.namespaced official.1)
  simp only [Image.splitDomain, found, q.notLegacy, if_false, namespaced]

theorem not_isHexId_of_slash {cs : List Char} (slash : '/' ∈ cs) : isHexId cs = false := by
  have digits : ∀ c, (isAsciiDigit c || ('a' ≤ c && c ≤ 'f')) = true → c ≠ '/' := by
    rintro c digit rfl
    revert digit
    decide
  by_contra hex
  simp only [isHexId, Bool.not_eq_false, Bool.and_eq_true, List.all_eq_true] at hex
  exact digits '/' (hex.2 '/' slash) rfl

def Reads (domain remainder : List Char) (r : Reference) : Prop :=
  lowercase (beforeFirst ':' remainder) = beforeFirst ':' remainder ∧
    ∃ parts path, takeApart (domain ++ '/' :: remainder) = some parts ∧
      parts.name.length ≤ maxNameLength ∧ parts.name = domain ++ '/' :: path ∧
      r = ⟨String.ofList domain, String.ofList path, parts.tag.map String.ofList,
        parts.digest.map String.ofList⟩

theorem Reads.domain_eq {domain remainder : List Char} {r : Reference}
    (reads : Reads domain remainder r) : r.domain = String.ofList domain := by
  obtain ⟨-, parts, path, -, -, -, rfl⟩ := reads
  rfl

theorem Reads.display_toList {domain remainder : List Char} {r : Reference}
    (reads : Reads domain remainder r) : r.display.toList = domain ++ '/' :: remainder := by
  obtain ⟨-, parts, path, apart, -, name, rfl⟩ := reads
  have text : parts.text = domain ++ '/' :: remainder := by
    rw [(takeApart_eq_some_iff.1 apart).1, Parts.text_split]
  obtain ⟨_, tag, digest⟩ := parts
  rw [← text, Parts.text, name]
  cases tag <;> cases digest <;> simp [Reference.display, Reference.name]

theorem parseNormalized_eq_ok_iff {text : String} {r : Reference} :
    Reference.parseNormalized text = .ok r ↔
      isHexId text.toList = false ∧
        Reads (splitDomain text.toList).1 (splitDomain text.toList).2 r := by
  unfold Reference.parseNormalized Reads
  generalize text.toList = cs
  dsimp only
  obtain ⟨domain, remainder⟩ := splitDomain cs
  dsimp only
  constructor
  · intro ok
    split_ifs at ok with hex upper
    split at ok
    · cases ok
    · rename_i parts apart
      split_ifs at ok with long
      split at ok
      · cases ok
      · rename_i path start
        cases ok
        have name := dropStart_eq_some_iff.1 start
        exact ⟨by simpa using hex, of_not_not upper, parts, path, apart, by omega,
          by simpa using name, rfl⟩
  · rintro ⟨notHex, lower, parts, path, apart, short, name, rfl⟩
    have start : dropStart (domain ++ ['/']) parts.name = some path :=
      dropStart_eq_some_iff.2 (by simp [name])
    have notLong : ¬maxNameLength < parts.name.length := by omega
    simp [notHex, lower, apart, start, notLong]
end SwarmDeploy.Image
