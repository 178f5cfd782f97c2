import SwarmDeploy.Proofs.Registry.Credentials

/-! Basic credentials have one text each.
The texts that are read are the standard base64 of texts, and each of these is read as the text it
was made of. So a user and a password stand for one text, and every other text is refused: for
want of a colon, or because it is no base64 of a text. -/

namespace SwarmDeploy.Registry
open SwarmDeploy.Text

def basicText (text : String) : String :=
  String.ofList (Base64.encode .standard (Utf8.ofString text))

variable {basic : String}

theorem toList_basicText (text : String) :
    (basicText text).toList = Base64.encode .standard (Utf8.encode text.toList) := by
  rw [basicText, String.toList_ofList, Utf8.ofString]

/-- Base64 and UTF-8 are each read from what was written only, and so are both of them together. -/
theorem decodeBasic_eq_ok_iff {cs : List Char} :
    decodeBasic basic = .ok cs ↔ basic = basicText (String.ofList cs) := by
  have written : basic = basicText (String.ofList cs) ↔ Utf8.ofString basic =
      Utf8.encode (Base64.encode .standard (Utf8.encode cs)) := by
    rw [← String.toList_inj, toList_basicText, String.toList_ofList]
    exact Utf8.encode_inj.symm
  rw [written, ← Base64.decode_eq_ok_iff]
  unfold decodeBasic
  cases decoded : Base64.decode .standard (Utf8.ofString basic) with
  | error fault => simp
  | ok bytes => simp only [mapError_eq_ok_iff, Utf8.decode_eq_ok_iff, Except.ok.injEq]

theorem decodeBasic_basicText (text : String) : decodeBasic (basicText text) = .ok text.toList :=
  decodeBasic_eq_ok_iff.2 (by rw [String.ofList_toList])

theorem basicText_append (user password : String) :
    basicText (user ++ ":" ++ password) = basicCredentials user password :=
  rfl

theorem userPassword_eq_ok_iff {user password : String} :
    userPassword basic = .ok (user, password) ↔
      ':' ∉ user.toList ∧ basic = basicCredentials user password := by
  constructor
  · intro read
    unfold userPassword at read
    split at read
    · cases read
    · rename_i cs decoded
      split at read
      · cases read
      · rename_i before after cut
        cases read
        obtain ⟨noColon, rfl⟩ := cutFirst_eq_some_iff.1 cut
        refine ⟨by rwa [String.toList_ofList], ?_⟩
        rw [decodeBasic_eq_ok_iff.1 decoded, ← basicText_append]
        congr 1
        simp [← String.toList_inj]
  · rintro ⟨noColon, rfl⟩
    exact userPassword_basicCredentials noColon password

theorem userPassword_eq_malformed_iff :
    userPassword basic = .error .malformedCredentials ↔
      ∃ text : String, ':' ∉ text.toList ∧ basic = basicText text := by
  constructor
  · intro refused
    unfold userPassword at refused
    split at refused
    · cases refused
    · rename_i cs decoded
      split at refused
      · rename_i cut
        refine ⟨String.ofList cs, ?_, decodeBasic_eq_ok_iff.1 decoded⟩
        rw [String.toList_ofList]
        exact cutFirst_eq_none_iff.1 cut
      · cases refused
  · rintro ⟨text, noColon, rfl⟩
    simp only [userPassword, decodeBasic_basicText, cutFirst_eq_none_iff.2 noColon]

theorem userPassword_eq_invalid_iff :
    (∃ fault, userPassword basic = .error (.invalidEncoding fault)) ↔
      ∀ text : String, basic ≠ basicText text := by
  constructor
  · rintro ⟨fault, refused⟩ text rfl
    simp only [userPassword, decodeBasic_basicText] at refused
    split at refused <;> cases refused
  · intro other
    cases decoded : decodeBasic basic with
    | error fault => exact ⟨fault, by simp only [userPassword, decoded]⟩
    | ok cs => exact absurd (decodeBasic_eq_ok_iff.1 decoded) (other _)

/-- Basic credentials are read from one text only: the base64 of the user, the first colon and the
password. The base64 of a text without a colon is malformed, and what is no base64 of a text is no
encoding. -/
theorem credentials_have_one_text (basic : String) :
    (∀ user password, userPassword basic = .ok (user, password) ↔
      ':' ∉ user.toList ∧ basic = basicText (user ++ ":" ++ password)) ∧
    (userPassword basic = .error .malformedCredentials ↔
      ∃ text : String, ':' ∉ text.toList ∧ basic = basicText text) ∧
    ((∃ fault, userPassword basic = .error (.invalidEncoding fault)) ↔
      ∀ text : String, basic ≠ basicText text) ∧
    ∀ other credentials, userPassword basic = .ok credentials →
      userPassword other = .ok credentials → basic = other := by
  refine ⟨fun user password => userPassword_eq_ok_iff, userPassword_eq_malformed_iff,
    userPassword_eq_invalid_iff, ?_⟩
  rintro other ⟨user, password⟩ read readOther
  rw [(userPassword_eq_ok_iff.1 read).2, (userPassword_eq_ok_iff.1 readOther).2]

/-- Two colons: the first one ends the user, and the second one belongs to the password. -/
theorem colonPassword_has_one_text :
    userPassword "dTo6" = .ok ("u", ":") ∧ ':' ∉ "u".toList ∧
      "dTo6" = basicText ("u" ++ ":" ++ ":") := by
  have read : userPassword "dTo6" = .ok ("u", ":") := by rfl
  exact ⟨read, ((credentials_have_one_text "dTo6").1 "u" ":").1 read⟩

end SwarmDeploy.Registry
