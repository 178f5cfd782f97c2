import SwarmDeploy.Orchestrator.Host
import SwarmDeploy.Proofs.Basic
import SwarmDeploy.Proofs.Text.Ends

/-! The base URLs of engines.
An address loses the blanks around it, then the slashes at its end, and only then its scheme is
looked at. So a scheme with nothing but slashes behind it is no longer seen as one, and blanks that
stand in front of the slashes stay. -/

namespace SwarmDeploy.Orchestrator
open Text

variable {host url : String} {address bare scheme : List Char}

def supportedSchemes : List (List Char) :=
  [tcpScheme, httpScheme, httpsScheme]

def HasScheme (address : List Char) : Prop :=
  ∃ scheme ∈ supportedSchemes, scheme <+: address

instance : Decidable (HasScheme address) :=
  inferInstanceAs (Decidable (∃ scheme ∈ supportedSchemes, scheme <+: address))

/-- What becomes of an address without blanks around it and slashes at its end. -/
inductive Normalizes : List Char → Except Failure (List Char) → Prop
  | empty : Normalizes [] (.error (.invalidHost "empty host"))
  | tcp (rest : List Char) : Normalizes (tcpScheme ++ rest) (.ok (httpScheme ++ rest))
  | web {bare : List Char} : httpScheme <+: bare ∨ httpsScheme <+: bare →
      Normalizes bare (.ok bare)
  | unsupported {bare : List Char} : ¬HasScheme bare → schemeMark <:+: bare →
      Normalizes bare (.error (.invalidHost ("unsupported scheme in '" ++ String.ofList bare ++
        "', expose the Engine over tcp")))
  | plain {bare : List Char} : bare ≠ [] → ¬schemeMark <:+: bare →
      Normalizes bare (.ok (httpScheme ++ bare))

theorem normalizes (address : List Char) :
    Normalizes (bareHost address) (baseUrlChars address) := by
  simp only [baseUrlChars]
  generalize bareHost address = bare
  split
  · rename_i none
    rw [List.isEmpty_iff.1 none]
    exact .empty
  rename_i some
  split
  · rename_i rest tcp
    rw [dropStart_eq_some_iff.1 tcp]
    exact .tcp rest
  rename_i notTcp
  split
  · rename_i web
    rw [Bool.or_eq_true, isSome_dropStart_iff, isSome_dropStart_iff] at web
    exact .web web
  rename_i notWeb
  rw [Bool.or_eq_true, isSome_dropStart_iff, isSome_dropStart_iff, not_or] at notWeb
  split
  · rename_i mark
    refine .unsupported ?_ (occurs_iff.1 mark)
    simp only [HasScheme, supportedSchemes, List.mem_cons, List.not_mem_nil, or_false,
      exists_eq_or_imp, exists_eq_left, not_or]
    exact ⟨dropStart_eq_none_iff.1 notTcp, notWeb⟩
  · rename_i noMark
    exact .plain (fun none => some (List.isEmpty_iff.2 none))
      (fun mark => noMark (occurs_iff.2 mark))

theorem baseUrl_eq_ok_iff : baseUrl host = .ok url ↔ baseUrlChars host.toList = .ok url.toList := by
  rw [baseUrl, map_eq_ok_iff]
  constructor
  · rintro ⟨base, ok, rfl⟩
    rw [ok, String.toList_ofList]
  · intro ok
    exact ⟨url.toList, ok, String.ofList_toList⟩

theorem Normalizes.shape {base : List Char} (normalizes : Normalizes bare (.ok base))
    (ends : EndsOutside (· == '/') bare) :
    (httpScheme <+: base ∨ httpsScheme <+: base) ∧ base.getLast? = bare.getLast? := by
  cases normalizes with
  | tcp rest =>
    have notEmpty : rest ≠ [] := by
      rintro rfl
      cases ends '/' rfl
    refine ⟨.inl (List.prefix_append _ _), ?_⟩
    rw [List.getLast?_append_of_ne_nil _ notEmpty, List.getLast?_append_of_ne_nil _ notEmpty]
  | web scheme => exact ⟨scheme, rfl⟩
  | plain notEmpty =>
    exact ⟨.inl (List.prefix_append _ _), List.getLast?_append_of_ne_nil _ notEmpty⟩

def IsSupported (address : List Char) : Prop :=
  ∃ scheme ∈ supportedSchemes, ∃ rest, address = scheme ++ rest ∧ ∃ c ∈ rest, c ≠ '/'

/-- Behind the first scheme mark there are only slashes. -/
def EndsInScheme (address : List Char) : Prop :=
  ∃ scheme slashes, address = scheme ++ ':' :: slashes ∧ (∀ c ∈ slashes, c = '/') ∧
    ¬schemeMark <:+: scheme

theorem supported_ends_in_slash : ∀ scheme ∈ supportedSchemes, scheme.getLast? = some '/' := by
  decide

theorem isSupported_iff : IsSupported address ↔ HasScheme (withoutSlashes address) := by
  refine exists_congr fun scheme => and_congr_right fun supported => ?_
  constructor
  · rintro ⟨rest, rfl, more⟩
    obtain ⟨slashes, eq, all⟩ := exists_slashes rest
    have ends := (endsOutside_dropEndWhile (· == '/') rest).append
      (exists_ne_slash_iff.1 more) scheme
    rw [eq, ← List.append_assoc, withoutSlashes_append ends all]
    exact List.prefix_append _ _
  · rintro ⟨rest, eq⟩
    obtain ⟨slashes, eq', all⟩ := exists_slashes address
    have ends : EndsOutside (· == '/') (scheme ++ rest) :=
      eq ▸ endsOutside_dropEndWhile (· == '/') address
    have notEmpty : rest ≠ [] := by
      rintro rfl
      rw [List.append_nil] at ends
      cases ends '/' (supported_ends_in_slash scheme supported)
    refine ⟨rest ++ slashes, by rw [← List.append_assoc, eq, ← eq'], ?_⟩
    rw [exists_ne_slash_iff, withoutSlashes_append (ends.of_append notEmpty) all]
    exact notEmpty

theorem mark_not_infix_concat (noMark : ¬schemeMark <:+: scheme) :
    ¬schemeMark <:+: scheme ++ [':'] := by
  rw [List.infix_concat_iff, or_iff_left noMark]
  rintro ⟨before, eq⟩
  have last := congrArg List.getLast? eq
  simp [schemeMark] at last

theorem endsInScheme_iff (mark : schemeMark <:+: address) :
    EndsInScheme address ↔ ¬schemeMark <:+: withoutSlashes address := by
  constructor
  · rintro ⟨scheme, slashes, rfl, all, noMark⟩
    rw [List.append_cons, withoutSlashes_append (endsOutside_concat.2 rfl) all]
    exact mark_not_infix_concat noMark
  · intro noMark
    obtain ⟨before, after, rfl⟩ := mark
    -- The mark loses its own slashes only if there is nothing but slashes behind it.
    by_cases more : ∃ c ∈ after, c ≠ '/'
    · have ends := (endsOutside_dropEndWhile (· == '/') after).append
        (exists_ne_slash_iff.1 more) (before ++ schemeMark)
      obtain ⟨slashes, eq, all⟩ := exists_slashes after
      rw [eq, ← List.append_assoc, withoutSlashes_append ends all] at noMark
      exact absurd (List.infix_append _ _ _) noMark
    · have all : ∀ c ∈ '/' :: '/' :: after, c = '/' := by simpa using more
      have eq : before ++ schemeMark ++ after = before ++ [':'] ++ '/' :: '/' :: after := by
        simp [schemeMark]
      rw [eq, withoutSlashes_append (endsOutside_concat.2 rfl) all] at noMark
      refine ⟨before, '/' :: '/' :: after, by simp [schemeMark], all, fun inBefore => noMark ?_⟩
      exact inBefore.trans (List.prefix_append _ _).isInfix

structure ChecksScheme (host : String) : Prop where
  accepted : IsSupported (trim host.toList) → ∃ url, baseUrl host = .ok url
  refused : ¬IsSupported (trim host.toList) →
    ∃ detail, baseUrl host = .error (.invalidHost detail)

theorem mark_infix_supported : ∀ scheme ∈ supportedSchemes, schemeMark <:+: scheme := by
  decide

theorem HasScheme.ne_nil (supported : HasScheme address) : address ≠ [] := by
  rintro rfl
  revert supported
  decide

theorem mark_of_hasScheme (supported : HasScheme address) : schemeMark <:+: address := by
  obtain ⟨scheme, mem, first⟩ := supported
  exact (mark_infix_supported scheme mem).trans first.isInfix

theorem hasScheme_of_web (web : httpScheme <+: address ∨ httpsScheme <+: address) :
    HasScheme address := by
  rcases web with http | https
  · exact ⟨httpScheme, by decide, http⟩
  · exact ⟨httpsScheme, by decide, https⟩

theorem Normalizes.exists_base_iff {result : Except Failure (List Char)}
    (normalizes : Normalizes bare result) : (∃ base, result = .ok base) ↔
      bare ≠ [] ∧ (schemeMark <:+: bare → HasScheme bare) := by
  cases normalizes with
  | empty => exact iff_of_false (by simp) (fun accepted => accepted.1 rfl)
  | tcp rest =>
    have supported : HasScheme (tcpScheme ++ rest) :=
      ⟨tcpScheme, by decide, List.prefix_append _ _⟩
    exact iff_of_true ⟨_, rfl⟩ ⟨supported.ne_nil, fun _ => supported⟩
  | web web =>
    have supported := hasScheme_of_web web
    exact iff_of_true ⟨_, rfl⟩ ⟨supported.ne_nil, fun _ => supported⟩
  | unsupported notSupported mark =>
    exact iff_of_false (by simp) (fun accepted => notSupported (accepted.2 mark))
  | plain notEmpty noMark =>
    exact iff_of_true ⟨_, rfl⟩ ⟨notEmpty, fun mark => absurd mark noMark⟩

theorem Normalizes.eq_invalidHost {failure : Failure}
    (normalizes : Normalizes bare (.error failure)) : ∃ detail, failure = .invalidHost detail := by
  cases normalizes with
  | empty => exact ⟨_, rfl⟩
  | unsupported => exact ⟨_, rfl⟩

theorem exists_baseUrl_iff :
    (∃ url, baseUrl host = .ok url) ↔ ∃ base, baseUrlChars host.toList = .ok base := by
  rw [baseUrl]
  cases baseUrlChars host.toList <;> simp [Except.map]

theorem exists_detail_iff : (∃ detail, baseUrl host = .error (.invalidHost detail)) ↔
    ¬∃ url, baseUrl host = .ok url := by
  have result := normalizes host.toList
  rw [baseUrl]
  cases eq : baseUrlChars host.toList with
  | ok base => simp [Except.map]
  | error failure =>
    rw [eq] at result
    obtain ⟨detail, rfl⟩ := result.eq_invalidHost
    simp [Except.map]

theorem checksScheme_iff : ChecksScheme host ↔
    ((∃ url, baseUrl host = .ok url) ↔ IsSupported (trim host.toList)) := by
  constructor
  · rintro ⟨accepted, refused⟩
    exact ⟨fun ok => by_contra fun notSupported => exists_detail_iff.1 (refused notSupported) ok,
      accepted⟩
  · intro accepted
    exact ⟨accepted.2, fun notSupported => exists_detail_iff.2 (mt accepted.1 notSupported)⟩

/-- The scheme of an address is checked, unless only slashes stand behind the first scheme mark. -/
theorem scheme_is_checked_iff {host : String} (mark : schemeMark <:+: trim host.toList) :
    ChecksScheme host ↔ ¬EndsInScheme (trim host.toList) := by
  have result := normalizes host.toList
  have notEmpty : bareHost host.toList ≠ [] :=
    exists_ne_slash_iff.1 ⟨':', mark.subset (by decide), by decide⟩
  have marked : HasScheme (bareHost host.toList) → schemeMark <:+: bareHost host.toList :=
    mark_of_hasScheme
  rw [checksScheme_iff, exists_baseUrl_iff, result.exists_base_iff, isSupported_iff,
    endsInScheme_iff mark]
  change (_ ↔ HasScheme (bareHost host.toList)) ↔ ¬¬schemeMark <:+: bareHost host.toList
  -- Accepted is what has lost its mark or has a supported scheme, and the latter keeps its mark.
  tauto

theorem socket_scheme_is_checked :
    schemeMark <:+: trim "unix:///var/run/docker.sock ".toList ∧
      ChecksScheme "unix:///var/run/docker.sock " := by
  have mark : schemeMark <:+: trim "unix:///var/run/docker.sock ".toList := by decide
  have kept : schemeMark <:+: withoutSlashes (trim "unix:///var/run/docker.sock ".toList) := by
    decide
  refine ⟨mark, (scheme_is_checked_iff mark).2 ?_⟩
  rw [endsInScheme_iff mark, not_not]
  exact kept

/-- Nothing behind the scheme: the scheme is not supported, but taken for a host. -/
theorem bare_scheme_is_accepted :
    schemeMark <:+: trim "unix://".toList ∧ baseUrl "unix://" = .ok "http://unix:" ∧
      ¬ChecksScheme "unix://" := by
  have ok : baseUrl "unix://" = .ok "http://unix:" := by rfl
  have notSupported : ¬IsSupported (trim "unix://".toList) := by
    rw [isSupported_iff]
    decide
  refine ⟨by decide, ok, fun checks => ?_⟩
  obtain ⟨detail, error⟩ := checks.refused notSupported
  rw [ok] at error
  cases error

def HidesBlank (address : List Char) : Prop :=
  ∃ stem blank slashes, address = stem ++ blank :: slashes ∧ isBlank blank = true ∧
    ∀ c ∈ slashes, c = '/'

theorem hidesBlank_iff : HidesBlank address ↔ ¬EndsOutside isBlank (withoutSlashes address) := by
  constructor
  · rintro ⟨stem, blank, slashes, rfl, class_, all⟩
    have noSlash : (blank == '/') = false := by
      rw [beq_eq_false_iff_ne]
      rintro rfl
      cases class_
    rw [List.append_cons, withoutSlashes_append (endsOutside_concat.2 noSlash) all,
      endsOutside_concat, class_]
    exact Bool.noConfusion
  · intro blank
    simp only [EndsOutside, not_forall, Bool.not_eq_false] at blank
    obtain ⟨c, last, class_⟩ := blank
    obtain ⟨stem, eq⟩ := List.getLast?_eq_some_iff.1 last
    obtain ⟨slashes, eq', all⟩ := exists_slashes address
    exact ⟨stem, c, slashes, by rw [List.append_cons, ← eq, ← eq'], class_, all⟩

theorem not_blank_of_mem_httpScheme {c : Char} (mem : c ∈ httpScheme) : isBlank c = false := by
  have all : httpScheme.all (fun c => !isBlank c) = true := by decide
  simpa using List.all_eq_true.1 all c mem

theorem head?_of_web (web : httpScheme <+: address ∨ httpsScheme <+: address) :
    address.head? = some 'h' := by
  rcases web with ⟨rest, rfl⟩ | ⟨rest, rfl⟩
  · rfl
  · rfl

theorem Normalizes.eq_of_web {result : Except Failure (List Char)}
    (normalizes : Normalizes bare result) (web : httpScheme <+: bare ∨ httpsScheme <+: bare) :
    result = .ok bare := by
  have supported := hasScheme_of_web web
  cases normalizes with
  | empty => exact absurd rfl supported.ne_nil
  | tcp rest =>
    have heads : some 't' = some 'h' := head?_of_web web
    exact absurd heads (by decide)
  | web => rfl
  | unsupported notSupported => exact absurd supported notSupported
  | plain _ noMark => exact absurd (mark_of_hasScheme supported) noMark

theorem Normalizes.endsOutside_blank {base : List Char} (normalizes : Normalizes bare (.ok base))
    (first : bare <+: trim base) (trimmed : trim base <+: base) : EndsOutside isBlank base := by
  cases normalizes with
  | tcp rest =>
    obtain ⟨more, eq⟩ := first.trans trimmed
    have heads : some 't' = some 'h' := congrArg List.head? eq
    exact absurd heads (by decide)
  | web =>
    have same : trim bare = bare := trimmed.eq_of_length_le first.length_le
    exact same ▸ endsOutside_trim bare
  | plain notEmpty noMark =>
    -- The bare address begins the base, which begins with a scheme: one is part of the other.
    rcases List.prefix_or_prefix_of_prefix (List.prefix_append httpScheme bare)
      (first.trans trimmed) with longer | shorter
    · exact absurd (mark_of_hasScheme ⟨httpScheme, by decide, longer⟩) noMark
    · refine EndsOutside.append (fun c last => ?_) notEmpty httpScheme
      exact not_blank_of_mem_httpScheme (shorter.subset (List.mem_of_getLast? last))

theorem baseUrlChars_self_iff {base : List Char}
    (web : httpScheme <+: base ∨ httpsScheme <+: base) (ends : EndsOutside (· == '/') base) :
    baseUrlChars base = .ok base ↔ EndsOutside isBlank base := by
  have result := normalizes base
  have trimmed : trim base = dropEndWhile isBlank base := by
    rcases web with ⟨rest, rfl⟩ | ⟨rest, rfl⟩
    · exact trim_eq_dropEndWhile rfl _
    · exact trim_eq_dropEndWhile rfl _
  constructor
  · intro ok
    rw [ok] at result
    exact result.endsOutside_blank (dropEndWhile_begins _ _) (trimmed ▸ dropEndWhile_begins _ _)
  · intro noBlank
    have same : bareHost base = base := by
      rw [bareHost, trimmed, dropEndWhile_eq_self noBlank, dropEndWhile_eq_self ends]
    rw [same] at result
    exact result.eq_of_web web

/-- A base begins with a scheme of the web and does not end in a slash. It ends in no blank, and is
its own base, unless the address has blanks in front of the slashes at its end. -/
theorem base_is_usable_iff {host url : String} (ok : baseUrl host = .ok url) :
    (httpScheme <+: url.toList ∨ httpsScheme <+: url.toList) ∧
      EndsOutside (· == '/') url.toList ∧
      (EndsOutside isBlank url.toList ↔ ¬HidesBlank (trim host.toList)) ∧
      (baseUrl url = .ok url ↔ ¬HidesBlank (trim host.toList)) := by
  have result := normalizes host.toList
  rw [baseUrl_eq_ok_iff.1 ok] at result
  have noSlash := endsOutside_dropEndWhile (· == '/') (trim host.toList)
  obtain ⟨web, last⟩ := result.shape noSlash
  have ends : EndsOutside (· == '/') url.toList := by
    rw [EndsOutside, last]
    exact noSlash
  have noBlank : EndsOutside isBlank url.toList ↔ ¬HidesBlank (trim host.toList) := by
    rw [hidesBlank_iff, not_not, EndsOutside, last, bareHost, EndsOutside]
  refine ⟨web, ends, noBlank, ?_⟩
  rw [baseUrl_eq_ok_iff, baseUrlChars_self_iff web ends, noBlank]

theorem spaced_base_is_usable :
    baseUrl " tcp://10.0.0.1:2375// " = .ok "http://10.0.0.1:2375" ∧
      EndsOutside isBlank "http://10.0.0.1:2375".toList ∧
      baseUrl "http://10.0.0.1:2375" = .ok "http://10.0.0.1:2375" := by
  have ok : baseUrl " tcp://10.0.0.1:2375// " = .ok "http://10.0.0.1:2375" := by rfl
  have visible : ¬HidesBlank (trim " tcp://10.0.0.1:2375// ".toList) := by
    rw [hidesBlank_iff, not_not]
    intro c last
    cases last
    rfl
  obtain ⟨-, -, noBlank, again⟩ := base_is_usable_iff ok
  exact ⟨ok, noBlank.2 visible, again.2 visible⟩

/-- A blank in front of the slash at the end: the base ends in it, and is not its own base. -/
theorem hidden_blank_stays :
    baseUrl "a /" = .ok "http://a " ∧ ¬EndsOutside isBlank "http://a ".toList ∧
      baseUrl "http://a " = .ok "http://a" := by
  refine ⟨by rfl, fun ends => ?_, by rfl⟩
  cases ends ' ' rfl

end SwarmDeploy.Orchestrator
