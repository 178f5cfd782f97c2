import Mathlib.Data.List.Forall2
import SwarmDeploy.Proofs.Compile.Binding
import SwarmDeploy.Proofs.Text.Ends

/-! What secrets are bound to.
A name is bound to the last secret of exactly that name, so only the secrets of the requested names
count, and of two listings with the same secrets of each such name in the same order neither is
bound differently. -/

namespace SwarmDeploy.Compile
open Orchestrator Service Text

variable {found found' : List SecretSummary} {requested : List String} {name mountDir path : String}
  {bound : List SecretReference}

def IsListed (found : List SecretSummary) (name : String) : Prop :=
  ∃ secret ∈ found, secret.name = name

def named (found : List SecretSummary) (name : String) : List SecretSummary :=
  found.filter fun secret => secret.name == name

theorem secretId_eq (found : List SecretSummary) (name : String) :
    secretId found name = (named found name).getLast?.map SecretSummary.id := by
  rw [secretId, named, List.getLast?_filter]

theorem bindSecrets_of_named (same : ∀ name ∈ requested, named found name = named found' name)
    (mountDir : String) :
    bindSecrets requested found mountDir = bindSecrets requested found' mountDir := by
  refine bindSecrets_congr (fun name mem => ?_) mountDir
  rw [secretId_eq, secretId_eq, same name mem]

def IsLastListed (found : List SecretSummary) (name : String) (secret : SecretSummary) : Prop :=
  secret.name = name ∧ ∃ before after, found = before ++ secret :: after ∧
    ∀ later ∈ after, later.name ≠ name

theorem secretId_eq_some_iff {id : String} : secretId found name = some id ↔
    ∃ secret, IsLastListed found name secret ∧ secret.id = id := by
  rw [secretId, Option.map_eq_some_iff]
  refine exists_congr fun secret => and_congr_left fun _ => ?_
  rw [List.find?_eq_some_iff_append, beq_iff_eq, IsLastListed]
  refine and_congr_right fun _ => ?_
  constructor
  · rintro ⟨after, before, eq, others⟩
    refine ⟨before.reverse, after.reverse, ?_, ?_⟩
    · simpa using congrArg List.reverse eq
    · simpa using others
  · rintro ⟨before, after, rfl, others⟩
    exact ⟨after.reverse, before.reverse, by simp, by simpa using others⟩

theorem secretId_eq_none_iff : secretId found name = none ↔ ¬IsListed found name := by
  rw [IsListed, ← exists_secretId_iff, Option.eq_none_iff_forall_ne_some, not_exists]

/-- The directory without the slashes at its end, one slash, and the name. -/
def IsPath (mountDir name path : String) : Prop :=
  ∃ dir slashes, mountDir.toList = dir ++ slashes ∧ EndsOutside (· == '/') dir ∧
    (∀ c ∈ slashes, c = '/') ∧ path.toList = dir ++ '/' :: name.toList

theorem toList_secretPath (mountDir name : String) : (secretPath mountDir name).toList =
    withoutSlashes mountDir.toList ++ '/' :: name.toList := by
  simp [secretPath]

theorem isPath_iff : IsPath mountDir name path ↔ path = secretPath mountDir name := by
  rw [← String.toList_inj, toList_secretPath]
  constructor
  · rintro ⟨dir, slashes, eq, ends, all, path⟩
    rw [path, eq, withoutSlashes_append ends all]
  · intro path
    obtain ⟨slashes, eq, all⟩ := exists_slashes mountDir.toList
    exact ⟨_, slashes, eq, endsOutside_dropEndWhile _ _, all, path⟩

theorem secretPath_injective (mountDir : String) : Function.Injective (secretPath mountDir) := by
  intro name name' same
  rw [← String.toList_inj, toList_secretPath, toList_secretPath, List.append_cancel_left_eq,
    List.cons.injEq] at same
  exact String.toList_inj.1 same.2

structure Binds (found : List SecretSummary) (mountDir name : String) (ref : SecretReference) :
    Prop where
  sameName : ref.name = name
  id : ∃ secret, IsLastListed found name secret ∧ ref.id = secret.id
  path : IsPath mountDir name ref.file.name
  owner : ref.file.uid = "0" ∧ ref.file.gid = "0"
  mode : ref.file.mode = 0o444

theorem binds_iff {ref : SecretReference} : Binds found mountDir name ref ↔
    ∃ id, secretId found name = some id ∧
      ref = ⟨⟨secretPath mountDir name, "0", "0", secretFileMode⟩, id, name⟩ := by
  obtain ⟨⟨file, uid, gid, mode⟩, id, refName⟩ := ref
  simp only [SecretReference.mk.injEq, SecretFile.mk.injEq, ← isPath_iff, secretId_eq_some_iff]
  constructor
  · rintro ⟨rfl, ⟨secret, last, rfl⟩, path, ⟨rfl, rfl⟩, rfl⟩
    exact ⟨secret.id, ⟨secret, last, rfl⟩, ⟨path, rfl, rfl, rfl⟩, rfl, rfl⟩
  · rintro ⟨_, ⟨secret, last, rfl⟩, ⟨path, rfl, rfl, rfl⟩, rfl, rfl⟩
    exact ⟨rfl, ⟨secret, last, rfl⟩, path, ⟨rfl, rfl⟩, rfl⟩

theorem bindSecrets_eq_ok_iff : bindSecrets requested found mountDir = .ok bound ↔
    List.Forall₂ (Binds found mountDir) requested bound := by
  induction requested generalizing bound with
  | nil =>
    rw [List.forall₂_nil_left_iff]
    exact ⟨fun eq => (Except.ok.inj eq).symm, fun eq => eq ▸ rfl⟩
  | cons name names ih =>
    rw [bindSecrets_cons, List.forall₂_cons_left_iff]
    simp only [binds_iff, ← ih]
    cases secretId found name with
    | none => simp
    | some id =>
      simp only [map_eq_ok_iff]
      grind

def IsFirstMissing (found : List SecretSummary) (requested : List String) (name : String) : Prop :=
  ∃ before after, requested = before ++ name :: after ∧
    (∀ earlier ∈ before, IsListed found earlier) ∧ ¬IsListed found name

theorem isFirstMissing_cons_of_not {first : String} (missing : ¬IsListed found first) :
    IsFirstMissing found (first :: requested) name ↔ name = first := by
  constructor
  · rintro ⟨before, after, eq, listed, -⟩
    cases before with
    | nil => exact (List.cons.inj eq).1.symm
    | cons other before =>
      have same : first = other := (List.cons.inj eq).1
      exact absurd (listed first (same ▸ List.mem_cons_self)) missing
  · rintro rfl
    exact ⟨[], requested, rfl, by simp, missing⟩

theorem isFirstMissing_cons {first : String} (listed : IsListed found first) :
    IsFirstMissing found (first :: requested) name ↔ IsFirstMissing found requested name := by
  constructor
  · rintro ⟨before, after, eq, earlier, missing⟩
    cases before with
    | nil => exact absurd ((List.cons.inj eq).1 ▸ listed) missing
    | cons other before =>
      exact ⟨before, after, (List.cons.inj eq).2, (List.forall_mem_cons.1 earlier).2, missing⟩
  · rintro ⟨before, after, rfl, earlier, missing⟩
    exact ⟨first :: before, after, rfl, List.forall_mem_cons.2 ⟨listed, earlier⟩, missing⟩

theorem bindSecrets_eq_error_iff {fault : SecretsFault} :
    bindSecrets requested found mountDir = .error fault ↔
      ∃ name, IsFirstMissing found requested name ∧ fault = .notFound name := by
  induction requested with
  | nil => simp [bindSecrets, IsFirstMissing, pure, Except.pure]
  | cons first names ih =>
    rw [bindSecrets_cons]
    cases id : secretId found first with
    | none =>
      simp only [isFirstMissing_cons_of_not (secretId_eq_none_iff.1 id), exists_eq_left,
        Except.error.injEq]
      exact eq_comm
    | some value =>
      have listed : IsListed found first := exists_secretId_iff.1 ⟨value, id⟩
      simp only [isFirstMissing_cons listed, map_eq_error_iff, ih]

theorem named_of_filter (same : found.filter (fun secret => secret.name ∈ requested) =
    found'.filter fun secret => secret.name ∈ requested) :
    ∀ name ∈ requested, named found name = named found' name := by
  intro name mem
  have only (list : List SecretSummary) :
      named list name = named (list.filter fun secret => secret.name ∈ requested) name := by
    rw [named, named, List.filter_filter]
    refine List.filter_congr fun secret _ => ?_
    by_cases eq : secret.name = name
    · simp [eq, mem]
    · simp [eq]
  rw [only found, only found', same]

theorem length_named_le (distinct : (found.map SecretSummary.name).Nodup) (name : String) :
    (named found name).length ≤ 1 := by
  have all : (named found name).map SecretSummary.name =
      List.replicate (named found name).length name := by
    rw [List.eq_replicate_iff, List.length_map]
    refine ⟨rfl, fun other mem => ?_⟩
    obtain ⟨secret, inNamed, rfl⟩ := List.mem_map.1 mem
    exact beq_iff_eq.1 (List.mem_filter.1 inNamed).2
  rw [← List.nodup_replicate (a := name), ← all]
  exact distinct.sublist (List.filter_sublist.map _)

theorem named_of_perm (reordered : found.Perm found')
    (distinct : (found.map SecretSummary.name).Nodup) (name : String) :
    named found name = named found' name := by
  have perm : (named found name).Perm (named found' name) := reordered.filter _
  rcases Nat.le_one_iff_eq_zero_or_eq_one.1 (length_named_le distinct name) with none | one
  · rw [List.length_eq_zero_iff.1 none] at perm ⊢
    exact perm.nil_eq
  · obtain ⟨secret, eq⟩ := List.length_eq_one_iff.1 one
    rw [eq] at perm ⊢
    exact perm.singleton_eq

theorem exists_name_of_mem {ref : SecretReference}
    (binds : List.Forall₂ (Binds found mountDir) requested bound) (mem : ref ∈ bound) :
    ∃ name ∈ requested, Binds found mountDir name ref := by
  induction binds with
  | nil => cases mem
  | @cons name first names rest head _ ih =>
    rcases List.mem_cons.1 mem with rfl | later
    · exact ⟨name, List.mem_cons_self, head⟩
    · obtain ⟨other, inNames, binds⟩ := ih later
      exact ⟨other, List.mem_cons_of_mem name inNames, binds⟩

theorem Binds.eq_of_file {name' : String} {ref ref' : SecretReference}
    (binds : Binds found mountDir name ref) (binds' : Binds found mountDir name' ref')
    (same : ref.file.name = ref'.file.name) : ref = ref' := by
  have path := isPath_iff.1 binds.path
  rw [same, isPath_iff.1 binds'.path] at path
  have sameName : name' = name := secretPath_injective mountDir path
  obtain ⟨id, eq, rfl⟩ := binds_iff.1 binds
  obtain ⟨id', eq', rfl⟩ := binds_iff.1 binds'
  rw [sameName, eq] at eq'
  rw [sameName, Option.some.inj eq']

structure BindsExactly (requested : List String) (mountDir : String) : Prop where
  succeeds : ∀ found, (∃ bound, bindSecrets requested found mountDir = .ok bound) ↔
    ∀ name ∈ requested, IsListed found name
  binds : ∀ found bound, bindSecrets requested found mountDir = .ok bound ↔
    List.Forall₂ (Binds found mountDir) requested bound
  missing : ∀ found fault, bindSecrets requested found mountDir = .error fault ↔
    ∃ name, IsFirstMissing found requested name ∧ fault = .notFound name
  unrequested : ∀ found found',
    (found.filter fun secret => secret.name ∈ requested) =
        (found'.filter fun secret => secret.name ∈ requested) →
      bindSecrets requested found mountDir = bindSecrets requested found' mountDir
  reordered : ∀ found found', found.Perm found' → (found.map SecretSummary.name).Nodup →
    bindSecrets requested found mountDir = bindSecrets requested found' mountDir
  overtaken : ∀ found found', (∀ name ∈ requested, named found name = named found' name) →
    bindSecrets requested found mountDir = bindSecrets requested found' mountDir
  files : ∀ found bound, bindSecrets requested found mountDir = .ok bound →
    ∀ ref ∈ bound, ∀ ref' ∈ bound, ref.file.name = ref'.file.name → ref = ref'

/-- Secrets are bound exactly: all of the requested names or none, in the order of the request, each
to the last secret of its name and to a file of its own. Secrets with other names make no
difference, and neither does the order of secrets whose names differ. -/
theorem secrets_are_bound_exactly (requested : List String) (mountDir : String) :
    BindsExactly requested mountDir where
  succeeds _ := exists_bindSecrets_iff
  binds _ _ := bindSecrets_eq_ok_iff
  missing _ _ := bindSecrets_eq_error_iff
  unrequested _ _ same := bindSecrets_of_named (named_of_filter same) mountDir
  reordered _ _ reordered distinct :=
    bindSecrets_of_named (fun name _ => named_of_perm reordered distinct name) mountDir
  overtaken _ _ same := bindSecrets_of_named same mountDir
  files found bound ok ref mem ref' mem' same := by
    have binds := bindSecrets_eq_ok_iff.1 ok
    obtain ⟨name, -, first⟩ := exists_name_of_mem binds mem
    obtain ⟨name', -, second⟩ := exists_name_of_mem binds mem'
    exact first.eq_of_file second same

/-- A name that is listed twice, and a secret with a longer name. -/
def crowdedListing : List SecretSummary :=
  [⟨"1", "a"⟩, ⟨"2", "b"⟩, ⟨"9", "ab"⟩, ⟨"3", "a"⟩]

theorem crowdedListing_bound_exactly :
    bindSecrets ["b", "a", "b"] crowdedListing "/run//" =
        .ok [⟨⟨"/run/b", "0", "0", 0o444⟩, "2", "b"⟩, ⟨⟨"/run/a", "0", "0", 0o444⟩, "3", "a"⟩,
          ⟨⟨"/run/b", "0", "0", 0o444⟩, "2", "b"⟩] ∧
      bindSecrets ["b", "a", "b"] crowdedListing "/run//" =
        bindSecrets ["b", "a", "b"] [⟨"1", "a"⟩, ⟨"2", "b"⟩, ⟨"3", "a"⟩] "/run//" ∧
      bindSecrets ["b", "a", "b"] [⟨"2", "b"⟩, ⟨"3", "a"⟩] "/run//" =
        bindSecrets ["b", "a", "b"] [⟨"3", "a"⟩, ⟨"2", "b"⟩] "/run//" := by
  have exactly := secrets_are_bound_exactly ["b", "a", "b"] "/run//"
  exact ⟨by rfl, exactly.unrequested _ _ (by decide),
    exactly.reordered _ _ (List.Perm.swap _ _ _) (by decide)⟩

end SwarmDeploy.Compile
