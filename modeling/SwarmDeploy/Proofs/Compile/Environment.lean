import SwarmDeploy.Proofs.Compile.Labels
import SwarmDeploy.Compile.Spec
import SwarmDeploy.Text.Split

/-! The environment of a container.
An entry is written as a name, an equals sign and a value, and the name is not checked. So an entry
is read back as it was meant if there is no equals sign in its name, and two entries have one name
only if a variable of the user is named as the process override is. -/

namespace SwarmDeploy.Compile
open Text

variable {process : Option String} {vars : Option Bindings} {settings : DeploySettings}
  {name value : String}

/-- What the entries stand for: the process override under its key, then the user's variables. -/
def assignments (process : Option String) (vars : Option Bindings) (settings : DeploySettings) :
    List (String × String) :=
  ((nonEmpty process).map fun p => (settings.envProcessKey, p)).toList ++ given vars

theorem environment_eq (process : Option String) (vars : Option Bindings)
    (settings : DeploySettings) : environment process vars settings =
      (assignments process vars settings).map fun a => envEntry a.1 a.2 := by
  rw [environment, assignments, List.map_append]
  cases nonEmpty process <;> rfl

/-- The name and the value of an entry: what stands before and behind the first equals sign. -/
def readEntry (entry : String) : Option (String × String) :=
  (cutFirst '=' entry.toList).map fun parts => (String.ofList parts.1, String.ofList parts.2)

def entryName (entry : String) : String :=
  String.ofList (beforeFirst '=' entry.toList)

theorem toList_envEntry (name value : String) :
    (envEntry name value).toList = name.toList ++ '=' :: value.toList := by
  simp [envEntry]

theorem readEntry_envEntry_iff :
    readEntry (envEntry name value) = some (name, value) ↔ '=' ∉ name.toList := by
  constructor
  · intro read
    obtain ⟨⟨before, after⟩, cut, eq⟩ := Option.map_eq_some_iff.1 read
    cases eq
    rw [String.toList_ofList]
    exact (cutFirst_eq_some_iff.1 cut).1
  · intro noSign
    have cut : cutFirst '=' (envEntry name value).toList = some (name.toList, value.toList) :=
      cutFirst_eq_some_iff.2 ⟨noSign, toList_envEntry name value⟩
    rw [readEntry, cut, Option.map_some, String.ofList_toList, String.ofList_toList]

theorem entryName_envEntry (noSign : '=' ∉ name.toList) (value : String) :
    entryName (envEntry name value) = name := by
  rw [entryName, toList_envEntry, beforeFirst_append noSign, String.ofList_toList]

def NamesAreCut (process : Option String) (vars : Option Bindings) (settings : DeploySettings) :
    Prop :=
  ∀ a ∈ assignments process vars settings, '=' ∉ a.1.toList

def OverrideIsApart (process : Option String) (vars : Option Bindings)
    (settings : DeploySettings) : Prop :=
  nonEmpty process ≠ none → settings.envProcessKey ∉ (given vars).map (·.1)

instance : Decidable (NamesAreCut process vars settings) :=
  inferInstanceAs (Decidable (∀ a ∈ assignments process vars settings, '=' ∉ a.1.toList))

instance : Decidable (OverrideIsApart process vars settings) :=
  inferInstanceAs (Decidable (nonEmpty process ≠ none →
    settings.envProcessKey ∉ (given vars).map (·.1)))

theorem map_entryName (cut : NamesAreCut process vars settings) :
    (environment process vars settings).map entryName =
      (assignments process vars settings).map (·.1) := by
  rw [environment_eq, List.map_map]
  exact List.map_congr_left fun a mem => entryName_envEntry (cut a mem) a.2

theorem nodup_assignments (apart : OverrideIsApart process vars settings) :
    ((assignments process vars settings).map (·.1)).Nodup := by
  cases override : nonEmpty process with
  | none =>
    rw [assignments, override]
    exact nodup_given vars
  | some p =>
    rw [assignments, override]
    exact List.nodup_cons.2 ⟨apart (by simp [override]), nodup_given vars⟩

theorem readEntries_iff : (environment process vars settings).map readEntry =
    (assignments process vars settings).map some ↔ NamesAreCut process vars settings := by
  rw [environment_eq, List.map_map, List.map_inj_left]
  exact forall₂_congr fun a _ => readEntry_envEntry_iff

structure AssignsOnce (process : Option String) (vars : Option Bindings)
    (settings : DeploySettings) : Prop where
  distinct : ((environment process vars settings).map entryName).Nodup
  override : ∀ p, nonEmpty process = some p →
    envEntry settings.envProcessKey p ∈ environment process vars settings ∧
      ∀ entry ∈ environment process vars settings, entryName entry = settings.envProcessKey →
        entry = envEntry settings.envProcessKey p

theorem assignsOnce (cut : NamesAreCut process vars settings)
    (apart : OverrideIsApart process vars settings) : AssignsOnce process vars settings where
  distinct := by
    rw [map_entryName cut]
    exact nodup_assignments apart
  override p override := by
    have first : (settings.envProcessKey, p) ∈ assignments process vars settings := by
      simp [assignments, override]
    rw [environment_eq]
    refine ⟨List.mem_map.2 ⟨_, first, rfl⟩, fun entry mem sameName => ?_⟩
    obtain ⟨⟨name, value⟩, assigned, rfl⟩ := List.mem_map.1 mem
    rw [entryName_envEntry (cut _ assigned)] at sameName
    have found := lookup_eq_some_of_mem (nodup_assignments apart) assigned
    rw [sameName, lookup_eq_some_of_mem (nodup_assignments apart) first] at found
    exact congrArg₂ envEntry sameName (Option.some.inj found).symm

/-- The entries are read back as the process override and the user's variables, in order, if no name
has an equals sign, and only then. No variable is assigned twice if, besides, the user has none with
the name of the process override. -/
theorem environment_assigns_once (process : Option String) (vars : Option Bindings)
    (settings : DeploySettings) :
    ((environment process vars settings).map readEntry =
        (assignments process vars settings).map some ↔ NamesAreCut process vars settings) ∧
      (NamesAreCut process vars settings → OverrideIsApart process vars settings →
        AssignsOnce process vars settings) :=
  ⟨readEntries_iff, assignsOnce⟩

def figletVariables : Bindings :=
  .ofList [("Z", "1"), ("A", "x=y")]

/-- An equals sign in a value, and an override beside the user's variables. -/
theorem figlet_is_assigned_once :
    NamesAreCut (some "figlet -f big") (some figletVariables) {} ∧
      OverrideIsApart (some "figlet -f big") (some figletVariables) {} ∧
      (environment (some "figlet -f big") (some figletVariables) {}).map readEntry =
        [some ("fprocess", "figlet -f big"), some ("Z", "1"), some ("A", "x=y")] ∧
      AssignsOnce (some "figlet -f big") (some figletVariables) {} := by
  have cut : NamesAreCut (some "figlet -f big") (some figletVariables) {} := by decide
  have apart : OverrideIsApart (some "figlet -f big") (some figletVariables) {} := by decide
  obtain ⟨read, once⟩ := environment_assigns_once (some "figlet -f big") (some figletVariables) {}
  exact ⟨cut, apart, read.2 cut, once cut apart⟩

def signedVariables : Bindings :=
  .ofList [("A", "1"), ("A=B", "2")]

def shadowedOverride : Bindings :=
  .ofList [("fprocess", "y")]

/-- An equals sign in a name: the entry is read as one of a variable with a shorter name, which may
be there already. So may the variable of the process override. -/
theorem clashing_names_share_entries :
    environment none (some signedVariables) {} = ["A=1", "A=B=2"] ∧
      ¬((environment none (some signedVariables) {}).map entryName).Nodup ∧
      (environment none (some signedVariables) {}).map readEntry ≠
        (assignments none (some signedVariables) {}).map some ∧
      environment (some "x") (some shadowedOverride) {} = ["fprocess=x", "fprocess=y"] ∧
      ¬((environment (some "x") (some shadowedOverride) {}).map entryName).Nodup := by
  decide

end SwarmDeploy.Compile
