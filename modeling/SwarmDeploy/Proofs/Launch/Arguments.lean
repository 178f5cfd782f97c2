import Mathlib.Tactic.Common
import SwarmDeploy.Launch.Arguments
import SwarmDeploy.Proofs.Basic

/-! Flags and the variables that they fall back to.
Reading arguments gives what they say by themselves; only the flags that fall back are filled in
then, each from its own variable. -/

namespace SwarmDeploy.Launch

variable {α : Type} {lookup : String → Option String} {a b : Arguments}

/-- What becomes of a flag: its value if it is given, and else that of its variable. -/
def Filled (given : Option α) (read : String → Except Stop α) (text : Option String)
    (filled : Option α) : Prop :=
  (given.map some).or (text.map fun t => (read t).toOption) = filled.map some

theorem once_eq_ok_iff {old new : Option α} {value : Except Stop α} :
    once old value = .ok new ↔ old = none ∧ ∃ v, value = .ok v ∧ new = some v := by
  cases old with
  | some v => simp [once]
  | none =>
    have unset : once none value = value.map some := rfl
    simp only [unset, map_eq_ok_iff, true_and, eq_comm (a := new)]

namespace Arguments

def fill (lookup : String → Option String) (f : Flag) (name : String) (a : Arguments) :
    Except Stop Arguments :=
  match lookup name with
  | none => .ok a
  | some value => if a.has f then .ok a else a.assign f value

theorem fallBack_cons (f : Flag) (name : String) (rest : List (Flag × String)) :
    fallBack lookup ((f, name) :: rest) a = fill lookup f name a >>= fallBack lookup rest := by
  rw [fallBack, fill]
  cases lookup name with
  | none => rfl
  | some text =>
    simp only
    split
    · rfl
    · cases a.assign f text <;> rfl

theorem fill_eq_ok {f : Flag} {name : String} (get : Arguments → Option α)
    (set : Option α → Arguments → Arguments) (read : String → Except Stop α)
    (has : a.has f = (get a).isSome)
    (assign : ∀ value, a.assign f value = (once (get a) (read value)).map fun v => set v a)
    (keeps : set (get a) a = a) (filled : fill lookup f name a = .ok b) :
    ∃ v, b = set v a ∧ Filled (get a) read (lookup name) v := by
  unfold Filled
  rw [fill] at filled
  split at filled
  · rename_i unset
    cases filled
    exact ⟨get a, keeps.symm, by rw [unset, Option.map_none, Option.or_none]⟩
  · rename_i text set
    rw [has] at filled
    split at filled
    · rename_i given
      obtain ⟨v, given⟩ := Option.isSome_iff_exists.1 given
      cases filled
      exact ⟨get a, keeps.symm, by rw [given]; rfl⟩
    · rw [assign] at filled
      obtain ⟨v, once, rfl⟩ := map_eq_ok_iff.1 filled
      obtain ⟨absent, w, value, rfl⟩ := once_eq_ok_iff.1 once
      exact ⟨some w, rfl, by rw [absent, set, Option.map_some, value]; rfl⟩

inductive FallsBack (lookup : String → Option String) (given : Arguments) : Arguments → Prop
  | filled {host : Option String} {restarts delay : Option UInt64} :
    Filled given.dockerHost .ok (lookup "DOCKER_HOST") host →
      Filled given.maxRestarts wordOf (lookup "MAX_RESTARTS") restarts →
        Filled given.restartDelay wordOf (lookup "RESTART_DELAY") delay →
          FallsBack lookup given
            { given with dockerHost := host, maxRestarts := restarts, restartDelay := delay }

theorem fallsBack_of_fallBack {given : Arguments}
    (filled : fallBack lookup fallBacks given = .ok b) : FallsBack lookup given b := by
  rw [fallBacks, fallBack_cons] at filled
  obtain ⟨a, first, filled⟩ := bind_eq_ok_iff.1 filled
  rw [fallBack_cons] at filled
  obtain ⟨c, second, filled⟩ := bind_eq_ok_iff.1 filled
  rw [fallBack_cons] at filled
  obtain ⟨d, third, filled⟩ := bind_eq_ok_iff.1 filled
  cases filled
  obtain ⟨v, rfl, host⟩ := fill_eq_ok dockerHost
    (fun v a => { a with dockerHost := v }) .ok rfl (fun _ => rfl) rfl first
  obtain ⟨w, rfl, restarts⟩ := fill_eq_ok maxRestarts
    (fun v a => { a with maxRestarts := v }) wordOf rfl (fun _ => rfl) rfl second
  obtain ⟨u, rfl, delay⟩ := fill_eq_ok restartDelay
    (fun v a => { a with restartDelay := v }) wordOf rfl (fun _ => rfl) rfl third
  exact .filled host restarts delay

/-- Arguments that are read with variables are read without any, and fall back to them. -/
theorem fallsBack_of_parse {texts : List String} (parsed : parse lookup texts = .ok b) :
    ∃ given, parse (fun _ => none) texts = .ok given ∧ FallsBack lookup given b := by
  unfold parse at parsed
  split at parsed
  · rename_i given read
    refine ⟨given, ?_, fallsBack_of_fallBack parsed⟩
    rw [parse, read]
    rfl
  · cases parsed

end Arguments
end SwarmDeploy.Launch
