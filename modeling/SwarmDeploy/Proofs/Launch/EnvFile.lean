import Mathlib.Data.List.Basic
import SwarmDeploy.Launch.EnvFile
import SwarmDeploy.Proofs.Basic

/-! What a file of variables adds.
Its assignments are put behind the variables that are set already, so none of those changes, and of
several assignments to one name the first one counts. -/

namespace SwarmDeploy.Launch

variable {env added : Environment}

namespace EnvFile

/-- The assignments of lines, in order; each line is read with the ones before it in effect. -/
def assignments :
    Environment → List (Except EnvFault (List Char)) → Except LoadFault Environment
  | _, [] => .ok []
  | _, .error fault :: _ => .error (.malformed fault)
  | env, .ok line :: rest =>
    match readLine env line with
    | .error fault => .error (.malformed fault)
    | .ok none => assignments env rest
    | .ok (some assigned) =>
      if (env.get? assigned.1).isSome || isSettable assigned.2 then
        (assignments (env ++ [assigned]) rest).map (assigned :: ·)
      else .error (.notSettable assigned.1)

theorem addLines_eq (env : Environment) (lines : List (Except EnvFault (List Char))) :
    addLines env lines = (assignments env lines).map (env ++ ·) := by
  induction lines generalizing env with
  | nil => exact congrArg Except.ok (List.append_nil env).symm
  | cons line rest ih =>
    cases line with
    | error fault => rfl
    | ok line =>
      rw [addLines, assignments]
      cases readLine env line with
      | error fault => rfl
      | ok read =>
        cases read with
        | none => exact ih env
        | some assigned =>
          simp only [ih]
          split
          · cases assignments (env ++ [assigned]) rest with
            | error fault => rfl
            | ok more => exact congrArg Except.ok (List.append_assoc env [assigned] more)
          · rfl

def linesOf (file : List Char) : List (Except EnvFault (List Char)) :=
  joined [] .outside (lines (if file.head? == some byteOrderMark then file.drop 1 else file))

end EnvFile

namespace Environment

theorem load_eq_ok_iff {file : List Char} {next : Environment} :
    env.load file = .ok next ↔ ∃ added,
      EnvFile.assignments env (EnvFile.linesOf file) = .ok added ∧ env ++ added = next := by
  have load : env.load file = EnvFile.addLines env (EnvFile.linesOf file) := rfl
  rw [load, EnvFile.addLines_eq, map_eq_ok_iff]

/-- A variable that is set already keeps its value, and any other one gets that of the file. -/
theorem get?_append (name : String) :
    (env ++ added).get? name = (env.get? name).or (added.get? name) :=
  List.lookup_append

end Environment
end SwarmDeploy.Launch
