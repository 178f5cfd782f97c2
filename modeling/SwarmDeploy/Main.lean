import SwarmDeploy.Launch.Start

/-! The program. Files are those of the system, variables are those of the process, and there are
no sockets to listen at. -/

namespace SwarmDeploy
open Launch

def fileFault : IO.Error → FileFault
  | .noFileOrDirectory _ _ _ => .notFound
  | .inappropriateType _ code _ => if code = 21 then .isDirectory else .notDirectory
  | e => .other e.toString

def readSystemFile (path : String) : IO (Except FileFault (List UInt8)) := do
  try
    let bytes ← IO.FS.readBinFile path
    return .ok bytes.toList
  catch e => return .error (fileFault e)

def readRecords (path : String) (separator : Char) : IO (List (List (List Char))) := do
  match ← readSystemFile path with
  | .error _ => return []
  | .ok bytes =>
    return (Text.pieces '\n' (Text.Utf8.decodeLossy bytes)).map (Text.pieces separator)

def readUserHome : IO (Option String) := do
  let status ← readRecords "/proc/self/status" '\t'
  let user := status.findSome? fun fields =>
    match fields with
    | name :: user :: _ => if name = "Uid:".toList then some user else none
    | _ => none
  let users ← readRecords "/etc/passwd" ':'
  return users.findSome? fun fields =>
    match fields with
    | [_, _, id, _, _, home, _] =>
      if some id = user ∧ home ≠ [] then some (String.ofList home) else none
    | _ => none

def systemMachine : Machine IO where
  readFile := readSystemFile
  userHome := readUserHome
  listen _ := return "there are no sockets to listen at"

def variableOf (cs : List Char) : Option (String × String) :=
  (Text.cutFirst '=' cs).map fun parts => (String.ofList parts.1, String.ofList parts.2)

def processEnvironment : IO Environment := do
  match ← readSystemFile "/proc/self/environ" with
  | .error _ => return []
  | .ok bytes =>
    let texts := Text.pieces (Char.ofNat 0) (Text.Utf8.decodeLossy bytes)
    return texts.filterMap variableOf

end SwarmDeploy

def main (args : List String) : IO UInt32 := do
  let env ← SwarmDeploy.processEnvironment
  let finish ← SwarmDeploy.Launch.start SwarmDeploy.systemMachine env args
  IO.print finish.output
  return UInt32.ofNat finish.exitCode
