import SwarmDeploy.Text.Split
import SwarmDeploy.Text.Utf8

/-! The machine a start runs on: its files and its network. -/

namespace SwarmDeploy.Launch
open Text

inductive FileFault where
  | notFound
  | isDirectory
  | notDirectory
  | notText
  | other (text : String)
  deriving DecidableEq, Repr

def FileFault.message : FileFault → String
  | .notFound => "No such file or directory (os error 2)"
  | .isDirectory => "Is a directory (os error 21)"
  | .notDirectory => "Not a directory (os error 20)"
  | .notText => "stream did not contain valid UTF-8"
  | .other text => text

structure Machine (m : Type → Type) where
  readFile : String → m (Except FileFault (List UInt8))
  userHome : m (Option String)
  /-- Serves at an address until that is over, and tells why. -/
  listen : String → m String

def Machine.readText {m : Type → Type} [Monad m] (machine : Machine m) (path : String) :
    m (Except FileFault (List Char)) := do
  match ← machine.readFile path with
  | .error fault => pure (.error fault)
  | .ok bytes => pure ((Utf8.decode bytes).mapError fun _ => .notText)

def pathSteps (path : String) : List (List Char) :=
  (pieces '/' path.toList).filter fun step => step ≠ [] && step ≠ ['.']

def namesDirectory (path : String) : Bool :=
  path.toList.getLast? == some '/'

def readFrom (files : List (String × List UInt8)) (path : String) :
    Except FileFault (List UInt8) :=
  let steps := pathSteps path
  if path.toList.head? = some '/' then .error .notFound
  else
    match files.find? fun f => pathSteps f.1 == steps with
    | some f => if namesDirectory path then .error .notDirectory else .ok f.2
    | none =>
      if steps.isEmpty || files.any fun f => steps.isPrefixOf (pathSteps f.1) then
        .error .isDirectory
      else if files.any fun f => (pathSteps f.1).isPrefixOf steps then .error .notDirectory
      else .error .notFound

/-- A machine with files in one directory, whose network fails. -/
def Machine.ofFiles (files : List (String × List UInt8)) (networkFault : String) : Machine Id where
  readFile := readFrom files
  userHome := none
  listen _ := networkFault

end SwarmDeploy.Launch
