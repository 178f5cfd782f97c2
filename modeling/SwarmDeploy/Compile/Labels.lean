import SwarmDeploy.Bindings
import SwarmDeploy.LabelSet
import SwarmDeploy.Settings

/-! The labels of a service.
They come from the system, from the user's labels and from the user's annotations, which stand
under a reserved beginning. Users may overwrite system labels; annotations overwrite nothing. -/

namespace SwarmDeploy.Compile

structure LabelConflict where
  key : String
  label : String
  deriving DecidableEq, Repr

def LabelConflict.message (c : LabelConflict) : String :=
  "key " ++ c.key ++ " can not be used as a label as it clashes with annotation " ++ c.label

def given (b : Option Bindings) : List (String × String) :=
  b.elim [] Bindings.toList

def systemLabels (service : String) (settings : DeploySettings) : LabelSet :=
  (LabelSet.empty.insert settings.functionLabel service).insert markerLabel "true"

def annotationLabel (settings : DeploySettings) (key : String) : String :=
  settings.annotationPrefix ++ key

def addAnnotations (settings : DeploySettings) :
    LabelSet → List (String × String) → Except LabelConflict LabelSet
  | merged, [] => .ok merged
  | merged, (key, value) :: rest =>
    let label := annotationLabel settings key
    if merged.contains label then .error ⟨key, label⟩
    else addAnnotations settings (merged.insert label value) rest

def labels (service : String) (user annotations : Option Bindings) (settings : DeploySettings) :
    Except LabelConflict LabelSet :=
  addAnnotations settings
    ((given user).foldl (fun s label => s.insert label.1 label.2) (systemLabels service settings))
    (given annotations)

end SwarmDeploy.Compile
