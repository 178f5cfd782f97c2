import Mathlib.Data.List.Find
import SwarmDeploy.Compile.Labels
import SwarmDeploy.Proofs.LabelSet

/-! Which labels a merge makes.
An annotation is refused just if its label is one of the system or of the user: annotations have
distinct labels, so none of them stands in the way of another. What is merged is told label by
label, and the order of labels and annotations is not to be seen in it. -/

namespace SwarmDeploy.Compile

variable {settings : DeploySettings} {service : String} {user annotations : Option Bindings}
  {merged set : LabelSet} {pairs : List (String × String)} {name value : String}

theorem nodup_given (b : Option Bindings) : ((given b).map (·.1)).Nodup := by
  cases b with
  | none => exact List.nodup_nil
  | some b => exact b.nodup

def ownLabels (service : String) (user : Option Bindings) (settings : DeploySettings) : LabelSet :=
  (given user).foldl (fun s label => s.insert label.1 label.2) (systemLabels service settings)

theorem get?_systemLabels (service : String) (settings : DeploySettings) (name : String) :
    (systemLabels service settings).get? name =
      if name = markerLabel then some "true"
      else if name = settings.functionLabel then some service else none := by
  rw [systemLabels, LabelSet.get?_insert, LabelSet.get?_insert]
  rfl

theorem get?_ownLabels (service : String) (user : Option Bindings) (settings : DeploySettings)
    (name : String) : (ownLabels service user settings).get? name =
      ((given user).lookup name).or ((systemLabels service settings).get? name) :=
  LabelSet.get?_foldl_insert (nodup_given user) _

def Taken (user : Option Bindings) (settings : DeploySettings) (label : String) : Prop :=
  label ∈ (given user).map (·.1) ∨ label = settings.functionLabel ∨ label = markerLabel

theorem contains_ownLabels_iff :
    (ownLabels service user settings).contains name = true ↔ Taken user settings name := by
  rw [LabelSet.contains, get?_ownLabels, get?_systemLabels, Option.isSome_or, Bool.or_eq_true,
    Taken]
  refine or_congr ?_ ?_
  · rw [← not_iff_not, Bool.not_eq_true, Option.isSome_eq_false_iff, Option.isNone_iff_eq_none,
      lookup_eq_none_iff]
  · by_cases marker : name = markerLabel
    · simp [marker]
    · by_cases function : name = settings.functionLabel
      · rw [if_neg marker, if_pos function]
        simp [function]
      · simp [marker, function]

theorem contains_annotationLabel_iff {key : String} :
    (ownLabels service user settings).contains (annotationLabel settings key) = true ↔
      Taken user settings (settings.annotationPrefix ++ key) :=
  contains_ownLabels_iff

theorem annotationLabel_injective (settings : DeploySettings) :
    Function.Injective (annotationLabel settings) :=
  fun _ _ same => (String.append_right_inj settings.annotationPrefix).1 same

def labelled (settings : DeploySettings) (pairs : List (String × String)) :
    List (String × String) :=
  pairs.map fun pair => (annotationLabel settings pair.1, pair.2)

theorem map_fst_labelled (settings : DeploySettings) (pairs : List (String × String)) :
    (labelled settings pairs).map (·.1) = (pairs.map (·.1)).map (annotationLabel settings) := by
  rw [labelled, List.map_map, List.map_map]
  rfl

theorem nodup_labelled (settings : DeploySettings) (distinct : (pairs.map (·.1)).Nodup) :
    ((labelled settings pairs).map (·.1)).Nodup := by
  rw [map_fst_labelled]
  exact distinct.map (annotationLabel_injective settings)

/-- Annotations are added if none of their labels is there already; otherwise the first one whose
label is there is refused. -/
theorem addAnnotations_eq (merged : LabelSet) (distinct : (pairs.map (·.1)).Nodup) :
    addAnnotations settings merged pairs =
      match pairs.find? fun pair => merged.contains (annotationLabel settings pair.1) with
      | some pair => .error ⟨pair.1, annotationLabel settings pair.1⟩
      | none => .ok ((labelled settings pairs).foldl (fun s l => s.insert l.1 l.2) merged) := by
  induction pairs generalizing merged with
  | nil => rfl
  | cons pair rest ih =>
    obtain ⟨key, value⟩ := pair
    rw [List.map_cons, List.nodup_cons] at distinct
    rw [addAnnotations, List.find?_cons]
    cases taken : merged.contains (annotationLabel settings key) with
    | true => rfl
    | false =>
      -- The new label is none of those that are still to come.
      have unchanged : ∀ pair ∈ rest,
          (merged.insert (annotationLabel settings key) value).contains
              (annotationLabel settings pair.1) =
            merged.contains (annotationLabel settings pair.1) := by
        intro pair mem
        have other : annotationLabel settings pair.1 ≠ annotationLabel settings key := by
          intro same
          have keys : pair.1 = key := annotationLabel_injective settings same
          exact distinct.1 (List.mem_map.2 ⟨pair, mem, keys⟩)
        rw [LabelSet.contains_insert, decide_eq_false other, Bool.false_or]
      have found := List.find?_congr unchanged
      dsimp only
      rw [if_neg Bool.false_ne_true, ih _ distinct.2, found]
      rfl

theorem labels_eq (service : String) (user annotations : Option Bindings)
    (settings : DeploySettings) : labels service user annotations settings =
      match (given annotations).find? fun pair =>
        (ownLabels service user settings).contains (annotationLabel settings pair.1) with
      | some pair => .error ⟨pair.1, annotationLabel settings pair.1⟩
      | none => .ok ((labelled settings (given annotations)).foldl (fun s l => s.insert l.1 l.2)
          (ownLabels service user settings)) :=
  addAnnotations_eq _ (nodup_given annotations)

/-- An annotation whose label is taken, with none in front of it. -/
def FirstConflict (user annotations : Option Bindings) (settings : DeploySettings)
    (conflict : LabelConflict) : Prop :=
  ∃ before key value after, given annotations = before ++ (key, value) :: after ∧
    (∀ pair ∈ before, ¬Taken user settings (settings.annotationPrefix ++ pair.1)) ∧
    Taken user settings (settings.annotationPrefix ++ key) ∧
    conflict = ⟨key, settings.annotationPrefix ++ key⟩

theorem labels_eq_error_iff {conflict : LabelConflict} :
    labels service user annotations settings = .error conflict ↔
      FirstConflict user annotations settings conflict := by
  rw [labels_eq]
  constructor
  · intro refused
    split at refused
    · rename_i pair found
      obtain ⟨taken, before, after, eq, free⟩ := List.find?_eq_some_iff_append.1 found
      cases refused
      refine ⟨before, pair.1, pair.2, after, eq, fun p mem clash => ?_,
        contains_annotationLabel_iff.1 taken, rfl⟩
      have passed := free p mem
      rw [contains_annotationLabel_iff.2 clash] at passed
      cases passed
    · cases refused
  · rintro ⟨before, key, value, after, eq, free, taken, rfl⟩
    have found : ((given annotations).find? fun pair =>
        (ownLabels service user settings).contains (annotationLabel settings pair.1)) =
          some (key, value) := by
      rw [List.find?_eq_some_iff_append]
      refine ⟨contains_annotationLabel_iff.2 taken, before, after, eq, fun p mem => ?_⟩
      rw [Bool.not_eq_true', ← Bool.not_eq_true, contains_annotationLabel_iff]
      exact free p mem
    rw [found]
    rfl

/-- Where a merged label comes from. -/
inductive Gives (service : String) (user annotations : Option Bindings)
    (settings : DeploySettings) : String → String → Prop
  | annotated {key value : String} : (key, value) ∈ given annotations →
    Gives service user annotations settings (settings.annotationPrefix ++ key) value
  | user {name value : String} : (name, value) ∈ given user →
    Gives service user annotations settings name value
  | marker : markerLabel ∉ (given user).map (·.1) →
    Gives service user annotations settings markerLabel "true"
  | function : settings.functionLabel ∉ (given user).map (·.1) →
    settings.functionLabel ≠ markerLabel →
      Gives service user annotations settings settings.functionLabel service

theorem taken_of_get?_ownLabels
    (found : (ownLabels service user settings).get? name = some value) :
    Taken user settings name := by
  have own : (ownLabels service user settings).contains name = true := by
    rw [LabelSet.contains, found]
    rfl
  exact contains_ownLabels_iff.1 own

theorem get?_ownLabels_eq_some_iff :
    (ownLabels service user settings).get? name = some value ↔
      Gives service user none settings name value := by
  rw [get?_ownLabels, Option.or_eq_some_iff, lookup_eq_some_iff (nodup_given user),
    lookup_eq_none_iff, get?_systemLabels]
  constructor
  · rintro (own | ⟨absent, system⟩)
    · exact .user own
    · split at system
      · rename_i marker
        cases system
        rw [marker] at absent ⊢
        exact .marker absent
      · rename_i marker
        split at system
        · rename_i function
          cases system
          rw [function] at absent marker ⊢
          exact .function absent marker
        · cases system
  · intro gives
    cases gives with
    | annotated mem => cases mem
    | user mem => exact .inl mem
    | marker absent => exact .inr ⟨absent, if_pos rfl⟩
    | function absent other => exact .inr ⟨absent, by rw [if_neg other, if_pos rfl]⟩

theorem mem_labelled_iff :
    (name, value) ∈ labelled settings pairs ↔
      ∃ key, (key, value) ∈ pairs ∧ settings.annotationPrefix ++ key = name := by
  simp only [labelled, List.mem_map, Prod.mk.injEq, Prod.exists, annotationLabel]
  constructor
  · rintro ⟨key, other, mem, label, rfl⟩
    exact ⟨key, mem, label⟩
  · rintro ⟨key, mem, label⟩
    exact ⟨key, value, mem, label, rfl⟩

theorem gives_iff : Gives service user annotations settings name value ↔
    (name, value) ∈ labelled settings (given annotations) ∨
      Gives service user none settings name value := by
  rw [mem_labelled_iff]
  constructor
  · intro gives
    cases gives with
    | annotated mem => exact .inl ⟨_, mem, rfl⟩
    | user mem => exact .inr (.user mem)
    | marker absent => exact .inr (.marker absent)
    | function absent other => exact .inr (.function absent other)
  · rintro (⟨key, mem, rfl⟩ | gives)
    · exact .annotated mem
    · cases gives with
      | annotated mem => cases mem
      | user mem => exact .user mem
      | marker absent => exact .marker absent
      | function absent other => exact .function absent other

def Apart (user annotations : Option Bindings) (settings : DeploySettings) : Prop :=
  ∀ pair ∈ given annotations, ¬Taken user settings (settings.annotationPrefix ++ pair.1)

theorem get?_merged (apart : Apart user annotations settings) :
    ((labelled settings (given annotations)).foldl (fun s l => s.insert l.1 l.2)
      (ownLabels service user settings)).get? name = some value ↔
        Gives service user annotations settings name value := by
  have distinct := nodup_labelled settings (nodup_given annotations)
  rw [LabelSet.get?_foldl_insert distinct, Option.or_eq_some_iff, lookup_eq_some_iff distinct,
    lookup_eq_none_iff, gives_iff, ← get?_ownLabels_eq_some_iff]
  refine or_congr_right (and_iff_right_of_imp fun found mem => ?_)
  rw [map_fst_labelled, List.map_map] at mem
  obtain ⟨pair, given, rfl⟩ := List.mem_map.1 mem
  exact apart pair given (taken_of_get?_ownLabels found)

theorem labels_of_apart (apart : Apart user annotations settings) :
    labels service user annotations settings =
      .ok ((labelled settings (given annotations)).foldl (fun s l => s.insert l.1 l.2)
        (ownLabels service user settings)) := by
  have free : ((given annotations).find? fun pair =>
      (ownLabels service user settings).contains (annotationLabel settings pair.1)) = none := by
    rw [List.find?_eq_none]
    exact fun pair mem taken => apart pair mem (contains_annotationLabel_iff.1 taken)
  rw [labels_eq, free]

theorem labels_eq_ok_iff : labels service user annotations settings = .ok set ↔
    Apart user annotations settings ∧
      ∀ name value, set.get? name = some value ↔
        Gives service user annotations settings name value := by
  constructor
  · intro merged
    have apart : Apart user annotations settings := by
      rw [labels_eq] at merged
      split at merged
      · cases merged
      · rename_i free
        intro pair mem taken
        exact List.find?_eq_none.1 free pair mem (contains_annotationLabel_iff.2 taken)
    rw [labels_of_apart apart] at merged
    cases merged
    exact ⟨apart, fun name value => get?_merged apart⟩
  · rintro ⟨apart, gives⟩
    rw [labels_of_apart apart]
    refine congrArg Except.ok (LabelSet.ext_get? fun name => Option.ext fun value => ?_)
    rw [get?_merged apart, gives]

variable {user' annotations' : Option Bindings}

theorem taken_perm (same : (given user).Perm (given user')) :
    Taken user settings name ↔ Taken user' settings name :=
  or_congr_left (same.map _).mem_iff

theorem Gives.perm (sameUser : (given user).Perm (given user'))
    (same : (given annotations).Perm (given annotations'))
    (gives : Gives service user annotations settings name value) :
    Gives service user' annotations' settings name value := by
  cases gives with
  | annotated mem => exact .annotated (same.mem_iff.1 mem)
  | user mem => exact .user (sameUser.mem_iff.1 mem)
  | marker absent => exact .marker fun mem => absent ((sameUser.map _).mem_iff.2 mem)
  | function absent other =>
    exact .function (fun mem => absent ((sameUser.map _).mem_iff.2 mem)) other

theorem labels_of_perm (sameUser : (given user).Perm (given user'))
    (same : (given annotations).Perm (given annotations'))
    (merged : labels service user annotations settings = .ok set) :
    labels service user' annotations' settings = .ok set := by
  obtain ⟨apart, gives⟩ := labels_eq_ok_iff.1 merged
  refine labels_eq_ok_iff.2 ⟨fun pair mem taken => ?_, fun name value => ?_⟩
  · exact apart pair (same.mem_iff.2 mem) ((taken_perm sameUser).2 taken)
  · rw [gives]
    exact ⟨.perm sameUser same, .perm sameUser.symm same.symm⟩

theorem exists_conflict_iff : (∃ conflict, labels service user annotations settings =
    .error conflict) ↔ ¬Apart user annotations settings := by
  constructor
  · rintro ⟨conflict, refused⟩ apart
    rw [labels_of_apart apart] at refused
    cases refused
  · intro clash
    cases merged : labels service user annotations settings with
    | error conflict => exact ⟨conflict, rfl⟩
    | ok set => exact absurd (labels_eq_ok_iff.1 merged).1 clash

/-- A merge fails just if the label of some annotation is taken, and then it names the first one;
otherwise its labels are those that are given. Success and labels are the same for every order of
labels and annotations, and no two annotations have one label. -/
theorem merge_is_determined (service : String) (user annotations : Option Bindings)
    (settings : DeploySettings) :
    ((∃ conflict, labels service user annotations settings = .error conflict) ↔
      ∃ pair ∈ given annotations, Taken user settings (settings.annotationPrefix ++ pair.1)) ∧
    (∀ conflict, labels service user annotations settings = .error conflict ↔
      FirstConflict user annotations settings conflict) ∧
    (∀ set, labels service user annotations settings = .ok set ↔
      Apart user annotations settings ∧ ∀ name value, set.get? name = some value ↔
        Gives service user annotations settings name value) ∧
    (∀ user' annotations', (given user).Perm (given user') →
      (given annotations).Perm (given annotations') → ∀ set,
        labels service user annotations settings = .ok set ↔
          labels service user' annotations' settings = .ok set) ∧
    ((given annotations).map fun pair => settings.annotationPrefix ++ pair.1).Nodup := by
  refine ⟨?_, fun conflict => labels_eq_error_iff, fun set => labels_eq_ok_iff, ?_, ?_⟩
  · rw [exists_conflict_iff]
    simp only [Apart, not_forall, not_not, exists_prop]
  · intro user' annotations' sameUser same set
    exact ⟨labels_of_perm sameUser same, labels_of_perm sameUser.symm same.symm⟩
  · have distinct := nodup_labelled settings (nodup_given annotations)
    rwa [labelled, List.map_map] at distinct

/-- Settings under which annotations have no beginning and the two system labels are one. -/
def bareSettings : DeploySettings :=
  { annotationPrefix := "", functionLabel := markerLabel }

def team : Option Bindings := some ⟨[("team", "ops")], by decide⟩

def remarks (swapped : Bool) : Option Bindings :=
  if swapped then some ⟨[("b", "1"), ("a", "2")], by decide⟩
  else some ⟨[("a", "2"), ("b", "1")], by decide⟩

def mergedBare : LabelSet :=
  ⟨[("a", "2"), ("b", "1"), ("function", "true"), ("team", "ops")], by decide⟩

theorem bareSettings_merge_either_order :
    labels "fn" team (remarks false) bareSettings = .ok mergedBare ∧
      labels "fn" team (remarks true) bareSettings = .ok mergedBare := by
  have merged : labels "fn" team (remarks false) bareSettings = .ok mergedBare := by
    decide +kernel
  have same : (given (remarks false)).Perm (given (remarks true)) := by decide
  exact ⟨merged, ((merge_is_determined "fn" team (remarks false) bareSettings).2.2.2.1 team
    (remarks true) (List.Perm.refl _) same mergedBare).1 merged⟩

end SwarmDeploy.Compile
