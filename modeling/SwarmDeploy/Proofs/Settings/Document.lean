import Mathlib.Tactic.Common
import SwarmDeploy.Proofs.Basic
import SwarmDeploy.Settings.Document

/-! What the settings of a document are.
Each field is read into one part of the settings and leaves the others alone. So a setting has the
value that is written for it, and its default where nothing is written. -/

namespace SwarmDeploy

variable {α β γ : Type} {format : Format}

namespace Format

def valueOf? (format : Format) (entries : List (format.Part × format.Part)) (name : String) :
    Option format.Part :=
  (entries.find? fun e => format.text? e.1 == some name).map Prod.snd

def member? (format : Format) (name : String) (part : format.Part) : Option format.Part :=
  (format.entries? part).bind (format.valueOf? · name)

def written? (format : Format) (document : Option format.Part) (part name : String) :
    Option format.Part :=
  (document.bind (format.member? part)).bind (format.member? name)

variable {key value : format.Part} {entries : List (format.Part × format.Part)} {name k : String}

theorem valueOf?_cons_self (text : format.text? key = some name) :
    format.valueOf? ((key, value) :: entries) name = some value := by
  rw [valueOf?, List.find?_cons_of_pos (by rw [text, beq_self_eq_true]), Option.map_some]

theorem valueOf?_cons_of_ne (text : format.text? key = some k) (other : k ≠ name) :
    format.valueOf? ((key, value) :: entries) name = format.valueOf? entries name := by
  rw [valueOf?, List.find?_cons_of_neg (by simpa [text] using other), valueOf?]

end Format

namespace Field

/-- Under its name a field is read into one part of the settings, which no other field changes. -/
def Law (f : Field α) (name : String) (value : format.Part → Option β) (get : α → β) : Prop :=
  ∀ part a b, f.read format part a = some b →
    if f.name = name then value part = some (get b) else get b = get a

variable {key name : String} {value : format.Part → Option β} {get : α → β}

theorem law_iff {f : Field α} {v? : format.Part → Option γ} {set : γ → α → α}
    (reads : ∀ part a, f.read format part a = (v? part).map (set · a)) :
    f.Law name value get ↔ ∀ part a v, v? part = some v →
      if f.name = name then value part = some (get (set v a)) else get (set v a) = get a := by
  simp only [Law, reads, Option.map_eq_some_iff]
  constructor
  · intro law part a v written
    exact law part a _ ⟨v, written, rfl⟩
  · rintro law part a b ⟨v, written, rfl⟩
    exact law part a v written

theorem law_text {own : α → String} {set : String → α → α} :
    (text key own set).Law name value get ↔ ∀ part a v, format.text? part = some v →
      if key = name then value part = some (get (set v a)) else get (set v a) = get a :=
  law_iff fun _ _ => rfl

theorem law_texts {own : α → List String} {set : List String → α → α} :
    (texts key own set).Law name value get ↔ ∀ part a v, format.texts? part = some v →
      if key = name then value part = some (get (set v a)) else get (set v a) = get a :=
  law_iff fun _ _ => rfl

theorem law_word {own : α → UInt64} {set : UInt64 → α → α} :
    (word key own set).Law name value get ↔ ∀ part a v, format.word? part = some v →
      if key = name then value part = some (get (set v a)) else get (set v a) = get a :=
  law_iff fun _ _ => rfl

theorem law_short {own : α → UInt16} {set : UInt16 → α → α} :
    (short key own set).Law name value get ↔ ∀ part a v, format.short? part = some v →
      if key = name then value part = some (get (set v a)) else get (set v a) = get a :=
  law_iff fun _ _ => rfl

end Field

structure Owns (fields : List (Field α)) (name : String) (value : format.Part → Option β)
    (get : α → β) : Prop where
  named : name ∈ fields.map Field.name
  law : ∀ f ∈ fields, f.Law name value get

section
variable {fields : List (Field α)} {name : String} {value : format.Part → Option β} {get : α → β}
  {seen : List String} {entries : List (format.Part × format.Part)} {a b : α}

theorem readEntries_cons {key part : format.Part}
    (read : readEntries fields format seen ((key, part) :: entries) a = some b) :
    ∃ k, format.text? key = some k ∧
      (((∀ f ∈ fields, f.name ≠ k) ∧ readEntries fields format seen entries a = some b) ∨
        ∃ f ∈ fields, f.name = k ∧ k ∉ seen ∧ ∃ next, f.read format part a = some next ∧
          readEntries fields format (k :: seen) entries next = some b) := by
  rw [readEntries, Option.bind_eq_bind, Option.bind_eq_some_iff] at read
  obtain ⟨k, text, read⟩ := read
  refine ⟨k, text, ?_⟩
  split at read
  · rename_i none
    exact .inl ⟨fun f mem same => by simpa [same] using List.find?_eq_none.1 none f mem, read⟩
  · rename_i f found
    have same : f.name = k := by simpa using List.find?_some found
    split at read
    · cases read
    · rename_i fresh
      obtain ⟨next, own, rest⟩ := Option.bind_eq_some_iff.1 read
      exact .inr ⟨f, List.mem_of_find?_eq_some found, same, by simpa using fresh, next, own, rest⟩

theorem get_readEntries (owns : Owns fields name value get)
    (read : readEntries fields format seen entries a = some b) :
    (format.valueOf? entries name = none ∧ get b = get a) ∨
      ∃ part, format.valueOf? entries name = some part ∧ name ∉ seen ∧
        value part = some (get b) := by
  induction entries generalizing seen a with
  | nil =>
    cases read
    exact .inl ⟨rfl, rfl⟩
  | cons entry entries ih =>
    obtain ⟨key, part⟩ := entry
    obtain ⟨k, text, ⟨unknown, read⟩ | ⟨f, mem, same, fresh, next, own, read⟩⟩ :=
      readEntries_cons read
    · have other : k ≠ name := by
        rintro rfl
        obtain ⟨f, mem, same⟩ := List.mem_map.1 owns.named
        exact unknown f mem same
      rw [format.valueOf?_cons_of_ne text other]
      exact ih read
    · by_cases here : k = name
      · subst here
        rw [format.valueOf?_cons_self text]
        obtain ⟨-, kept⟩ | ⟨later, -, again, -⟩ := ih read
        · refine .inr ⟨part, rfl, fresh, ?_⟩
          rw [kept]
          simpa only [if_pos same] using owns.law f mem part a next own
        · exact absurd List.mem_cons_self again
      · rw [format.valueOf?_cons_of_ne text here]
        obtain ⟨absent, kept⟩ | ⟨later, found, unseen, written⟩ := ih read
        · have unchanged : get next = get a := by
            simpa only [same, if_neg here] using owns.law f mem part a next own
          exact .inl ⟨absent, kept.trans unchanged⟩
        · exact .inr ⟨later, found, fun mem => unseen (List.mem_cons_of_mem k mem), written⟩

theorem get_readFields (owns : Owns fields name value get) {part : format.Part}
    (read : readFields fields format a part = some b) :
    ((format.member? name part).map value).getD (some (get a)) = some (get b) := by
  obtain ⟨entries, mapping, read⟩ := Option.bind_eq_some_iff.1 read
  rw [Format.member?, mapping, Option.bind_some]
  obtain ⟨absent, kept⟩ | ⟨v, found, -, written⟩ := get_readEntries owns read
  · rw [absent, kept]
    rfl
  · rw [found]
    exact written

end

theorem owns_server :
    Owns Settings.fields "server" (readFields ServerSettings.fields format {})
      Settings.server := by
  constructor
  · decide
  · simp [Settings.fields, Field.Law]

theorem owns_deploy :
    Owns Settings.fields "deploy" (readFields DeploySettings.fields format {})
      Settings.deploy := by
  constructor
  · decide
  · simp [Settings.fields, Field.Law]

/-- A setting has the value that a document writes for it, or its default. -/
theorem get_ofDocument {part name : String} {fields : List (Field β)} {default : β}
    {value : format.Part → Option γ} {whole : Settings → β} {get : β → γ}
    (outer : Owns Settings.fields part (readFields fields format default) whole)
    (base : whole {} = default) (owns : Owns fields name value get)
    {document : Option format.Part} {s : Settings}
    (read : Settings.ofDocument format document = some s) :
    ((format.written? document part name).map value).getD (some (get default)) =
      some (get (whole s)) := by
  cases document with
  | none =>
    cases read
    rw [base]
    rfl
  | some n =>
    have inner := get_readFields outer read
    rw [Format.written?, Option.bind_some]
    cases found : format.member? part n with
    | none =>
      rw [found, base] at inner
      cases inner
      rfl
    | some node =>
      rw [found] at inner
      exact get_readFields owns inner

end SwarmDeploy
