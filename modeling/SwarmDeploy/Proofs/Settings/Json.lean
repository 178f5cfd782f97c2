import SwarmDeploy.Proofs.Json.Lexeme
import SwarmDeploy.Proofs.Yaml.Json
import SwarmDeploy.Settings.Document

/-! Settings written as JSON and read as YAML.
The numbers of a document come back as they are, and so do its texts, unless YAML forbids one of
their characters or folds one of their line breaks. -/

namespace SwarmDeploy
open Json Number
open Yaml (Element Node reread)

namespace Yaml

theorem digitIn_digit {c : Char} (digit : c.isDigit = true) :
    digitIn 10 c = some (c.toNat - '0'.toNat) := by
  have range := toNat_of_isDigit digit
  have zero : '0'.toNat = 48 := rfl
  rw [digitIn, hexValue, if_pos range, zero, Option.filter_some, if_pos (by simp; omega)]

theorem foldlM_digits {cs : List Char} (digits : ∀ c ∈ cs, c.isDigit = true) (value : Nat) :
    cs.foldlM (fun n c => (digitIn 10 c).map (n * 10 + ·)) value =
      some (Nat.ofDigitChars 10 cs value) := by
  induction cs generalizing value with
  | nil => rfl
  | cons c cs ih =>
    rw [List.foldlM_cons, digitIn_digit (digits c List.mem_cons_self), Nat.ofDigitChars_cons,
      Nat.mul_comm 10]
    exact ih (fun d mem => digits d (List.mem_cons_of_mem c mem)) _

theorem numberOf_toDigits (n : Nat) : numberOf (Nat.toDigits 10 n) = some n := by
  rcases Nat.eq_zero_or_pos n with rfl | positive
  · rfl
  · have digits : ∀ c ∈ Nat.toDigits 10 n, c.isDigit = true := isDigit_of_mem_toDigits
    have value : Nat.ofDigitChars 10 (Nat.toDigits 10 n) 0 = n := Nat.ofDigitChars_ten_toDigits
    obtain ⟨c, cs, written, notZero⟩ := toDigits_eq_cons positive
    rw [written] at digits value ⊢
    have noSign : c ≠ '+' := by
      rintro rfl
      exact absurd (digits '+' List.mem_cons_self) (by decide)
    have plain : (if (c :: cs).head? == some '+' then (c :: cs).drop 1 else c :: cs) = c :: cs := by
      simp [noSign]
    have leading : hasLeadingZero (c :: cs) = false := by simp [hasLeadingZero, notZero]
    have read : digitsIn 10 (c :: cs) = some n := by
      rw [digitsIn, List.isEmpty_cons, if_neg (by decide), foldlM_digits digits, value]
    rw [numberOf, plain]
    split
    · simp_all
    · simp_all
    · simp_all
    · rw [leading]
      exact read

end Yaml

section
variable (root : Node Nat)

theorem text?_scalar (text : String) (style : Yaml.Style) :
    Element.text? ⟨root, .scalar text style⟩ = some text :=
  rfl

theorem natural?_node (n : Nat) : Element.natural? ⟨root, (Value.int n).node⟩ = some n := by
  have written : integerText n = Nat.toDigits 10 n := by simp [integerText]
  simp only [Value.node, Element.natural?, Element.content, String.toList_ofList, written,
    Yaml.numberOf_toDigits]

theorem mapM_text?_itemNodes (items : List String) :
    ((itemNodes (items.map .text)).map (Element.mk root)).mapM Element.text? = some items := by
  induction items with
  | nil => rfl
  | cons t items ih =>
    simp only [List.map_cons, itemNodes, Value.node, List.mapM_cons, text?_scalar, ih]
    rfl

theorem texts?_node (items : List String) :
    Yaml.format.texts? ⟨root, (Value.list (items.map .text)).node⟩ = some items :=
  mapM_text?_itemNodes root items

theorem entries?_node (members : List (String × Value)) :
    Element.entries? ⟨root, (Value.object members).node⟩ =
      some ((memberNodes members).map fun e => (⟨root, e.1⟩, ⟨root, e.2⟩)) :=
  rfl

end

namespace Field

variable {α : Type} {name : String} (s a : α)

/-- What a field writes is read back into the same place, in whatever document it stands. -/
def Returns (f : Field α) (next : α) : Prop :=
  ∀ root, f.read Yaml.format ⟨root, (f.write s).node⟩ a = some next

theorem returns_text (get : α → String) (set : String → α → α) :
    (text name get set).Returns s a (set (get s) a) :=
  fun _ => rfl

theorem returns_texts (get : α → List String) (set : List String → α → α) :
    (texts name get set).Returns s a (set (get s) a) := by
  intro root
  simp only [texts, texts?_node, Option.map_some]

theorem returns_word (get : α → UInt64) (set : UInt64 → α → α) :
    (word name get set).Returns s a (set (get s) a) := by
  intro root
  have fits : (get s).toNat ≤ maxWord := Nat.le_of_lt_succ (get s).toNat_lt
  simp only [word, Format.word?, natural?_node, Option.filter_some, fits, decide_true, if_true,
    Option.map_some, UInt64.ofNat_toNat]

theorem returns_short (get : α → UInt16) (set : UInt16 → α → α) :
    (short name get set).Returns s a (set (get s) a) := by
  intro root
  have fits : (get s).toNat ≤ 0xFFFF := Nat.le_of_lt_succ (get s).toNat_lt
  simp only [short, Format.short?, natural?_node, Option.filter_some, fits, decide_true, if_true,
    Option.map_some, UInt16.ofNat_toNat]

end Field

section

variable {α : Type} {fields later : List (Field α)} {seen : List String}

def membersOf (fields : List (Field α)) (s : α) : List (String × Value) :=
  fields.map fun f => (f.name, f.write s)

theorem find?_name (distinct : (fields.map Field.name).Nodup) :
    ∀ f ∈ fields, fields.find? (·.name == f.name) = some f := by
  induction fields with
  | nil => exact nofun
  | cons g fields ih =>
    obtain ⟨fresh, distinct⟩ := List.nodup_cons.1 distinct
    intro f mem
    obtain rfl | mem := List.mem_cons.1 mem
    · simp
    · have other : g.name ≠ f.name := fun same => fresh (same ▸ List.mem_map_of_mem mem)
      rw [List.find?_cons_of_neg (by simpa using other)]
      exact ih distinct f mem

/-- Fields in their order take `a` to `b` with what they write of `s`. -/
inductive Restores (s : α) : List (Field α) → α → α → Prop
  | nil (a : α) : Restores s [] a a
  | cons {f : Field α} {later : List (Field α)} {a b c : α} :
    f.Returns s a b → Restores s later b c → Restores s (f :: later) a c

theorem Restores.readEntries {s a b : α} (restores : Restores s later a b)
    (known : ∀ f ∈ later, fields.find? (·.name == f.name) = some f)
    (distinct : (later.map Field.name).Nodup) (fresh : ∀ f ∈ later, f.name ∉ seen)
    (root : Node Nat) :
    readEntries fields Yaml.format seen
      ((memberNodes (membersOf later s)).map fun e => (⟨root, e.1⟩, ⟨root, e.2⟩)) a = some b := by
  induction restores generalizing seen with
  | nil => rfl
  | @cons f later a b c returns _ ih =>
    obtain ⟨new, distinct⟩ := List.nodup_cons.1 distinct
    have unseen : seen.contains f.name = false := by simpa using fresh f List.mem_cons_self
    have further : ∀ g ∈ later, g.name ∉ f.name :: seen := by
      intro g mem
      have other : g.name ≠ f.name := fun same => new (same ▸ List.mem_map_of_mem mem)
      simpa [other] using fresh g (List.mem_cons_of_mem f mem)
    have own : f.read Yaml.format ⟨root, (f.write s).node⟩ a = some b := returns root
    rw [membersOf, List.map_cons, memberNodes, List.map_cons, SwarmDeploy.readEntries]
    simp only [text?_scalar, Option.bind_eq_bind, Option.bind_some, known f List.mem_cons_self,
      unseen, Bool.false_eq_true, if_false, own]
    exact ih (fun g mem => known g (List.mem_cons_of_mem f mem)) distinct further

theorem Restores.readFields {s a b : α} (restores : Restores s fields a b)
    (distinct : (fields.map Field.name).Nodup) (root : Node Nat) :
    readFields fields Yaml.format a ⟨root, (writeFields fields s).node⟩ = some b := by
  simp only [SwarmDeploy.readFields, writeFields, entries?_node, Option.bind_some]
  exact restores.readEntries (find?_name distinct) distinct (fun _ _ => List.not_mem_nil) root

end

theorem restores_server (s a : ServerSettings) : Restores s ServerSettings.fields a s :=
  .cons (Field.returns_text s _ _ _) <| .cons (Field.returns_short s _ _ _) <|
  .cons (Field.returns_text s _ _ _) <| .cons (Field.returns_text s _ _ _) <|
  .cons (Field.returns_word s _ _ _) <| .cons (Field.returns_word s _ _ _) <| .nil s

theorem restores_deploy (s a : DeploySettings) : Restores s DeploySettings.fields a s :=
  .cons (Field.returns_word s _ _ _) <| .cons (Field.returns_word s _ _ _) <|
  .cons (Field.returns_text s _ _ _) <| .cons (Field.returns_text s _ _ _) <|
  .cons (Field.returns_text s _ _ _) <| .cons (Field.returns_text s _ _ _) <|
  .cons (Field.returns_text s _ _ _) <| .cons (Field.returns_texts s _ _ _) <|
  .cons (Field.returns_text s _ _ _) <| .cons (Field.returns_text s _ _ _) <|
  .cons (Field.returns_text s _ _ _) <| .nil s

theorem returns_part {α β : Type} {name : String} {fields : List (Field β)} {get : α → β}
    {set : β → α → α} {default : β} {s : α} (restores : Restores (get s) fields default (get s))
    (distinct : (fields.map Field.name).Nodup) (a : α) :
    Field.Returns s a
      { name, write s := writeFields fields (get s)
        read format part s := (readFields fields format default part).map (set · s) }
      (set (get s) a) := by
  intro root
  have read := restores.readFields distinct root
  exact congrArg (Option.map (set · a)) read

theorem restores_settings (s a : Settings) : Restores s Settings.fields a s :=
  .cons (returns_part (restores_server s.server {}) (by decide) a) <|
  .cons (returns_part (restores_deploy s.deploy {}) (by decide) { a with server := s.server }) <|
  .nil s

theorem ofDocument_element (s : Settings) :
    Settings.ofDocument Yaml.format (some s.toJson.element) = some s :=
  (restores_settings s {}).readFields (by decide) _

def ServerSettings.mapTexts (f : String → Option String) (s : ServerSettings) :
    Option ServerSettings := do
  let bindAddr ← f s.bindAddr
  let dockerHost ← f s.dockerHost
  let dockerApiVersion ← f s.dockerApiVersion
  some { s with bindAddr, dockerHost, dockerApiVersion }

def ServerSettings.ownTexts (s : ServerSettings) : List String :=
  [s.bindAddr, s.dockerHost, s.dockerApiVersion]

def DeploySettings.mapTexts (f : String → Option String) (s : DeploySettings) :
    Option DeploySettings := do
  let defaultRegistryNamespace ← f s.defaultRegistryNamespace
  let annotationPrefix ← f s.annotationPrefix
  let functionLabel ← f s.functionLabel
  let scaleMinLabel ← f s.scaleMinLabel
  let networkLabel ← f s.networkLabel
  let fallbackConstraints ← s.fallbackConstraints.mapM f
  let readOnlyTmpfsTarget ← f s.readOnlyTmpfsTarget
  let envProcessKey ← f s.envProcessKey
  let secretMountDir ← f s.secretMountDir
  some { s with
    defaultRegistryNamespace, annotationPrefix, functionLabel, scaleMinLabel, networkLabel,
    fallbackConstraints, readOnlyTmpfsTarget, envProcessKey, secretMountDir }

def DeploySettings.ownTexts (s : DeploySettings) : List String :=
  [s.defaultRegistryNamespace, s.annotationPrefix, s.functionLabel, s.scaleMinLabel,
    s.networkLabel] ++ s.fallbackConstraints ++
    [s.readOnlyTmpfsTarget, s.envProcessKey, s.secretMountDir]

namespace Settings

def mapTexts (f : String → Option String) (s : Settings) : Option Settings := do
  let server ← s.server.mapTexts f
  let deploy ← s.deploy.mapTexts f
  some { server, deploy }

def ownTexts (s : Settings) : List String :=
  s.server.ownTexts ++ s.deploy.ownTexts

end Settings

variable {f : String → Option String}

theorem mapItems_texts (f : String → Option String) (texts : List String) :
    mapItems f (texts.map .text) = (texts.mapM f).map (List.map .text) := by
  induction texts with
  | nil => rfl
  | cons t texts ih =>
    rw [List.map_cons, mapItems, ih, Value.mapTexts, List.mapM_cons]
    cases f t with
    | none => rfl
    | some u => cases texts.mapM f <;> rfl

theorem mapMembers_server (s : ServerSettings) :
    mapMembers f (membersOf ServerSettings.fields s) =
      (s.mapTexts f).map (membersOf ServerSettings.fields) := by
  simp only [membersOf, ServerSettings.fields, Field.text, Field.short, Field.word, List.map_cons,
    List.map_nil, mapMembers, Value.mapTexts, ServerSettings.mapTexts]
  cases f s.bindAddr
  · rfl
  cases f s.dockerHost
  · rfl
  cases f s.dockerApiVersion <;> rfl

-- The first text that is lost decides, so that each of them is looked at in its turn.
theorem mapMembers_deploy (s : DeploySettings) :
    mapMembers f (membersOf DeploySettings.fields s) =
      (s.mapTexts f).map (membersOf DeploySettings.fields) := by
  simp only [membersOf, DeploySettings.fields, Field.text, Field.texts, Field.word, List.map_cons,
    List.map_nil, mapMembers, Value.mapTexts, DeploySettings.mapTexts, mapItems_texts]
  cases f s.defaultRegistryNamespace
  · rfl
  cases f s.annotationPrefix
  · rfl
  cases f s.functionLabel
  · rfl
  cases f s.scaleMinLabel
  · rfl
  cases f s.networkLabel
  · rfl
  cases s.fallbackConstraints.mapM f
  · rfl
  cases f s.readOnlyTmpfsTarget
  · rfl
  cases f s.envProcessKey
  · rfl
  cases f s.secretMountDir <;> rfl

theorem mapMembers_settings (s : Settings) :
    mapMembers f (membersOf Settings.fields s) =
      (s.mapTexts f).map (membersOf Settings.fields) := by
  have server : (writeFields ServerSettings.fields s.server).mapTexts f =
      (s.server.mapTexts f).map (writeFields ServerSettings.fields) := by
    have members := mapMembers_server (f := f) s.server
    rw [membersOf] at members
    rw [writeFields, Value.mapTexts, members, Option.map_map]
    rfl
  have deploy : (writeFields DeploySettings.fields s.deploy).mapTexts f =
      (s.deploy.mapTexts f).map (writeFields DeploySettings.fields) := by
    have members := mapMembers_deploy (f := f) s.deploy
    rw [membersOf] at members
    rw [writeFields, Value.mapTexts, members, Option.map_map]
    rfl
  simp only [membersOf, Settings.fields, List.map_cons, List.map_nil, mapMembers, server, deploy,
    Settings.mapTexts]
  cases s.server.mapTexts f
  · rfl
  cases s.deploy.mapTexts f <;> rfl

theorem itemTexts_texts (texts : List String) : itemTexts (texts.map .text) = texts := by
  induction texts with
  | nil => rfl
  | cons t texts ih => rw [List.map_cons, itemTexts, ih]; rfl

theorem memberTexts_settings (s : Settings) :
    memberTexts (membersOf Settings.fields s) = s.ownTexts := by
  simp [membersOf, Settings.fields, writeFields, ServerSettings.fields, DeploySettings.fields,
    Field.text, Field.texts, Field.short, Field.word, memberTexts, Value.ownTexts,
    itemTexts_texts, Settings.ownTexts, ServerSettings.ownTexts, DeploySettings.ownTexts]

theorem keyedItems_texts (texts : List String) : KeyedItems (texts.map .text) := by
  induction texts with
  | nil => trivial
  | cons t texts ih => exact ⟨trivial, ih⟩

theorem keyed_writeFields {α : Type} {fields : List (Field α)} {a : α}
    (names : ∀ name ∈ fields.map Field.name, Yaml.Cursor.IsKey name)
    (keyed : ∀ f ∈ fields, (f.write a).Keyed) : KeyedMembers (membersOf fields a) := by
  rw [keyedMembers_iff, membersOf, List.forall_mem_map]
  exact fun f mem => ⟨names f.name (List.mem_map_of_mem mem), keyed f mem⟩

theorem keyedMembers_settings (s : Settings) : KeyedMembers (membersOf Settings.fields s) := by
  have server : KeyedMembers (membersOf ServerSettings.fields s.server) :=
    keyed_writeFields (by decide) (by
      simp [ServerSettings.fields, Field.text, Field.short, Field.word, Value.Keyed])
  have deploy : KeyedMembers (membersOf DeploySettings.fields s.deploy) :=
    keyed_writeFields (by decide) (by
      simp [DeploySettings.fields, Field.text, Field.texts, Field.word, Value.Keyed,
        keyedItems_texts])
  refine keyed_writeFields (by decide) ?_
  simp only [Settings.fields, List.forall_mem_cons, List.not_mem_nil, false_implies, implies_true,
    and_true]
  exact ⟨server, deploy⟩

theorem mapM_eq_self_iff {texts : List String} :
    texts.mapM f = some texts ↔ ∀ t ∈ texts, f t = some t := by
  induction texts with
  | nil => simp
  | cons t texts ih => simp [List.mapM_cons, Option.bind_eq_some_iff, ih]

theorem mapTexts_server_eq_self_iff {s : ServerSettings} :
    s.mapTexts f = some s ↔ ∀ t ∈ s.ownTexts, f t = some t := by
  cases s
  simp [ServerSettings.mapTexts, ServerSettings.ownTexts, Option.bind_eq_some_iff]

theorem mapTexts_deploy_eq_self_iff {s : DeploySettings} :
    s.mapTexts f = some s ↔ ∀ t ∈ s.ownTexts, f t = some t := by
  rw [DeploySettings.ownTexts, List.forall_mem_append, List.forall_mem_append]
  cases s
  simp [DeploySettings.mapTexts, Option.bind_eq_some_iff, mapM_eq_self_iff, and_assoc]

theorem mapTexts_eq_self_iff {s : Settings} :
    s.mapTexts f = some s ↔ ∀ t ∈ s.ownTexts, f t = some t := by
  rw [Settings.ownTexts, List.forall_mem_append, ← mapTexts_server_eq_self_iff,
    ← mapTexts_deploy_eq_self_iff]
  cases s
  simp [Settings.mapTexts, Option.bind_eq_some_iff]

theorem trim_toText_ne_nil (s : Settings) : Text.trim s.toJson.toText.toList ≠ [] := by
  obtain ⟨rest, text⟩ := object_eq_cons (membersOf Settings.fields s)
  have start : s.toJson.toText.toList = '\x7b' :: rest := by
    rw [Value.toText, String.toList_ofList]
    exact text
  have visible : Text.isBlank '\x7b' = false := by decide
  rw [start, Text.trim, Text.dropAround, List.dropWhile_cons_of_neg (by simp [visible]), ne_eq,
    Text.dropEndWhile_eq_nil_iff]
  intro blank
  exact absurd (blank _ List.mem_cons_self) (by simp [visible])

/-- What the JSON text of settings is read as: nothing if YAML forbids one of its characters, and
otherwise the same settings with the lines of their texts folded. -/
theorem parse_toText_eq_some_iff {s s' : Settings} :
    Settings.parse s.toJson.toText = some s' ↔
      (∀ t ∈ s.ownTexts, Yaml.Allowed t) ∧ s.mapTexts reread = some s' := by
  have document : s.toJson = .object (membersOf Settings.fields s) := rfl
  have shown : ¬(Text.trim s.toJson.toText.toList).isEmpty = true := by
    simpa using trim_toText_ne_nil s
  rw [Settings.parse, if_neg shown, Option.bind_eq_some_iff]
  simp only [document, documentOf_toText_eq_some_iff (keyedMembers_settings s),
    memberTexts_settings, mapMembers_settings, Option.map_eq_some_iff]
  constructor
  · rintro ⟨_, ⟨allowed, _, ⟨t, mapped, rfl⟩, rfl⟩, read⟩
    have same : some t = some s' := (ofDocument_element t).symm.trans read
    rw [← same]
    exact ⟨allowed, mapped⟩
  · rintro ⟨allowed, mapped⟩
    exact ⟨_, ⟨allowed, _, ⟨s', mapped, rfl⟩, rfl⟩, ofDocument_element s'⟩

def withPrefix (text : String) : Settings :=
  { deploy := { annotationPrefix := text } }

theorem durable_defaults : ∀ t ∈ ({} : Settings).ownTexts, Yaml.Durable t := by
  decide +kernel

theorem forall_ownTexts_withPrefix {P : String → Prop}
    (defaults : ∀ t ∈ ({} : Settings).ownTexts, P t) (text : String) :
    (∀ t ∈ (withPrefix text).ownTexts, P t) ↔ P text := by
  constructor
  · intro all
    exact all text (by simp [withPrefix, Settings.ownTexts, DeploySettings.ownTexts])
  · intro own t mem
    have cases : t ∈ ({} : Settings).ownTexts ∨ t = text := by
      simp only [withPrefix, Settings.ownTexts, ServerSettings.ownTexts, DeploySettings.ownTexts,
        List.mem_append, List.mem_cons, List.not_mem_nil, or_false] at mem ⊢
      grind
    obtain known | rfl := cases
    · exact defaults t known
    · exact own

theorem mapTexts_withPrefix (defaults : ∀ t ∈ ({} : Settings).ownTexts, f t = some t)
    (text : String) : (withPrefix text).mapTexts f = (f text).map withPrefix := by
  simp only [Settings.ownTexts, ServerSettings.ownTexts, DeploySettings.ownTexts,
    List.forall_mem_append, List.forall_mem_cons] at defaults
  cases replaced : f text <;>
    simp [withPrefix, Settings.mapTexts, ServerSettings.mapTexts, DeploySettings.mapTexts,
      defaults, replaced]

theorem parse_withPrefix (text : String) :
    Settings.parse (withPrefix text).toJson.toText =
      if Yaml.Allowed text then (reread text).map withPrefix else none := by
  have allowed : (∀ t ∈ (withPrefix text).ownTexts, Yaml.Allowed t) ↔ Yaml.Allowed text :=
    forall_ownTexts_withPrefix (fun t mem => (durable_defaults t mem).allowed) text
  have mapped : (withPrefix text).mapTexts reread = (reread text).map withPrefix :=
    mapTexts_withPrefix (fun t mem => (Yaml.durable_iff.1 (durable_defaults t mem)).2) text
  ext s
  rw [parse_toText_eq_some_iff, allowed, mapped]
  split <;> simp [*]

/-- The JSON text of settings means the settings if and only if all their texts are durable. -/
theorem jsonText_means_settings_iff (s : Settings) :
    Settings.parse s.toJson.toText = some s ↔ ∀ t ∈ s.ownTexts, Yaml.Durable t := by
  rw [parse_toText_eq_some_iff, mapTexts_eq_self_iff]
  simp only [Yaml.durable_iff, forall_and]

theorem separated_prefix_survives :
    Settings.parse (withPrefix "a\u2028b --- \t\"c\"\n").toJson.toText =
      some (withPrefix "a\u2028b --- \t\"c\"\n") := by
  have durable : Yaml.Durable "a\u2028b --- \t\"c\"\n" := by decide
  have all : ∀ t ∈ (withPrefix "a\u2028b --- \t\"c\"\n").ownTexts, Yaml.Durable t :=
    (forall_ownTexts_withPrefix durable_defaults _).2 durable
  exact (jsonText_means_settings_iff _).2 all

/-- Four texts that do not: one with a character that YAML forbids, one that spells the start of a
document behind a line, and two of which a line is folded. -/
theorem prefix_is_lost :
    Settings.parse (withPrefix "\x7f").toJson.toText = none ∧
    Settings.parse (withPrefix "a\u2028--- b").toJson.toText = none ∧
    Settings.parse (withPrefix "a\u0085b").toJson.toText = some (withPrefix "a b") ∧
    Settings.parse (withPrefix "a \u2028b").toJson.toText = some (withPrefix "a\u2028b") := by
  have del : ¬Yaml.Allowed "\x7f" := by decide
  have mark : reread "a\u2028--- b" = none := by decide
  have next : reread "a\u0085b" = some "a b" := by decide
  have space : reread "a \u2028b" = some "a\u2028b" := by decide
  have read : Yaml.Allowed "a\u0085b" ∧ Yaml.Allowed "a \u2028b" := by decide
  simp only [parse_withPrefix, del, mark, next, space, read, if_true, if_false, Option.map_none,
    Option.map_some, ite_self, and_self]

end SwarmDeploy
