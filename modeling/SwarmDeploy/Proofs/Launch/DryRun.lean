import Mathlib.Data.String.Lemmas
import SwarmDeploy.Launch.DryRun
import SwarmDeploy.Proofs.Json.Blanks
import SwarmDeploy.Proofs.Service.RoundTrip
import SwarmDeploy.Proofs.Text.Pattern

/-! The report of a dry run carries the spec.
It is a summary, line by line, and below it the spec in the indented form: what is written there is
the compact form with white space between the signs, and is read as the spec itself. -/

namespace SwarmDeploy.Launch
open Compile Json Orchestrator Service

variable {r : Request} {compiled : Compiled} {options : CreateOptions} {ds : List Diagnostic}
  {text : String}

def noDiagnosticsLine : String := "Diagnostics: none"

def networkLine : String := "Network: resolved at deploy time"

def secretsStart : String := "Secrets (unresolved): "

def itemStart : String := "  - "

def item (d : Diagnostic) : String :=
  itemStart ++ d.message

def countLine (ds : List Diagnostic) : String :=
  "Diagnostics (" ++ toString ds.length ++ "):"

def headingLines (compiled : Compiled) (options : CreateOptions) : List String :=
  [programName ++ " v" ++ version ++ " - Dry Run Mode", "",
    "Service: " ++ compiled.spec.name,
    "Image: " ++ compiled.spec.task.container.image,
    "Replicas: " ++ toString compiled.spec.replicas.toNat,
    "Registry auth: " ++ if options.registryAuth.isSome then "provided" else "none"]

def secretsLines (r : Request) : List String :=
  if r.secretNames = [] then [] else [secretsStart ++ ", ".intercalate r.secretNames]

def networkLines (r : Request) : List String :=
  if r.requestedNetwork = none then [networkLine] else []

def findingLines (ds : List Diagnostic) : List String :=
  if ds = [] then [noDiagnosticsLine] else countLine ds :: ds.map item

def summary (r : Request) (compiled : Compiled) (options : CreateOptions) : List String :=
  headingLines compiled options ++ secretsLines r ++ networkLines r ++ [""] ++
    findingLines compiled.notes.diagnostics

theorem join_secretsLines (r : Request) : String.join ((secretsLines r).map line) =
    if r.secretNames.isEmpty then ""
    else line ("Secrets (unresolved): " ++ ", ".intercalate r.secretNames) := by
  cases names : r.secretNames <;> simp [secretsLines, secretsStart, names]

theorem join_networkLines (r : Request) : String.join ((networkLines r).map line) =
    if r.requestedNetwork.isNone then line "Network: resolved at deploy time" else "" := by
  cases network : r.requestedNetwork <;> simp [networkLines, networkLine, network]

theorem join_findingLines (ds : List Diagnostic) :
    String.join ((findingLines ds).map line) = diagnosticLines ds := by
  cases ds with
  | nil => simp [findingLines, noDiagnosticsLine, diagnosticLines]
  | cons d ds =>
    have items : (line ∘ item) = fun d : Diagnostic => line ("  - " ++ d.message) := rfl
    simp [findingLines, countLine, diagnosticLines, items, item, itemStart]

theorem join_headingLines (compiled : Compiled) (options : CreateOptions) :
    String.join ((headingLines compiled options).map line) =
      line (programName ++ " v" ++ version ++ " - Dry Run Mode") ++ "\n" ++
        line ("Service: " ++ compiled.spec.name) ++
        line ("Image: " ++ compiled.spec.task.container.image) ++
        line ("Replicas: " ++ toString compiled.spec.replicas.toNat) ++
        line ("Registry auth: " ++ if options.registryAuth.isSome then "provided" else "none") := by
  have empty : line "" = "\n" := rfl
  rw [headingLines, List.map_cons, List.map_cons, List.map_cons, List.map_cons, List.map_cons,
    List.map_cons, List.map_nil, String.join_cons, String.join_cons, String.join_cons,
    String.join_cons, String.join_cons, String.join_cons, String.join_nil, empty]
  simp only [String.append_assoc, String.append_empty]

theorem report_eq (r : Request) (compiled : Compiled) (options : CreateOptions) :
    report r compiled options = String.join ((summary r compiled options).map line) ++
      "\nService spec:\n" ++ compiled.spec.toJson.toIndentedText ++ "\n" := by
  have empty : String.join ([""].map line) = "\n" := rfl
  have title : "\nService spec:\n" = "\n" ++ line "Service spec:" := rfl
  have last : line compiled.spec.toJson.toIndentedText =
    compiled.spec.toJson.toIndentedText ++ "\n" := rfl
  rw [summary, List.map_append, List.map_append, List.map_append, List.map_append,
    String.join_append, String.join_append, String.join_append, String.join_append,
    join_headingLines, join_secretsLines, join_networkLines, join_findingLines, empty, title,
    report, last, unresolvedLines]
  simp only [String.append_assoc]

def begins (start text : String) : Bool :=
  start.toList.isPrefixOf text.toList

theorem begins_append (start text : String) : begins start (start ++ text) = true := by
  rw [begins, String.toList_append, List.isPrefixOf_iff_prefix]
  exact List.prefix_append _ _

def Lacks (start : String) (lines : List String) : Prop :=
  ∀ l ∈ lines, begins start l = false

theorem Lacks.filter {start : String} {lines : List String} (lacks : Lacks start lines) :
    lines.filter (begins start) = [] :=
  List.filter_eq_nil_iff.2 fun l mem => by simp [lacks l mem]

theorem Lacks.not_mem {start : String} {lines : List String} (lacks : Lacks start lines) :
    start ∉ lines := by
  intro mem
  have whole : begins start start = true := by simpa using begins_append start ""
  rw [lacks start mem] at whole
  cases whole

theorem headingLines_lacks {c : Char} {cs : List Char} (other : c ∉ ['f', 'S', 'I', 'R']) :
    Lacks (String.ofList (c :: cs)) (headingLines compiled options) := by
  obtain ⟨notF, notS, notI, notR⟩ : c ≠ 'f' ∧ c ≠ 'S' ∧ c ≠ 'I' ∧ c ≠ 'R' := by simpa using other
  simp [Lacks, headingLines, begins, programName, List.isPrefixOf, notF, notS, notI, notR]

theorem headingLines_lacks_secrets : Lacks secretsStart (headingLines compiled options) := by
  simp [Lacks, headingLines, secretsStart, begins, programName, List.isPrefixOf]

theorem secretsLines_lacks {c : Char} {cs : List Char} (other : c ≠ 'S') :
    Lacks (String.ofList (c :: cs)) (secretsLines r) := by
  unfold secretsLines
  split <;> simp [Lacks, secretsStart, begins, List.isPrefixOf, other]

theorem networkLines_lacks {c : Char} {cs : List Char} (other : c ≠ 'N') :
    Lacks (String.ofList (c :: cs)) (networkLines r) := by
  unfold networkLines
  split <;> simp [Lacks, networkLine, begins, List.isPrefixOf, other]

theorem emptyLine_lacks (c : Char) (cs : List Char) : Lacks (String.ofList (c :: cs)) [""] := by
  simp [Lacks, begins]

theorem findingLines_lacks {c : Char} {cs : List Char} (notCount : c ≠ 'D') (notItem : c ≠ ' ') :
    Lacks (String.ofList (c :: cs)) (findingLines ds) := by
  unfold findingLines
  split <;> simp [Lacks, noDiagnosticsLine, countLine, item, itemStart, begins, List.isPrefixOf,
    notCount, notItem]

theorem filter_findingLines (ds : List Diagnostic) :
    (findingLines ds).filter (begins itemStart) = ds.map item := by
  have count : begins itemStart (countLine ds) = false := by
    simp [begins, itemStart, countLine, List.isPrefixOf]
  have kept : ∀ d ∈ ds, begins itemStart (item d) = true := fun d _ =>
    begins_append itemStart d.message
  cases ds with
  | nil => rfl
  | cons d ds =>
    rw [findingLines, if_neg (List.cons_ne_nil d ds), List.filter_cons, if_neg (by simp [count]),
      List.filter_eq_self]
    simpa using kept

theorem noDiagnosticsLine_mem_findingLines_iff : noDiagnosticsLine ∈ findingLines ds ↔ ds = [] := by
  cases ds with
  | nil => simp [findingLines]
  | cons d ds =>
    have lacks : Lacks noDiagnosticsLine (findingLines (d :: ds)) := by
      simp [Lacks, findingLines, noDiagnosticsLine, countLine, item, itemStart, begins,
        List.isPrefixOf]
    simp [lacks.not_mem]

theorem networkLine_mem_networkLines_iff :
    networkLine ∈ networkLines r ↔ ¬∃ name, r.network = some name ∧ name ≠ "" := by
  have unnamed : r.requestedNetwork = none ↔ ¬∃ name, r.network = some name ∧ name ≠ "" := by
    simp [Request.requestedNetwork, nonEmpty, Option.filter_eq_none_iff]
  have listed : networkLine ∈ networkLines r ↔ r.requestedNetwork = none := by
    by_cases none : r.requestedNetwork = none <;> simp [networkLines, none]
  exact listed.trans unnamed

structure Summarizes (r : Request) (ds : List Diagnostic) (lines : List String) : Prop where
  items : lines.filter (begins itemStart) = ds.map item
  counted : ds ≠ [] → ∃ above, lines = above ++ countLine ds :: ds.map item
  clean_iff : noDiagnosticsLine ∈ lines ↔ ds = []
  network_iff : networkLine ∈ lines ↔ ¬∃ name, r.network = some name ∧ name ≠ ""
  secrets : lines.filter (begins secretsStart) =
    if r.secretNames = [] then [] else [secretsStart ++ ", ".intercalate r.secretNames]

theorem summary_summarizes (r : Request) (compiled : Compiled) (options : CreateOptions) :
    Summarizes r compiled.notes.diagnostics (summary r compiled options) where
  items := by
    have heading : Lacks itemStart (headingLines compiled options) :=
      headingLines_lacks (by decide)
    have secrets : Lacks itemStart (secretsLines r) := secretsLines_lacks (by decide)
    have network : Lacks itemStart (networkLines r) := networkLines_lacks (by decide)
    have empty : Lacks itemStart [""] := emptyLine_lacks _ _
    simp only [summary, List.filter_append, heading.filter, secrets.filter, network.filter,
      empty.filter, filter_findingLines, List.nil_append]
  counted some := by
    refine ⟨headingLines compiled options ++ secretsLines r ++ networkLines r ++ [""], ?_⟩
    rw [summary, findingLines, if_neg some]
  clean_iff := by
    have heading : Lacks noDiagnosticsLine (headingLines compiled options) :=
      headingLines_lacks (by decide)
    have secrets : Lacks noDiagnosticsLine (secretsLines r) := secretsLines_lacks (by decide)
    have network : Lacks noDiagnosticsLine (networkLines r) := networkLines_lacks (by decide)
    have empty : Lacks noDiagnosticsLine [""] := emptyLine_lacks _ _
    simp only [summary, List.mem_append, heading.not_mem, secrets.not_mem, network.not_mem,
      empty.not_mem, false_or, noDiagnosticsLine_mem_findingLines_iff]
  network_iff := by
    have heading : Lacks networkLine (headingLines compiled options) :=
      headingLines_lacks (by decide)
    have secrets : Lacks networkLine (secretsLines r) := secretsLines_lacks (by decide)
    have empty : Lacks networkLine [""] := emptyLine_lacks _ _
    have findings : Lacks networkLine (findingLines compiled.notes.diagnostics) :=
      findingLines_lacks (by decide) (by decide)
    simp only [summary, List.mem_append, heading.not_mem, secrets.not_mem, empty.not_mem,
      findings.not_mem, false_or, or_false, networkLine_mem_networkLines_iff]
  secrets := by
    have kept : (secretsLines r).filter (begins secretsStart) = secretsLines r := by
      unfold secretsLines
      split <;> simp [begins_append]
    have network : Lacks secretsStart (networkLines r) := networkLines_lacks (by decide)
    have empty : Lacks secretsStart [""] := emptyLine_lacks _ _
    have findings : Lacks secretsStart (findingLines compiled.notes.diagnostics) :=
      findingLines_lacks (by decide) (by decide)
    simp only [summary, List.filter_append, headingLines_lacks_secrets.filter, kept,
      network.filter, empty.filter, findings.filter, List.nil_append, List.append_nil]
    rfl

theorem decode_toIndentedText (s : ServiceSpec) :
    ServiceSpec.decode (Text.Utf8.ofString s.toJson.toIndentedText) =
      .ok (s.withDelay (min s.task.restartPolicy.delay Number.maxWord)) := by
  have written : Written s.toJson (Text.Utf8.ofString s.toJson.toIndentedText) := by
    rw [Text.Utf8.ofString, Value.toIndentedText, String.toList_ofList]
    exact written_indented 0 s.toJson
  rw [ServiceSpec.decode, ServiceSpec.shape.readDocument_written written s.view_toJson]
  exact congrArg Except.ok s.ofJson_viewed

/-- The texts of a report that do not come from the program itself. -/
def givenTexts (r : Request) (compiled : Compiled) : List String :=
  [compiled.spec.name, compiled.spec.task.container.image] ++ r.secretNames ++
    compiled.notes.diagnostics.map Diagnostic.message

def OneLine (text : String) : Prop :=
  '\n' ∉ text.toList

instance (text : String) : Decidable (OneLine text) :=
  inferInstanceAs (Decidable (_ ∉ _))

theorem pieces_join {lines : List String} (oneLine : ∀ l ∈ lines, OneLine l) (below : List Char) :
    Text.pieces '\n' ((String.join (lines.map line)).toList ++ below) =
      lines.map String.toList ++ Text.pieces '\n' below := by
  induction lines with
  | nil => simp
  | cons l lines ih =>
    have first : OneLine l := oneLine l List.mem_cons_self
    have later : ∀ l ∈ lines, OneLine l := fun k mem => oneLine k (List.mem_cons_of_mem l mem)
    have split : (String.join ((l :: lines).map line)).toList ++ below =
        l.toList ++ '\n' :: ((String.join (lines.map line)).toList ++ below) := by
      simp [line]
    rw [split, Text.pieces_append first, ih later]
    rfl

theorem OneLine.append {s t : String} (first : OneLine s) (second : OneLine t) :
    OneLine (s ++ t) := by
  simp only [OneLine, String.toList_append, List.mem_append, not_or]
  exact ⟨first, second⟩

theorem oneLine_toString (n : Nat) : OneLine (toString n) := by
  intro mem
  have digits : '\n' ∈ Nat.toDigits 10 n := by simpa using mem
  have digit : ('\n').isDigit = true := Nat.isDigit_of_mem_toDigits (by decide) (by decide) digits
  exact absurd digit (by decide)

theorem oneLine_intercalate {texts : List String} (oneLine : ∀ t ∈ texts, OneLine t) :
    OneLine (", ".intercalate texts) := by
  induction texts with
  | nil => decide
  | cons t texts ih =>
    have first : OneLine t := oneLine t List.mem_cons_self
    have later : OneLine (", ".intercalate texts) :=
      ih fun u mem => oneLine u (List.mem_cons_of_mem t mem)
    have comma : OneLine ", " := by decide
    cases texts with
    | nil => simpa using first
    | cons u texts =>
      rw [String.intercalate_cons_cons]
      exact (first.append comma).append later

theorem oneLine_headingLines (name : OneLine compiled.spec.name)
    (image : OneLine compiled.spec.task.container.image) :
    ∀ l ∈ headingLines compiled options, OneLine l := by
  have replicas := oneLine_toString compiled.spec.replicas.toNat
  have credentials : OneLine (if options.registryAuth.isSome then "provided" else "none") := by
    split <;> decide
  simp only [headingLines, List.forall_mem_cons, List.not_mem_nil, false_implies, implies_true,
    and_true]
  exact ⟨by decide, by decide, .append (by decide) name, .append (by decide) image,
    .append (by decide) replicas, .append (by decide) credentials⟩

theorem oneLine_findingLines (messages : ∀ d ∈ ds, OneLine d.message) :
    ∀ l ∈ findingLines ds, OneLine l := by
  have count : OneLine (countLine ds) :=
    (OneLine.append (by decide) (oneLine_toString ds.length)).append (by decide)
  unfold findingLines
  split
  · simp only [List.forall_mem_singleton]
    decide
  · simp only [List.forall_mem_cons, List.forall_mem_map]
    exact ⟨count, fun d mem => .append (by decide) (messages d mem)⟩

theorem oneLine_summary (oneLine : ∀ text ∈ givenTexts r compiled, OneLine text) :
    ∀ l ∈ summary r compiled options, OneLine l := by
  simp only [givenTexts, List.forall_mem_append, List.forall_mem_cons, List.forall_mem_map]
    at oneLine
  obtain ⟨⟨⟨name, image, -⟩, secrets⟩, messages⟩ := oneLine
  have secret : ∀ l ∈ secretsLines r, OneLine l := by
    unfold secretsLines
    split
    · simp
    · simpa using OneLine.append (by decide) (oneLine_intercalate secrets)
  have network : ∀ l ∈ networkLines r, OneLine l := by
    unfold networkLines
    split
    · simp only [List.forall_mem_singleton]
      decide
    · simp
  have empty : ∀ l ∈ [""], OneLine l := by decide
  simp only [summary, List.forall_mem_append]
  exact ⟨⟨⟨⟨oneLine_headingLines name image, secret⟩, network⟩, empty⟩,
    oneLine_findingLines messages⟩

/-- A report carries the spec, whatever was compiled and for which request. What is written below
the summary is the compact text of the spec with white space between its signs, and is read as the
spec, apart from a delay that no word holds. The summary accounts for the request and for the
diagnostics; each of its lines is a line of the report as long as no text that it quotes has a line
break of its own. -/
theorem report_carries_spec (r : Request) (compiled : Compiled) (options : CreateOptions) :
    ∃ written : String,
      report r compiled options = String.join ((summary r compiled options).map line) ++
        "\nService spec:\n" ++ written ++ "\n" ∧
      String.ofList (withoutBlanks .outside written.toList) = compiled.spec.text ∧
      ServiceSpec.decode (Text.Utf8.ofString written) = .ok (compiled.spec.withDelay
        (min compiled.spec.task.restartPolicy.delay Number.maxWord)) ∧
      Summarizes r compiled.notes.diagnostics (summary r compiled options) ∧
      ((∀ text ∈ givenTexts r compiled, OneLine text) →
        Text.pieces '\n' (report r compiled options).toList =
          (summary r compiled options).map String.toList ++ [] :: "Service spec:".toList ::
            Text.pieces '\n' (written.toList ++ ['\n'])) := by
  refine ⟨compiled.spec.toJson.toIndentedText, report_eq r compiled options,
    withoutBlanks_toIndentedText _, decode_toIndentedText _, summary_summarizes r compiled options,
    fun oneLine => ?_⟩
  have below : "\nService spec:\n".toList ++ compiled.spec.toJson.toIndentedText.toList ++
      "\n".toList = [] ++ '\n' :: ("Service spec:".toList ++
        '\n' :: (compiled.spec.toJson.toIndentedText.toList ++ ['\n'])) := by
    simp
  have title : '\n' ∉ "Service spec:".toList := by decide
  rw [report_eq]
  simp only [String.toList_append, List.append_assoc]
  rw [pieces_join (oneLine_summary oneLine), ← List.append_assoc, below,
    Text.pieces_append List.not_mem_nil, Text.pieces_append title]

def asking : Request :=
  { Request.plain "fn" "a/b" with secrets := some ["api-key", "token"] }

def reported : Compiled where
  spec := foreignSpec
  notes := { diagnostics := [.invalidScaleLabel "lots" "invalid digit found in string"] }

theorem reported_lines : ∃ written : String,
    Text.pieces '\n' (report asking reported ⟨none⟩).toList =
      ["fnswarm v0.1.0 - Dry Run Mode", "", "Service: fn", "Image: a/b", "Replicas: 2",
        "Registry auth: none", "Secrets (unresolved): api-key, token",
        "Network: resolved at deploy time", "", "Diagnostics (1):",
        "  - invalid scale label 'lots': invalid digit found in string", "",
        "Service spec:"].map String.toList ++ Text.pieces '\n' (written.toList ++ ['\n']) ∧
    ServiceSpec.decode (Text.Utf8.ofString written) = .ok foreignSpec := by
  have oneLine : ∀ text ∈ givenTexts asking reported, OneLine text := by decide
  obtain ⟨written, -, -, decoded, -, lines⟩ := report_carries_spec asking reported ⟨none⟩
  exact ⟨written, lines oneLine, decoded⟩

end SwarmDeploy.Launch
