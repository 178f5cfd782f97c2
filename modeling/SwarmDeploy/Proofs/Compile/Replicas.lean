import SwarmDeploy.Proofs.Compile.Findings
import SwarmDeploy.Proofs.Compile.Labels

/-! The count of replicas.
It is read off the scale label of the user: a number that fits a word is the count, and anything
else that the label is bound to is reported and counts as one. -/

namespace SwarmDeploy.Compile
open Number

variable {settings : DeploySettings} {user : Option Bindings} {text : String} {n : Nat}
  {fault : IntegerFault}

theorem scaleText_eq (user : Option Bindings) (settings : DeploySettings) :
    scaleText user settings = (given user).lookup settings.scaleMinLabel := by
  cases user <;> rfl

theorem scaleText_eq_some_iff :
    scaleText user settings = some text ↔ (settings.scaleMinLabel, text) ∈ given user := by
  rw [scaleText_eq, lookup_eq_some_iff (nodup_given user)]

theorem scaleText_eq_none_iff :
    scaleText user settings = none ↔ settings.scaleMinLabel ∉ (given user).map (·.1) := by
  rw [scaleText_eq, lookup_eq_none_iff]

theorem replicas_of_absent (absent : settings.scaleMinLabel ∉ (given user).map (·.1)) :
    Records (replicas user settings) 1 [] := by
  have records := records_replicas user settings
  rw [scaleText_eq_none_iff.2 absent] at records
  exact records

theorem replicas_of_word (bound : (settings.scaleMinLabel, text) ∈ given user)
    (read : readWord text = .ok n) : Records (replicas user settings) (UInt64.ofNat n) [] := by
  have records := records_replicas user settings
  rw [scaleText_eq_some_iff.2 bound] at records
  simpa only [replicaCount, scaleFindings, read] using records

theorem replicas_of_fault (bound : (settings.scaleMinLabel, text) ∈ given user)
    (failed : readWord text = .error fault) :
    Records (replicas user settings) 1 [.invalidScaleLabel text fault.message] := by
  have records := records_replicas user settings
  rw [scaleText_eq_some_iff.2 bound] at records
  simpa only [replicaCount, scaleFindings, failed] using records

theorem toNat_ofNat_of_readWord (read : readWord text = .ok n) : (UInt64.ofNat n).toNat = n := by
  have le : n ≤ maxWord := (readNatural_eq_ok_iff.1 read).2
  exact UInt64.toNat_ofNat_of_lt (Nat.lt_succ_of_le le)

structure CountsReplicas (user : Option Bindings) (settings : DeploySettings) (notes : Notes) :
    Prop where
  absent : settings.scaleMinLabel ∉ (given user).map (·.1) →
    (replicas user settings).run notes = (1, notes)
  counted : ∀ text n, (settings.scaleMinLabel, text) ∈ given user →
    IsNatural text.toList n → n ≤ 0xFFFFFFFFFFFFFFFF →
      ∃ count : UInt64, count.toNat = n ∧ (replicas user settings).run notes = (count, notes)
  refused : ∀ text, (settings.scaleMinLabel, text) ∈ given user →
    (¬∃ n, IsNatural text.toList n ∧ n ≤ 0xFFFFFFFFFFFFFFFF) →
      ∃ fault, NaturalFault 0xFFFFFFFFFFFFFFFF text.toList fault ∧
        (replicas user settings).run notes =
          (1, notes.push (.invalidScaleLabel text fault.message))
  zero : ((replicas user settings).run notes).1 = 0 ↔
    ∃ text zeros, (settings.scaleMinLabel, text) ∈ given user ∧
      zeros ≠ [] ∧ (∀ c ∈ zeros, c = '0') ∧ (text.toList = zeros ∨ text.toList = '+' :: zeros)

theorem replicas_eq_zero_iff {notes : Notes} : ((replicas user settings).run notes).1 = 0 ↔
    ∃ text, (settings.scaleMinLabel, text) ∈ given user ∧ IsNatural text.toList 0 := by
  constructor
  · intro zero
    cases label : scaleText user settings with
    | none =>
      rw [replicas_of_absent (scaleText_eq_none_iff.1 label) notes] at zero
      cases zero
    | some text =>
      have bound := scaleText_eq_some_iff.1 label
      cases read : readWord text with
      | error fault =>
        rw [replicas_of_fault bound read notes] at zero
        cases zero
      | ok n =>
        rw [replicas_of_word bound read notes] at zero
        have value : n = 0 :=
          (toNat_ofNat_of_readWord read).symm.trans (congrArg UInt64.toNat zero)
        exact ⟨text, bound, value ▸ (readNatural_eq_ok_iff.1 read).1⟩
  · rintro ⟨text, bound, natural⟩
    have read : readWord text = .ok 0 := readNatural_eq_ok_iff.2 ⟨natural, Nat.zero_le _⟩
    rw [replicas_of_word bound read notes]
    rfl

theorem countsReplicas (user : Option Bindings) (settings : DeploySettings) (notes : Notes) :
    CountsReplicas user settings notes where
  absent absent := by
    rw [replicas_of_absent absent notes, Notes.record_nil]
  counted text n bound natural le := by
    have read : readWord text = .ok n := readNatural_eq_ok_iff.2 ⟨natural, le⟩
    refine ⟨UInt64.ofNat n, toNat_ofNat_of_readWord read, ?_⟩
    rw [replicas_of_word bound read notes, Notes.record_nil]
  refused text bound other := by
    cases read : readWord text with
    | ok n => exact absurd ⟨n, readNatural_eq_ok_iff.1 read⟩ other
    | error fault =>
      exact ⟨fault, readNatural_eq_error_iff.1 read, replicas_of_fault bound read notes⟩
  zero := by
    rw [replicas_eq_zero_iff]
    refine exists_congr fun text => ?_
    rw [isNatural_zero_iff, exists_and_left]

theorem replicas_of_compile {r : Request} {secrets : List Service.SecretReference}
    {network : Option String} {compiled : Compiled}
    (compiles : compile settings r secrets network = .ok compiled) (notes : Notes) :
    compiled.spec.replicas = ((replicas r.labels settings).run notes).1 := by
  obtain ⟨set, -, rfl⟩ := compile_eq_ok_iff.1 compiles
  rw [records_replicas r.labels settings notes]
  rfl

/-- Integers are read exactly or reported. A CPU quantity is an integer of 64 bits, or has a first
fault; the count of replicas is the number that the scale label of the user stands for, or else one,
and the fault of the label is then recorded. Annotations do not change the count. -/
theorem integer_texts_read_exactly :
    (∀ text n, Cpu.parse text = .ok n ↔
      IsInteger text.toList n ∧ -0x8000000000000000 ≤ n ∧ n ≤ 0x7FFFFFFFFFFFFFFF) ∧
    (∀ text fault, Cpu.parse text = .error fault ↔
      ∃ first, IntegerTextFault 0x8000000000000000 0x7FFFFFFFFFFFFFFF text.toList first ∧
        .notAnInteger first = fault) ∧
    (∀ user settings notes, CountsReplicas user settings notes) ∧
    ∀ settings (r : Request) annotations secrets network compiled notes,
      compile settings { r with annotations } secrets network = .ok compiled →
        compiled.spec.replicas = ((replicas r.labels settings).run notes).1 :=
  ⟨fun _ _ => Cpu.parse_eq_ok_iff, fun _ _ => Cpu.parse_eq_error_iff, countsReplicas,
    fun _ _ _ _ _ _ notes compiles => replicas_of_compile compiles notes⟩

def paddedScale : Bindings :=
  .ofList [("com.openfaas.scale.min", "+0018446744073709551615")]

/-- The largest count, with a sign and zeros in front, and the least CPU quantity. -/
theorem extremes_read_exactly :
    (∃ count : UInt64, count.toNat = 18446744073709551615 ∧
      (replicas (some paddedScale) {}).run {} = (count, {})) ∧
      Cpu.parse "-9223372036854775808" = .ok (-9223372036854775808) := by
  have count : IsNatural "+0018446744073709551615".toList 18446744073709551615 :=
    .plus ⟨by decide, List.all_eq_true.1 rfl, rfl⟩
  have least : IsInteger "-9223372036854775808".toList (-9223372036854775808) :=
    .minus ⟨by decide, List.all_eq_true.1 rfl, rfl⟩
  obtain ⟨parses, -, counts, -⟩ := integer_texts_read_exactly
  exact ⟨(counts _ _ _).counted _ _ (by decide) count (by decide),
    (parses _ _).2 ⟨least, by decide, by decide⟩⟩

end SwarmDeploy.Compile
