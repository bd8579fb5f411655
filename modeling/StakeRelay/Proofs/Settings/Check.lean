/-
  StakeRelay.Proofs.Settings.Check — what a passed check is worth.

  Settings that pass the check have a schedule. With real chains they have a contract, too,
  since the check reads it as the start does. With simulated chains the check is over before
  the contract, as none is needed. The start reads it all the same, so a text that is neither
  blank nor an address passes the check and fails the start.

  Main statements:
    * `Settings.check_ok_iff` — which settings pass;
    * `Settings.exists_contract_iff` — which of them have a contract;
    * `check_misses_simulated_contract` — what can still fail after the check.
-/

import StakeRelay.Proofs.Account.Reading
import StakeRelay.Service.Launch

namespace StakeRelay

namespace Settings

variable {s : Settings} {simulated : Bool}

/-! ## §1. The check -/

theorem check_ok_iff : s.check simulated = .ok () ↔
    s.epochLength ≠ 0 ∧ s.registryStride ≠ 0 ∧ s.retryLimit ≠ 0 ∧
      isBlankText s.eventSignature = false ∧
      (simulated = false → s.sourceUrl ≠ "" ∧ s.destinationUrl ≠ "" ∧
        isBlankText s.contractText = false ∧ ∃ contract, s.contract = .ok contract) := by
  have read : (s.contract.map fun _ => ()) = .ok () ↔ ∃ contract, s.contract = .ok contract := by
    cases s.contract with
    | error failure => exact iff_of_false nofun nofun
    | ok contract => exact iff_of_true rfl ⟨contract, rfl⟩
  unfold check
  cases simulated <;> grind

/-! ## §2. The contract -/

/-- The text of the contract is blank, so that there is none, or it spells an address. -/
def HasContract (s : Settings) : Prop :=
  isBlankText s.contractText = true ∨
    (Address.digitsOf s.contractText).length = 40 ∧
      ∀ c ∈ Address.digitsOf s.contractText, Hex.IsDigit c

/-- The contract, or what is wrong with its text (`HasContract`). -/
theorem contract_cases (s : Settings) :
    s.HasContract ∧ (∃ contract, s.contract = .ok contract) ∨
      ¬ s.HasContract ∧
        ∃ fault, s.contract = .error (.config (.contract s.contractText fault)) := by
  unfold HasContract contract
  rw [← Address.exists_parse_iff]
  unfold Address.parse
  split
  · next blank => exact .inl ⟨.inl blank, .zero, rfl⟩
  · next solid =>
    cases Address.parseFault s.contractText with
    | ok contract => exact .inl ⟨.inr ⟨contract, rfl⟩, contract, rfl⟩
    | error fault =>
      refine .inr ⟨?_, fault, rfl⟩
      rintro (blank | ⟨contract, read⟩)
      · exact solid blank
      · cases read

theorem exists_contract_iff : (∃ contract, s.contract = .ok contract) ↔ s.HasContract := by
  rcases contract_cases s with ⟨known, read⟩ | ⟨unknown, fault, told⟩
  · exact iff_of_true read known
  · refine iff_of_false ?_ unknown
    rintro ⟨contract, read⟩
    cases told.symm.trans read

/-! ## §3. The schedule -/

/-- A stride and an epoch length that are not zero are a schedule. -/
theorem exists_schedule (stride : s.registryStride ≠ 0) (length : s.epochLength ≠ 0) :
    ∃ walk schedule, Walk.ofStride s.registryStride = .ok walk ∧
      Schedule.ofLength s.epochLength walk = .ok schedule ∧ s.schedule = .ok schedule := by
  have stride : 0 < s.registryStride := UInt64.pos_iff_ne_zero.mpr stride
  have length : 0 < s.epochLength := UInt64.pos_iff_ne_zero.mpr length
  have walk : Walk.ofStride s.registryStride = .ok ⟨s.registryStride, stride⟩ := dif_pos stride
  refine ⟨⟨s.registryStride, stride⟩, ⟨s.epochLength, ⟨s.registryStride, stride⟩, length⟩, walk,
    dif_pos length, ?_⟩
  unfold schedule
  rw [walk]
  exact dif_pos length

end Settings

/-! ## §4. The start -/

namespace Launch

variable {settings : Settings} {simulated : Bool}

theorem ofSettings_of_contract {contract : Address} {schedule : Schedule}
    (passed : settings.check simulated = .ok ()) (read : settings.contract = .ok contract)
    (built : settings.schedule = .ok schedule) :
    ofSettings settings simulated =
      (if simulated then .ok () else discard (Node.connect settings.sourceUrl contract)).map
        fun _ => ⟨settings, settings.scanner contract, schedule, simulated⟩ := by
  unfold ofSettings
  rw [passed, read, built]
  cases simulated <;> rfl

theorem ofSettings_of_fault {failure : Failure} (passed : settings.check simulated = .ok ())
    (fault : settings.contract = .error failure) :
    ofSettings settings simulated = .error failure := by
  unfold ofSettings
  rw [passed, fault]
  rfl

end Launch

/-- Settings that pass the `check` have a walk and a schedule. With real chains they have a
    contract; with simulated ones they have one just if its text is blank or an address
    (`HasContract`). With a contract nothing but the connection to a real node can fail before
    the service runs. Without one the start (`Launch.ofSettings`) fails with the fault of the
    text, although the check was passed. -/
theorem check_misses_simulated_contract {settings : Settings} {simulated : Bool}
    (passed : settings.check simulated = .ok ()) :
    (∃ walk schedule, Walk.ofStride settings.registryStride = .ok walk ∧
      Schedule.ofLength settings.epochLength walk = .ok schedule ∧
      ∀ contract, settings.contract = .ok contract → Launch.ofSettings settings simulated =
        (if simulated then .ok () else discard (Node.connect settings.sourceUrl contract)).map
          fun _ => ⟨settings, settings.scanner contract, schedule, simulated⟩) ∧
    ((∃ contract, settings.contract = .ok contract) ↔ simulated = false ∨ settings.HasContract) ∧
    ∀ failure, settings.contract = .error failure →
      simulated = true ∧ (∃ fault, failure = .config (.contract settings.contractText fault)) ∧
        Launch.ofSettings settings simulated = .error failure := by
  obtain ⟨length, stride, -, -, real⟩ := Settings.check_ok_iff.mp passed
  have known : simulated = false → settings.HasContract := fun chains =>
    Settings.exists_contract_iff.mp (real chains).2.2.2
  refine ⟨?_, ?_, fun failure fault => ?_⟩
  · obtain ⟨walk, schedule, strides, ends, built⟩ := Settings.exists_schedule stride length
    exact ⟨walk, schedule, strides, ends, fun contract read =>
      Launch.ofSettings_of_contract passed read built⟩
  · rw [Settings.exists_contract_iff]
    exact ⟨.inr, fun either => either.elim known id⟩
  · rcases Settings.contract_cases settings with ⟨-, contract, read⟩ | ⟨unknown, reason, told⟩
    · cases read.symm.trans fault
    · refine ⟨?_, ⟨reason, Except.error.inj (fault.symm.trans told)⟩,
        Launch.ofSettings_of_fault passed fault⟩
      exact Bool.not_eq_false _ |>.mp fun chains => unknown (known chains)

namespace Settings

/-- Standard settings with a contract that is no address. -/
def malformed : Settings := { standard with contractText := "0xnot-hex" }

theorem check_malformed : malformed.check true = .ok () :=
  check_ok_iff.mpr ⟨by decide, by decide, by decide, by decide +kernel, nofun⟩

theorem contract_malformed :
    malformed.contract = .error (.config (.contract "0xnot-hex" (.hex .oddLength))) := by
  have solid : isBlankText "0xnot-hex" = false := by decide +kernel
  have odd : (Utf8.encodeChars (Address.digitsOf "0xnot-hex")).length % 2 = 1 := by decide +kernel
  have fault : Address.parseFault "0xnot-hex" = .error (.hex .oddLength) := by
    unfold Address.digitsOf at odd
    unfold Address.parseFault Hex.decode
    rw [if_pos odd]
  unfold contract malformed
  simp only [solid, fault, Bool.false_eq_true, if_false]

end Settings

open Settings in
/-- The check of a simulated run does not see a contract that is no address, such as
    `0xnot-hex`. The start fails at it. -/
theorem malformed_contract_fails_start :
    malformed.check true = .ok () ∧ Launch.ofSettings malformed true =
      .error (.config (.contract "0xnot-hex" (.hex .oddLength))) :=
  ⟨check_malformed,
    ((check_misses_simulated_contract check_malformed).2.2 _ contract_malformed).2.2⟩

open Settings in
/-- So a passed check does not mean that there is a contract. -/
theorem passed_check_is_not_enough :
    ¬ ∀ (settings : Settings) (simulated : Bool), settings.check simulated = .ok () →
      ∃ contract walk schedule, settings.contract = .ok contract ∧
        Walk.ofStride settings.registryStride = .ok walk ∧
        Schedule.ofLength settings.epochLength walk = .ok schedule := by
  intro claimed
  obtain ⟨contract, -, -, read, -⟩ := claimed malformed true check_malformed
  cases contract_malformed.symm.trans read

end StakeRelay
