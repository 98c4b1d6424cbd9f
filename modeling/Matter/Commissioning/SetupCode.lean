import Matter.Commissioning.Ordering

/-! The vendor and product of the device against those of its setup code. The
commissioner is given the setup payload and does not look at it, so a device is
admitted under the identifiers of its own DAC. -/
namespace Matter.Commissioning
open Codec Cert Exits Logs Setup

section Runs
variable {host : Host} {cfg : CommissionerConfig} {c : Commissioner}

def Commissioner.heldChain (host : Host) (c : Commissioner) :
    Except CommissioningError ChainVerification := do
  let paiDer ← orError (.outOfOrderResponse c.stage) c.paiDer
  let dacDer ← orError (.outOfOrderResponse c.stage) c.dacDer
  let pai ← (Pai.fromDer host paiDer.bytes).mapError .attestation
  let dac ← (Dac.fromDer host dacDer.bytes).mapError .attestation
  (verifyChain host dac pai c.config.paaTrustStore c.config.now).mapError .attestation

/-- The poll verified the attestation, and with it the chain. -/
structure Event.Establishes (host : Host) (chain : ChainVerification) (e : Event) : Prop where
  polled : e.call = .poll
  fresh : e.before.pendingAction = none
  stage : e.before.stage = .attestationVerification
  passed : Commissioner.runAttestationVerification host e.before = .ok ()
  chain : e.before.heldChain host = .ok chain

/-- The vendor and product are those of the setup code, as far as it has them. -/
def Agrees (payload : SetupPayload) (vendorId : VendorId) (productId : ProductId) : Prop :=
  (payload.vendorId.all fun vendor => vendorId = ⟨vendor⟩) ∧
    payload.productId.all fun product => productId = ⟨product⟩

instance (payload : SetupPayload) (vendorId : VendorId) (productId : ProductId) :
    Decidable (Agrees payload vendorId productId) := inferInstanceAs (Decidable (_ ∧ _))

/-- Every `AddNOC` comes after an attestation verification, and the chain it
established is for the vendor and product of the setup code. -/
def AdmitsOnly (host : Host) (setupPayload : SetupPayload) (history : List Event) : Prop :=
  ∀ earlier e later session payload, history = earlier ++ e :: later →
    e.Invokes Commissioner.operationalCredentials Commissioner.addNoc session payload →
    (∃ verification ∈ earlier, ∃ chain, verification.Establishes host chain) ∧
    ∀ verification ∈ earlier, ∀ chain, verification.Establishes host chain →
      Agrees setupPayload chain.vendorId chain.productId

def Call.deliveredDac (host : Host) : Call → Option Dac
  | .onResponse .dacCertChainResponse payload => do
    let dacDer ← (decodeCertificateChainResponse payload).toOption
    (Dac.fromDer host dacDer.bytes).toOption
  | _ => none

/-- A DAC the call delivers names the vendor and product of the setup code in its
subject. -/
def Call.DeliversOnly (host : Host) (setupPayload : SetupPayload) (call : Call) : Prop :=
  ∀ dac ∈ call.deliveredDac host, Agrees setupPayload dac.subjectVid dac.subjectPid

instance (setupPayload : SetupPayload) (call : Call) :
    Decidable (call.DeliversOnly host setupPayload) :=
  inferInstanceAs (Decidable (∀ dac ∈ call.deliveredDac host, _))

namespace Commissioner

theorem heldChain_of_ran (ran : runAttestationVerification host c = .ok ()) :
    ∃ chain, c.heldChain host = .ok chain := by
  obtain ⟨paiDer, dacDer, _, _, hasPai, hasDac, _, _, pai, dac, chain, _, attested⟩ :=
    attested_of_ran ran
  refine ⟨chain, ?_⟩
  simp only [heldChain, hasPai, hasDac, orError, attested.paiParsed, attested.dacParsed,
    attested.chained, Except.mapError, bind, Except.bind]

theorem ids_of_heldChain (held : c.heldChain host = .ok chain) :
    ∃ dacDer dac, c.dacDer = some dacDer ∧ Dac.fromDer host dacDer.bytes = .ok dac ∧
      chain.vendorId = dac.subjectVid ∧ chain.productId = dac.subjectPid := by
  obtain ⟨_, _, held⟩ := of_bind_ok held
  obtain ⟨dacDer, hasDac, held⟩ := of_bind_ok held
  obtain ⟨_, _, held⟩ := of_bind_ok held
  obtain ⟨dac, dacParsed, held⟩ := of_bind_ok held
  exact ⟨dacDer, dac, orError_ok.mp hasDac, mapError_ok.mp dacParsed,
    ids_of_verifyChain (mapError_ok.mp held)⟩

theorem call_of_mem_history (mem : e ∈ c.history host calls) : e.call ∈ calls := by
  obtain ⟨earlier, later, split⟩ := List.append_of_mem mem
  obtain ⟨first, call, rest, rfl, _, rfl⟩ := log_split split
  simp [event]

/-- The DAC a verification looks at was delivered by a call of the run. -/
theorem delivered_of_establishes (built : new cfg = .ok c)
    (mem : verification ∈ c.history host calls)
    (establishes : verification.Establishes host chain) :
    ∃ call ∈ calls, ∃ dac ∈ call.deliveredDac host,
      chain.vendorId = dac.subjectVid ∧ chain.productId = dac.subjectPid := by
  obtain ⟨dacDer, dac, hasDac, parsed, ids⟩ := ids_of_heldChain establishes.chain
  obtain ⟨earlier, later, split⟩ := List.append_of_mem mem
  obtain ⟨_, _, traced, _, _, rfl, _⟩ := event_of_history built split
  have reached := traced.attestation
  simp only [attestationProgress, establishes.stage] at reached
  obtain ⟨delivery, found, _, sameDac, payload, accepted, decoded⟩ :=
    reached.exists_of_mem (List.mem_of_getElem? (i := 1) rfl)
  cases hasDac.symm.trans sameDac
  have within : delivery ∈ c.history host calls := by
    rw [split]
    exact List.mem_append_left _ found
  have called := call_of_mem_history within
  refine ⟨delivery.call, called, dac, ?_, ids⟩
  rw [accepted.1, Call.deliveredDac, decoded]
  simp only [Except.toOption, Option.bind_eq_bind, Option.bind_some, parsed, Option.mem_def]

theorem established_of_addNoc (built : new cfg = .ok c)
    (split : c.history host calls = earlier ++ e :: later)
    (invokes : e.Invokes operationalCredentials addNoc session payload) :
    ∃ verification ∈ earlier, ∃ chain, verification.Establishes host chain := by
  obtain ⟨endpoint, expect, returned⟩ := invokes
  obtain ⟨_, _, traced, coherent, _, performed⟩ := returned_of_history built split returned
  have reached := traced.attestation
  simp only [attestationProgress, (noc_of_returned coherent performed).1] at reached
  obtain ⟨verification, found, _, _, _, _, _, _, _, _, verified⟩ :=
    reached.exists_of_mem (List.mem_of_getElem? (i := 4) rfl)
  obtain ⟨chain, held⟩ := heldChain_of_ran verified.passed
  exact ⟨verification, found, chain, verified.polled, verified.fresh, verified.stage,
    verified.passed, held⟩

end Commissioner

/-- A run in which every DAC delivered names the vendor and product of the setup
code admits only a device with a chain for them. -/
theorem admits_only_setup_code (host : Host) (built : Commissioner.new cfg = .ok c)
    (calls : List Call) (delivers : ∀ call ∈ calls, call.DeliversOnly host cfg.setupPayload) :
    AdmitsOnly host cfg.setupPayload (c.history host calls) := by
  intro earlier e later session payload split invokes
  refine ⟨Commissioner.established_of_addNoc built split invokes, ?_⟩
  intro verification found chain establishes
  have within : verification ∈ c.history host calls := by
    rw [split]
    exact List.mem_append_left _ found
  obtain ⟨call, called, dac, delivered, vendor, product⟩ :=
    Commissioner.delivered_of_establishes built within establishes
  rw [vendor, product]
  exact delivers call called dac delivered

end Runs

namespace TestDevice
open Commissioner

/-- The device under its own setup code. -/
theorem test_device_admitted :
    (∀ call ∈ commissioning, call.DeliversOnly host (setupPayload 0xfff1 0x8000)) ∧
    AdmitsOnly host (setupPayload 0xfff1 0x8000)
      ((commissioner 0xfff1 0x8000).history host commissioning) := by
  have delivers : ∀ call ∈ commissioning, call.DeliversOnly host (setupPayload 0xfff1 0x8000) := by
    decide +kernel
  exact ⟨delivers, admits_only_setup_code host (new_commissioner 0xfff1 0x8000) commissioning
    delivers⟩

/-- The device is admitted under the setup code of another product of another
vendor. -/
theorem other_vendor_admitted :
    Commissioner.new (config 0xfff2 0x8001) = .ok (commissioner 0xfff2 0x8001) ∧
    (config 0xfff2 0x8001).setupPayload.vendorId = some 0xfff2 ∧
    (config 0xfff2 0x8001).setupPayload.productId = some 0x8001 ∧
    ∃ earlier e payload chain,
      (commissioner 0xfff2 0x8001).history host (trustedRoot ++ [.poll]) = earlier ++ [e] ∧
      e.Invokes operationalCredentials addNoc .pase payload ∧
      (∃ verification ∈ earlier, verification.Establishes host chain) ∧
      chain.vendorId = ⟨0xfff1⟩ ∧ chain.productId = ⟨0x8000⟩ := by
  let chain : ChainVerification := ⟨⟨0xfff1⟩, ⟨0x8000⟩, dacKey, paaSubject, none⟩
  let c := (commissioner 0xfff2 0x8001).after host attestation
  have verified : (c.event host .poll).Establishes host chain :=
    ⟨rfl, by decide +kernel, by decide +kernel, by decide +kernel, by decide +kernel⟩
  have found : c.event host .poll ∈ (commissioner 0xfff2 0x8001).history host trustedRoot := by
    exact mem_log attestation .poll _
  let payload := addNocPayload ((commissioner 0xfff2 0x8001).after host trustedRoot)
  refine ⟨new_commissioner _ _, rfl, rfl, _, _, payload.toOption.getD [], chain,
    log_concat trustedRoot .poll, ⟨0, .nocResponse, rfl, ?_⟩, ⟨_, found, verified⟩, rfl, rfl⟩
  decide +kernel

end TestDevice

end Matter.Commissioning
