import Matter.Base.Runs
import Matter.Commissioning.Unsecured
import Matter.Controller.Persistence
import Matter.Crypto.Ccm

/-! Check-Ins, with which a sleeping device says that it is awake. A call takes the floor of
a registration from the store and leaves it there, so that a recorded Check-In is accepted
again by the next call. -/
namespace Matter.Controller
open LittleEndian
open Codec (Octets)
open Cert (Block)
open Commissioning Runs
open Handshake (received onWire)

inductive CheckinError where
  | tooShort
  | authFailed
  | nonceMismatch
  | encodeFailed
  deriving DecidableEq, Repr

/-- The cipher and HMAC-SHA256. -/
structure CheckinSuite where
  aead : Crypto.Aead
  hmac : (key message : Bytes) → Block 32

open CheckinSuite

structure CheckIn where
  nodeId : UInt64
  counter : UInt32
  appData : Bytes
  deriving DecidableEq, Repr

/-- What a call meets outside: the store may fail to be read, the credentials to be made or
the service to be advertised, and then frames come. -/
structure Listen where
  read : Except Error Unit
  ready : Except Error Unit
  recvFrom : Nat → Except String Bytes

def minPayload : Nat := 33

def icdCheckinOpcode : UInt8 := 0x50

namespace CheckinSuite
variable (suite : CheckinSuite)

def checkinNonce (key : Block 16) (counter : UInt32) : Bytes :=
  (suite.hmac key.bytes (LittleEndian.encode 4 counter.toNat)).bytes.take 13

def encodeCheckin (key : Block 16) (counter : UInt32) (appData : Bytes) :
    Except CheckinError Bytes :=
  let nonce := suite.checkinNonce key counter
  match suite.aead.encrypt key.bytes nonce [] (LittleEndian.encode 4 counter.toNat ++ appData) with
  | some ctTag => .ok (nonce ++ ctTag)
  | none => .error .encodeFailed

def decodeCheckin (key : Block 16) (payload : Bytes) : Except CheckinError (UInt32 × Bytes) :=
  if payload.length < minPayload then .error .tooShort
  else match suite.aead.decrypt key.bytes (payload.take 13) [] (payload.drop 13) with
    | none => .error .authFailed
    | some plaintext =>
      if plaintext.length < 4 then .error .tooShort
      else
        let counter := UInt32.ofNat (LittleEndian.decode (plaintext.take 4))
        if suite.checkinNonce key counter ≠ payload.take 13 then .error .nonceMismatch
        else .ok (counter, plaintext.drop 4)

/-- The first registration whose key opens the payload with a counter above its floor. -/
def verify (registrations : List IcdRegistration) (payload : Bytes) :
    Option (IcdRegistration × CheckIn) :=
  registrations.findSome? fun reg =>
    match suite.decodeCheckin reg.key payload with
    | .error _ => none
    | .ok (counter, appData) =>
      if counter ≤ reg.startCounter then none else some (reg, ⟨reg.nodeId, counter, appData⟩)

/-- What a frame is taken for, if it is not ignored. -/
def heed (registrations : List IcdRegistration) (bytes : Bytes) :
    Option (IcdRegistration × CheckIn) :=
  match decodeUnsecured bytes with
  | .error _ => none
  | .ok m =>
    if m.protocolId ≠ .secureChannel ∨ m.opcode ≠ icdCheckinOpcode then none
    else suite.verify registrations m.payload

/-- The Check-In comes with the registration it was accepted for. -/
def recvCheckinOnce (registrations : List IcdRegistration) (recvFrom : Nat → Except String Bytes) :
    (maxFrames : Nat) → Except Error (IcdRegistration × CheckIn)
  | 0 => .error (.operational "no verifiable ICD check-in received")
  | maxFrames + 1 =>
    match recvFrom 0 with
    | .error e => .error (.operational s!"ICD listener recv: {e}")
    | .ok bytes =>
      match suite.heed registrations bytes with
      | some accepted => .ok accepted
      | none => recvCheckinOnce registrations (fun n => recvFrom (n + 1)) maxFrames

def listenForCheckinOnce (store : Option Octets) (call : Listen) :
    Except Error (IcdRegistration × CheckIn) := do
  call.read
  let blob ← store.elim (.error (.notCommissioned "no fabric to listen from")) .ok
  let state ← deserialize blob
  match state.fabrics with
  | [] => .error (.notCommissioned "no fabric to listen from")
  | fabric :: _ =>
    if fabric.icdClients.isEmpty then
      .error (.operational "no registered ICD clients to listen for")
    else
      call.ready
      suite.recvCheckinOnce fabric.icdClients call.recvFrom 256

end CheckinSuite

/-- A controller and what its calls have accepted. -/
structure Listener where
  world : World
  accepted : List (IcdRegistration × CheckIn)

namespace Listener

inductive Input where
  | controller (event : Event)
  | listen (call : Listen)

variable (suite : CheckinSuite)

def next (l : Listener) : Input → Listener
  | .controller event => { l with world := l.world.step event }
  | .listen call =>
    match suite.listenForCheckinOnce l.world.store call with
    | .ok checkIn => { l with accepted := l.accepted ++ [checkIn] }
    | .error _ => l

/-- The counters accepted for one registration, of a node under a key, increase. -/
def Increasing (l : Listener) : Prop :=
  l.accepted.Pairwise fun earlier later => earlier.1.nodeId = later.1.nodeId →
    earlier.1.key = later.1.key → earlier.2.counter < later.2.counter

def registrations (l : Listener) : List IcdRegistration :=
  match l.world.store.map deserialize with
  | some (.ok ⟨fabric :: _⟩) => fabric.icdClients
  | _ => []

/-- Before a call every registration a Check-In was accepted for is replaced by one that
starts at its counter or above, or under another key. Frames are not restricted. -/
def Renewed (l : Listener) : Input → Prop
  | .controller _ => True
  | .listen _ => ∀ a ∈ l.accepted, ∀ reg ∈ l.registrations, a.1.nodeId = reg.nodeId →
      a.1.key = reg.key → a.2.counter ≤ reg.startCounter

end Listener

namespace CheckinSuite
variable {suite : CheckinSuite}

/-- A registration and a Check-In above its floor. -/
def Fresh (registrations : List IcdRegistration) (a : IcdRegistration × CheckIn) : Prop :=
  a.1 ∈ registrations ∧ a.1.startCounter < a.2.counter

theorem fresh_of_verify (verified : suite.verify registrations payload = some a) :
    Fresh registrations a := by
  obtain ⟨reg, registered, opened⟩ := List.exists_of_findSome?_eq_some verified
  split at opened
  · cases opened
  · split at opened
    · cases opened
    · rename_i above
      cases opened
      exact ⟨registered, UInt32.not_le.mp above⟩

theorem fresh_of_heed (heeded : suite.heed registrations bytes = some a) :
    Fresh registrations a := by
  unfold heed at heeded
  split at heeded
  · cases heeded
  · split at heeded
    · cases heeded
    · exact fresh_of_verify heeded

theorem fresh_of_recvCheckinOnce
    (returned : suite.recvCheckinOnce registrations recvFrom maxFrames = .ok a) :
    Fresh registrations a := by
  induction maxFrames generalizing recvFrom with
  | zero => cases returned
  | succ maxFrames ih =>
    unfold recvCheckinOnce at returned
    split at returned
    · cases returned
    · split at returned
      · rename_i heeded
        cases returned
        exact fresh_of_heed heeded
      · exact ih returned

theorem fresh_of_listenForCheckinOnce {l : Listener}
    (returned : suite.listenForCheckinOnce l.world.store call = .ok a) :
    Fresh l.registrations a := by
  unfold listenForCheckinOnce at returned
  obtain ⟨_, _, returned⟩ := Exits.of_bind_ok returned
  obtain ⟨blob, stored, returned⟩ := Exits.of_bind_ok returned
  obtain ⟨state, loaded, returned⟩ := Exits.of_bind_ok returned
  obtain ⟨fabrics⟩ := state
  cases held : l.world.store with
  | none => rw [held] at stored; cases stored
  | some bytes =>
    rw [held] at stored
    cases stored
    rw [Listener.registrations, held, Option.map_some, loaded]
    cases fabrics with
    | nil => cases returned
    | cons fabric others =>
      dsimp only at returned
      split at returned
      · cases returned
      · obtain ⟨_, _, returned⟩ := Exits.of_bind_ok returned
        exact fresh_of_recvCheckinOnce returned

end CheckinSuite

theorem Listener.increasing_next {l : Listener} (increasing : l.Increasing)
    (renewed : l.Renewed input) : (l.next suite input).Increasing := by
  cases input with
  | controller event => exact increasing
  | listen call =>
    unfold next
    dsimp only
    split
    · rename_i a returned
      obtain ⟨registered, above⟩ := fresh_of_listenForCheckinOnce returned
      refine List.pairwise_append.mpr ⟨increasing, List.pairwise_singleton _ _, ?_⟩
      intro earlier before later here sameNode sameKey
      obtain rfl := List.mem_singleton.mp here
      exact UInt32.lt_of_le_of_lt (renewed earlier before _ registered sameNode sameKey) above
    · exact increasing

/-- If a registration is renewed before the next call, no frames make the counters accepted
for it repeat or fall. -/
theorem accepted_checkins_increase (suite : CheckinSuite) (trust : Bool) (store : Option Octets)
    (inputs : List Listener.Input)
    (renewed : EveryStep (Listener.next suite) Listener.Renewed ⟨.start trust store, []⟩ inputs) :
    EveryState (Listener.next suite) Listener.Increasing ⟨.start trust store, []⟩ inputs :=
  everyState_of_guard (fun _ _ => Listener.increasing_next) .nil renewed

def sleeper (startCounter : UInt32) : IcdRegistration := ⟨0x42, 1, 1, .fill 16 0xcc, startCounter⟩

def sleeperState (startCounter : UInt32) : ControllerState :=
  ⟨(sampleState lamp).fabrics.map (Actor.registered (sleeper startCounter))⟩

def sleeperBlob (startCounter : UInt32) : Octets :=
  onWire (serialize (sleeperState startCounter))

/-- Short stand-ins for the block cipher and the hash. -/
def sampleSuite : CheckinSuite where
  aead := .ccm fun _ block => block
  hmac _ message := .fill 32 (message.headD 0)

/-- Every frame is the Check-In that the device sent with the counter. -/
def recorded (counter : UInt32) : Listen where
  read := .ok ()
  ready := .ok ()
  recvFrom _ := .ok <| encodeUnsecured 1 1 icdCheckinOpcode .secureChannel true false none none
    ((sampleSuite.encodeCheckin (sleeper 0).key counter []).toOption.getD [])

/-- A recorded Check-In is accepted by a second call. -/
theorem recorded_checkin_accepted_again :
    ¬ EveryState (Listener.next sampleSuite) Listener.Increasing
      ⟨.start true (some (sleeperBlob 10)), []⟩ [.listen (recorded 11), .listen (recorded 11)] := by
  intro increasing
  have accepted := increasing _ (List.prefix_refl _)
  have twice : (run (Listener.next sampleSuite) ⟨.start true (some (sleeperBlob 10)), []⟩
      [.listen (recorded 11), .listen (recorded 11)]).accepted =
      [(sleeper 10, ⟨0x42, 11, []⟩), (sleeper 10, ⟨0x42, 11, []⟩)] := by
    decide +kernel
  rw [Listener.Increasing, twice] at accepted
  have less := (List.pairwise_cons.mp accepted).1 _ List.mem_cons_self rfl rfl
  exact absurd less (by decide)

/-- The device registers again, with the counter of its last Check-In. -/
def renew : Event := .command (.persistIcdRegistration (sleeper 11))

/-- Two Check-Ins are accepted, with the registration renewed in between. -/
theorem accepted_checkins_increase_renewed :
    let inputs := [.listen (recorded 11), .controller renew, .controller saves,
      .listen (recorded 12)]
    (run (Listener.next sampleSuite) ⟨.start true (some (sleeperBlob 10)), []⟩ inputs).accepted =
        [(sleeper 10, ⟨0x42, 11, []⟩), (sleeper 11, ⟨0x42, 12, []⟩)] ∧
      EveryState (Listener.next sampleSuite) Listener.Increasing
        ⟨.start true (some (sleeperBlob 10)), []⟩ inputs := by
  intro inputs
  refine ⟨by decide +kernel, accepted_checkins_increase sampleSuite true _ _ ?_⟩
  simp only [inputs, everyStep_cons]
  refine ⟨by rintro _ ⟨⟩, trivial, trivial, ?_, everyStep_nil⟩
  change ∀ a ∈ Listener.accepted _, ∀ reg ∈ Listener.registrations _, a.1.nodeId = reg.nodeId →
    a.1.key = reg.key → a.2.counter ≤ reg.startCounter
  decide +kernel

end Matter.Controller
