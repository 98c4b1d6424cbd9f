import Matter.Cert.FromTlv
import Matter.Handshake.Fields

/-! What a controller keeps of its fabrics, and the errors of its commands. -/
namespace Matter.Controller
open Codec (Octets Text)
open Cert (Block MatterCertificate)

/-- What the modelled functions return of `matter_controller::Error`. The texts of
library errors are not modelled. -/
inductive Error where
  | store
  | codec (error : Codec.Error)
  | cert (error : Cert.Error)
  | snapshot (message : String)
  | notCommissioned (message : String)
  | operational (message : String)
  | noTrust
  | aclWouldLockOut
  | groupNotProvisioned (keySetId : UInt16)
  | fabricAlreadyExists (fabricId : UInt64)
  | invalidFabricValidity
  | systemClockUnset (seconds : UInt64)
  | noc
  | signer
  | transport
  | driver
  deriving DecidableEq, Repr

structure GroupKeySetConfig where
  keySetId : UInt16
  epochKey : Block 16
  epochStartTime : UInt64
  deriving DecidableEq

structure IcacIdentity where
  cert : MatterCertificate
  pkcs8 : Octets
  deriving DecidableEq

structure DeviceEntry where
  nodeId : UInt64
  peerNocPublicKey : Block 65
  resumptionRecord : Option Octets
  lastKnownAddr : Option Text
  vendorId : Option UInt16
  productId : Option UInt16
  label : Option Text
  deriving DecidableEq

structure CommissionerIdentity where
  nodeId : UInt64
  operationalPkcs8 : Octets
  noc : MatterCertificate
  deriving DecidableEq

structure IcdRegistration where
  nodeId : UInt64
  checkInNodeId : UInt64
  monitoredSubject : UInt64
  key : Block 16
  startCounter : UInt32
  deriving DecidableEq

/-- The group counter is the ceiling of what has been reserved. -/
structure FabricEntry where
  fabricId : UInt64
  ipk : Block 16
  rcacCert : MatterCertificate
  rcacPkcs8 : Octets
  commissioner : CommissionerIdentity
  devices : List DeviceEntry
  groupKeys : List GroupKeySetConfig
  outboundGroupCounter : UInt32
  icdClients : List IcdRegistration
  icac : Option IcacIdentity
  deriving DecidableEq

structure ControllerState where
  fabrics : List FabricEntry
  deriving DecidableEq

end Matter.Controller
