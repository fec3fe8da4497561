import Tidebook.Program.Token

/-! # Governance -/

namespace Tidebook.Program
open Tidebook.Library

namespace Protocol

def loadConfig (protocol : Protocol) : Result ProtocolConfig :=
  okOr protocol.config .accountNotInitialized

/-- The configuration, for an instruction only its super admin may send. -/
def loadConfigAs (protocol : Protocol) (superAdmin : Wallet) : Result ProtocolConfig := do
  let config ← protocol.loadConfig
  require (config.superAdmin = superAdmin.key) .unauthorizedSuperAdmin
  pure config

/-- The signer's own administrator record, still active. -/
def loadActiveAdmin (protocol : Protocol) (authority : Wallet) : Result Unit := do
  let record ← load protocol.admins (.admin authority.key)
  require (record.val.authority = authority.key) .unauthorizedAdmin
  require (record.val.status = .active) .adminDisabled

def handleInitializeProtocol (protocol : Protocol) (deployer : Wallet) : Result Protocol := do
  require (protocol.config.isNone) .accountAlreadyInUse
  vacant protocol.admins (.admin deployer.key)
  require (protocol.upgradeAuthority = some deployer.key) .invalidDeployer
  pure { protocol with
    config := some ⟨deployer.key, 0⟩
    admins := protocol.admins.set (.admin deployer.key) ⟨deployer.key, deployer.key, .active⟩ }

def handleAddAdmin (protocol : Protocol) (superAdmin : Wallet) (newAdmin : Pubkey) :
    Result Protocol := do
  let _ ← protocol.loadConfigAs superAdmin
  vacant protocol.admins (.admin newAdmin)
  require (newAdmin ≠ .default) .invalidAdmin
  pure { protocol with
    admins := protocol.admins.set (.admin newAdmin) ⟨newAdmin, superAdmin.key, .active⟩ }

/-- The record another super-admin instruction changes, never the super admin's own. -/
def loadManagedAdmin (protocol : Protocol) (superAdmin : Wallet) (target : Pubkey) :
    Result (Account AdminRecord) := do
  let config ← protocol.loadConfigAs superAdmin
  require (target ≠ config.superAdmin) .cannotModifySuperAdmin
  let record ← load protocol.admins (.admin target)
  require (record.val.authority = target) .invalidAdmin
  pure record

def handleDisableAdmin (protocol : Protocol) (superAdmin : Wallet) (target : Pubkey) :
    Result Protocol := do
  let record ← protocol.loadManagedAdmin superAdmin target
  require (record.val.status = .active) .adminAlreadyDisabled
  pure { protocol with
    admins := protocol.admins.set record.key { record.val with status := .disabled } }

def handleEnableAdmin (protocol : Protocol) (superAdmin : Wallet) (target : Pubkey) :
    Result Protocol := do
  let record ← protocol.loadManagedAdmin superAdmin target
  require (record.val.status = .disabled) .adminAlreadyActive
  pure { protocol with
    admins := protocol.admins.set record.key { record.val with status := .active } }

def handleRemoveAdmin (protocol : Protocol) (superAdmin : Wallet) (target : Pubkey) :
    Result Protocol := do
  let record ← protocol.loadManagedAdmin superAdmin target
  require (record.val.status = .disabled) .adminMustBeDisabled
  pure { protocol with admins := protocol.admins.erase record.key }

def handleSetTakerFee (protocol : Protocol) (superAdmin : Wallet) (takerFeeBps : Nat) :
    Result Protocol := do
  let config ← protocol.loadConfigAs superAdmin
  require (takerFeeBps ≤ maxTakerFeeBps) .feeRateTooHigh
  pure { protocol with config := some { config with takerFeeBps := takerFeeBps } }

end Protocol
end Tidebook.Program
