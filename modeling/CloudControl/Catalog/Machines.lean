import CloudControl.Catalog.Command

/-!
# Commands on machines

The commands on machines, their snapshots and key pairs.
-/

namespace CloudControl

namespace Command

def listVirtualMachines : Command := listsAll "listVirtualMachines" "virtualmachine"

def getVirtualMachine : Command := findsInAll "listVirtualMachines" "virtualmachine"

def deployVirtualMachine : Command := startsByPost "deployVirtualMachine"

def startVirtualMachine : Command := starts "startVirtualMachine"

def stopVirtualMachine : Command := starts "stopVirtualMachine"

def rebootVirtualMachine : Command := starts "rebootVirtualMachine"

def resetPasswordForVirtualMachine : Command := starts "resetPasswordForVirtualMachine"

def changeServiceForVirtualMachine : Command :=
  answers "changeServiceForVirtualMachine" "virtualmachine"

def updateVirtualMachine : Command := postsTo "updateVirtualMachine" "virtualmachine"

def destroyVirtualMachine : Command := starts "destroyVirtualMachine"

def restoreVirtualMachine : Command := starts "restoreVirtualMachine"

def getVirtualMachinePassword : Command :=
  { answers "getVMPassword" "password" with fallback := .noneWhenUnavailable }

def listNics : Command := lists "listNics" "nic"

def listVmSnapshots : Command := listsAll "listVMSnapshot" "vmSnapshot"

def createVmSnapshot : Command := starts "createVMSnapshot"

def revertToVmSnapshot : Command := starts "revertToVMSnapshot"

def deleteVmSnapshot : Command := starts "deleteVMSnapshot"

def listSshKeyPairs : Command := listsAll "listSSHKeyPairs" "sshkeypair"

def getSshKeyPair : Command := findsInAll "listSSHKeyPairs" "sshkeypair"

def createSshKeyPair : Command := answers "createSSHKeyPair" "keypair"

def registerSshKeyPair : Command := postsTo "registerSSHKeyPair" "keypair"

def deleteSshKeyPair : Command := removes "deleteSSHKeyPair"

end Command

namespace CommandGroup

open Command

/-- The group "virtual machine". -/
def virtualMachineCommands : CommandGroup :=
  ⟨"virtual machine", [
    listVirtualMachines, getVirtualMachine, deployVirtualMachine, startVirtualMachine,
    stopVirtualMachine, rebootVirtualMachine, resetPasswordForVirtualMachine,
    changeServiceForVirtualMachine, updateVirtualMachine, destroyVirtualMachine,
    restoreVirtualMachine, getVirtualMachinePassword, listNics]⟩

/-- The group "vm snapshot". -/
def vmSnapshotCommands : CommandGroup :=
  ⟨"vm snapshot", [listVmSnapshots, createVmSnapshot, revertToVmSnapshot, deleteVmSnapshot]⟩

/-- The group "ssh key pair". -/
def sshKeyPairCommands : CommandGroup :=
  ⟨"ssh key pair", [
    listSshKeyPairs, getSshKeyPair, createSshKeyPair, registerSshKeyPair, deleteSshKeyPair]⟩

end CommandGroup

end CloudControl
