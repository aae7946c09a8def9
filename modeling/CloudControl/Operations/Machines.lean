import CloudControl.Catalog.Machines
import CloudControl.Options.Machines
import CloudControl.Schema.Machines
import CloudControl.Operations.Basic

/-!
# Operations on machines

What can be done with machines, their snapshots and key pairs.
-/

namespace CloudControl.Operation

open Slot

def listVirtualMachines : Operation where
  name := "listVirtualMachines"
  command := .listVirtualMachines
  options := some .listVirtualMachines
  result := .items .virtualMachine

def getVirtualMachine : Operation where
  name := "getVirtualMachine"
  command := .getVirtualMachine
  slots := [text "id" "id"]
  result := .first .virtualMachine

def deployVirtualMachine : Operation where
  name := "deployVirtualMachine"
  command := .deployVirtualMachine
  slots := [
    text "zoneId" "zoneid", text "serviceOfferingId" "serviceofferingid",
    text "templateId" "templateid"]
  options := some .deployVirtualMachine
  result := .job

def startVirtualMachine : Operation where
  name := "startVirtualMachine"
  command := .startVirtualMachine
  slots := [text "id" "id"]
  result := .job

def stopVirtualMachine : Operation where
  name := "stopVirtualMachine"
  command := .stopVirtualMachine
  slots := [text "id" "id"]
  options := some .stopVirtualMachine
  result := .job

def rebootVirtualMachine : Operation where
  name := "rebootVirtualMachine"
  command := .rebootVirtualMachine
  slots := [text "id" "id"]
  result := .job

def resetPasswordForVirtualMachine : Operation where
  name := "resetPasswordForVirtualMachine"
  command := .resetPasswordForVirtualMachine
  slots := [text "id" "id"]
  result := .job

def changeServiceForVirtualMachine : Operation where
  name := "changeServiceForVirtualMachine"
  command := .changeServiceForVirtualMachine
  slots := [text "id" "id", text "serviceOfferingId" "serviceofferingid"]
  result := .object .virtualMachine

def updateVirtualMachine : Operation where
  name := "updateVirtualMachine"
  command := .updateVirtualMachine
  slots := [text "id" "id"]
  options := some .updateVirtualMachine
  result := .object .virtualMachine

def destroyVirtualMachine : Operation where
  name := "destroyVirtualMachine"
  command := .destroyVirtualMachine
  slots := [text "id" "id", switch "expunge" "expunge"]
  result := .job

def restoreVirtualMachine : Operation where
  name := "restoreVirtualMachine"
  command := .restoreVirtualMachine
  slots := [text "id" "virtualmachineid", optional "templateId" "templateid"]
  result := .job

def getEncryptedPasswordForVirtualMachine : Operation where
  name := "getEncryptedPasswordForVirtualMachine"
  command := .getVirtualMachinePassword
  slots := [text "id" "id"]
  result := .firstField .virtualMachinePassword "encryptedpassword"

def listNics : Operation where
  name := "listNics"
  command := .listNics
  slots := [text "id" "virtualmachineid"]
  result := .items .nic

def listVmSnapshots : Operation where
  name := "listVmSnapshots"
  command := .listVmSnapshots
  options := some .listVmSnapshot
  result := .items .vmSnapshot

def createVmSnapshot : Operation where
  name := "createVmSnapshot"
  command := .createVmSnapshot
  slots := [text "id" "virtualmachineid"]
  options := some .createVmSnapshot
  result := .job

def revertToVmSnapshot : Operation where
  name := "revertToVmSnapshot"
  command := .revertToVmSnapshot
  slots := [text "id" "vmsnapshotid"]
  result := .job

def deleteVmSnapshot : Operation where
  name := "deleteVmSnapshot"
  command := .deleteVmSnapshot
  slots := [text "id" "vmsnapshotid"]
  result := .job

def listSshKeyPairs : Operation where
  name := "listSshKeyPairs"
  command := .listSshKeyPairs
  options := some .listSshKeyPairs
  result := .items .sshKeyPair

def getSshKeyPair : Operation where
  name := "getSshKeyPair"
  command := .getSshKeyPair
  slots := [text "name" "name"]
  result := .first .sshKeyPair

def createSshKeyPair : Operation where
  name := "createSshKeyPair"
  command := .createSshKeyPair
  slots := [text "name" "name"]
  result := .object .sshKeyPair

def registerSshKeyPair : Operation where
  name := "registerSshKeyPair"
  command := .registerSshKeyPair
  slots := [text "name" "name", text "publicKey" "publickey"]
  result := .object .sshKeyPair

def deleteSshKeyPair : Operation where
  name := "deleteSshKeyPair"
  command := .deleteSshKeyPair
  slots := [text "name" "name"]
  result := .done

end CloudControl.Operation
