import CloudControl.Options.Builder

/-!
# Options on machines

The setters of the commands on machines, their offerings, their snapshots and key pairs.
-/

namespace CloudControl.Options

namespace Builder

open Setter

/-- Options for listing virtual machines. -/
def listVirtualMachines : Builder where
  name := "listVirtualMachines"
  setters :=
    paging ++ plain [
      ("id", "id"), ("name", "name"), ("state", "state"), ("zoneId", "zoneid"),
      ("podId", "podid"), ("hostId", "hostid"), ("storageId", "storageid"),
      ("groupId", "groupid"), ("hypervisor", "hypervisor"), ("networkId", "networkid"),
      ("templateId", "templateid"), ("isoId", "isoid"), ("vpcId", "vpcid"),
      ("serviceOfferingId", "serviceofferingid"), ("keyPair", "keypair"),
      ("forVirtualNetwork", "forvirtualnetwork"), ("details", "details"),
      ("displayVm", "displayvm"), ("isRecursive", "isrecursive"), ("listAll", "listall"),
      ("projectId", "projectid")] ++ [accountInDomain, tags, joined "ids" "ids"]

/-- Options for deploying a virtual machine. -/
def deployVirtualMachine : Builder where
  name := "deployVirtualMachine"
  setters :=
    plain [
      ("name", "name"), ("displayName", "displayname"), ("group", "group"),
      ("diskOfferingId", "diskofferingid"), ("size", "size"), ("rootDiskSize", "rootdisksize"),
      ("hypervisor", "hypervisor"), ("hostId", "hostid"), ("keyPair", "keypair"),
      ("ipAddress", "ipaddress"), ("ip6Address", "ip6address"), ("keyboard", "keyboard"),
      ("startVm", "startvm"), ("projectId", "projectid"), ("displayVm", "displayvm")] ++
    [accountInDomain, joined "networkIds" "networkids",
      joined "securityGroupIds" "securitygroupids",
      joined "securityGroupNames" "securitygroupnames",
      joined "affinityGroupIds" "affinitygroupids",
      ⟨"ipToNetwork", .indexed "iptonetworklist" "networkid" "ip"⟩,
      ⟨"userData", .base64 "userdata"⟩]

/-- Options for stopping a virtual machine. -/
def stopVirtualMachine : Builder where
  name := "stopVirtualMachine"
  setters := plain [("forced", "forced")]

/-- Options for changing a virtual machine. -/
def updateVirtualMachine : Builder where
  name := "updateVirtualMachine"
  setters :=
    plain [
      ("name", "name"), ("displayName", "displayname"), ("group", "group"),
      ("haEnable", "haenable"), ("osTypeId", "ostypeid"), ("displayVm", "displayvm"),
      ("isDynamicallyScalable", "isdynamicallyscalable")] ++ [⟨"userData", .base64 "userdata"⟩]

/-- Options for listing service offerings. -/
def listServiceOfferings : Builder where
  name := "listServiceOfferings"
  setters :=
    paging ++ plain [
      ("id", "id"), ("name", "name"), ("domainId", "domainid"), ("isSystem", "issystem"),
      ("systemVmType", "systemvmtype"), ("virtualMachineId", "virtualmachineid"),
      ("isRecursive", "isrecursive")]

/-- Options for listing disk offerings. -/
def listDiskOfferings : Builder where
  name := "listDiskOfferings"
  setters :=
    paging ++ plain [
      ("id", "id"), ("name", "name"), ("domainId", "domainid"), ("zoneId", "zoneid"),
      ("isRecursive", "isrecursive")]

/-- Options for listing key pairs. -/
def listSshKeyPairs : Builder where
  name := "listSshKeyPairs"
  setters :=
    paging ++ plain [
      ("name", "name"), ("fingerprint", "fingerprint"), ("isRecursive", "isrecursive"),
      ("listAll", "listall"), ("projectId", "projectid")] ++ [accountInDomain]

/-- Options for listing machine snapshots. -/
def listVmSnapshot : Builder where
  name := "listVmSnapshot"
  setters :=
    paging ++ plain [
      ("id", "vmsnapshotid"), ("name", "name"), ("state", "state"),
      ("virtualMachineId", "virtualmachineid"), ("isRecursive", "isrecursive"),
      ("listAll", "listall"), ("projectId", "projectid")] ++ [accountInDomain, tags]

/-- Options for creating a machine snapshot. -/
def createVmSnapshot : Builder where
  name := "createVmSnapshot"
  setters :=
    plain [
      ("name", "name"), ("description", "description"), ("snapshotMemory", "snapshotmemory"),
      ("quiesceVm", "quiescevm")]

end Builder

end CloudControl.Options
