import CloudControl.Operations.Accounts
import CloudControl.Operations.Administration
import CloudControl.Operations.Machines
import CloudControl.Operations.Networks
import CloudControl.Operations.Sites
import CloudControl.Operations.Storage

/-!
# Every operation

`Operation.all` lists the operations, and `Operation.named?` looks one up by its name.
-/

namespace CloudControl.Operation

/-- Every operation. -/
def all : List Operation := [
  listAccounts, getAccount, createAccount, updateAccount, deleteAccount, enableAccount,
  disableAccount, lockAccount, listUsers, getUser, createUser, updateUser, deleteUser,
  enableUser, disableUser, registerUserKeys, listDomains, getDomain, listDomainChildren,
  listPublicIpAddresses, getPublicIpAddress, associateIpAddress, disassociateIpAddress,
  enableStaticNat, disableStaticNat, listVlanIpRanges, getVlanIpRange, createVlanIpRange,
  deleteVlanIpRange, listNetworks, getNetwork, createNetwork, deleteNetwork, restartNetwork,
  listServiceOfferings, getServiceOffering, deleteServiceOffering, listDiskOfferings,
  getDiskOffering, deleteDiskOffering, listNetworkOfferings, getNetworkOffering,
  listSecurityGroups, getSecurityGroup, createSecurityGroup, deleteSecurityGroup,
  authorizeSecurityGroupIngress, revokeSecurityGroupIngress, listFirewallRules, getFirewallRule,
  createFirewallRule, deleteFirewallRule, listPortForwardingRules, getPortForwardingRule,
  createPortForwardingRule, deletePortForwardingRule, listLoadBalancerRules, getLoadBalancerRule,
  createLoadBalancerRule, deleteLoadBalancerRule, assignVirtualMachinesToLoadBalancerRule,
  removeVirtualMachinesFromLoadBalancerRule, listVirtualMachinesAssignedToLoadBalancerRule,
  listVirtualMachines, getVirtualMachine, deployVirtualMachine, startVirtualMachine,
  stopVirtualMachine, rebootVirtualMachine, resetPasswordForVirtualMachine,
  changeServiceForVirtualMachine, updateVirtualMachine, destroyVirtualMachine,
  restoreVirtualMachine, getEncryptedPasswordForVirtualMachine, listNics, listVmSnapshots,
  createVmSnapshot, revertToVmSnapshot, deleteVmSnapshot, listSshKeyPairs, getSshKeyPair,
  createSshKeyPair, registerSshKeyPair, deleteSshKeyPair, listZones, getZone, createZone,
  updateZone, deleteZone, listPods, getPod, createPod, updatePod, deletePod, listHosts, getHost,
  addHost, updateHost, prepareHostForMaintenance, cancelHostMaintenance, reconnectHost,
  deleteHost, listClusters, addCluster, updateCluster, deleteCluster, listStoragePools,
  listVolumes, getVolume, createVolume, attachVolume, detachVolume, resizeVolume, deleteVolume,
  listSnapshots, getSnapshot, createSnapshot, deleteSnapshot, createSnapshotPolicy,
  listSnapshotPolicies, deleteSnapshotPolicies, listTemplates, getTemplate, createTemplate,
  registerTemplate, updateTemplate, copyTemplateToZone, deleteTemplate, listOsTypes, getOsType,
  listOsCategories, listAsyncJobs, getAsyncJob, listCapabilities, listConfigurationEntries,
  updateConfigurationEntry, listEventTypes, listEvents, listResourceLimits, updateResourceLimit,
  logout, listTags, createTags, deleteTags, listUsageRecords, generateUsageRecords,
  listUsageTypes]

/-- The operation with a name. -/
def named? (name : String) : Option Operation :=
  all.find? (·.name == name)

end CloudControl.Operation
