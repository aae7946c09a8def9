import CloudControl.Options.Accounts
import CloudControl.Options.Administration
import CloudControl.Options.Machines
import CloudControl.Options.Networks
import CloudControl.Options.Sites
import CloudControl.Options.Storage

/-!
# Every set of options

`Builder.all` lists the sets of options, and `Builder.named?` looks one up by its name.
-/

namespace CloudControl.Options.Builder

/-- Every set of options. -/
def all : List Builder := [
  listAccounts, createAccount, updateAccount, listUsers, createUser, updateUser, listDomains,
  listPublicIpAddresses, associateIpAddress, listVlanIpRanges, createVlanIpRange,
  listFirewallRules, createFirewallRule, listPortForwardingRules, createPortForwardingRule,
  listLoadBalancerRules, createLoadBalancerRule, listNetworks, createNetwork,
  listNetworkOfferings, listSecurityGroups, authorizeIngress, listVirtualMachines,
  deployVirtualMachine, stopVirtualMachine, updateVirtualMachine, listServiceOfferings,
  listDiskOfferings, listSshKeyPairs, listVmSnapshot, createVmSnapshot, listVolumes,
  createVolume, listSnapshots, createSnapshot, listTemplates, createTemplate, registerTemplate,
  updateTemplate, listOsTypes, listZones, createZone, updateZone, listPods, createPod,
  updatePod, listClusters, addCluster, updateCluster, listHosts, addHost, updateHost,
  listStoragePools, listAsyncJobs, listConfigurationEntries, listResourceLimits, listEvents,
  listTags, createTags, deleteTags, listUsageRecords]

/-- The set of options with a name. -/
def named? (name : String) : Option Builder :=
  all.find? (·.name == name)

end CloudControl.Options.Builder
