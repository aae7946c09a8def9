import CloudControl.Schema.Tags
import CloudControl.Schema.Jobs
import CloudControl.Schema.Accounts
import CloudControl.Schema.Networks
import CloudControl.Schema.Machines
import CloudControl.Schema.Storage
import CloudControl.Schema.Sites
import CloudControl.Schema.Administration

/-!
# Every kind of record

`Kind.records` lists the records that the management server answers with, and `Kind.named?`
looks one up by its name.
-/

namespace CloudControl.Schema.Kind

/-- Every kind of record. -/
def records : List Kind := [
  resourceTag, tag, successResponse, asyncCreateResponse, asyncJobError, asyncJob, user, account,
  apiKeyPair, domain, loginResponse, publicIpAddress, vlanIpRange, networkServiceProvider,
  networkServiceCapability, networkService, network, networkOffering, firewallRule,
  portForwardingRule, loadBalancerRule, ingressRule, securityGroup, nic, virtualMachine,
  virtualMachinePassword, vmSnapshot, sshKeyPair, serviceOffering, volume, snapshot,
  snapshotPolicy, diskOffering, template, osType, osCategory, zone, pod, cluster, host,
  storagePool, configurationEntry, capabilities, resourceLimit, event, eventType, usageRecord,
  usageTypeDescriptor]

/-- The name of a record; other kinds have none. -/
def name? : Kind → Option String
  | record name _ => some name
  | _ => none

/-- The kind of record with a name. -/
def named? (name : String) : Option Kind :=
  records.find? (·.name? == some name)

end CloudControl.Schema.Kind
