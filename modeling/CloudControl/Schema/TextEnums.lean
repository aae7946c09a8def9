import CloudControl.Schema.Kind

/-!
# Enumerations of texts

The enumerations that the management server spells out, each variant with its spelling on the
wire. Spellings follow the variant names, or are in small letters or capitals throughout.
-/

namespace CloudControl.Schema.TextEnum

/-- The states of an account. -/
def accountState : TextEnum where
  name := "AccountState"
  variants := [
    ⟨"Enabled", "enabled", []⟩, ⟨"Disabled", "disabled", []⟩, ⟨"Locked", "locked", []⟩]
  fallback := ⟨"Unrecognized", "unrecognized", []⟩

/-- The states of a user. -/
def userState : TextEnum where
  name := "UserState"
  variants := [
    ⟨"Enabled", "enabled", []⟩, ⟨"Disabled", "disabled", []⟩, ⟨"Locked", "locked", []⟩]
  fallback := ⟨"Unrecognized", "unrecognized", []⟩

/-- The states of a public address. -/
def publicIpAddressState : TextEnum where
  name := "PublicIpAddressState"
  variants := [
    ⟨"Allocating", "Allocating", []⟩, ⟨"Allocated", "Allocated", []⟩,
    ⟨"Releasing", "Releasing", []⟩, ⟨"Reserved", "Reserved", []⟩, ⟨"Free", "Free", []⟩]
  fallback := ⟨"Unrecognized", "Unrecognized", []⟩

/-- The severities of an event. -/
def eventLevel : TextEnum where
  name := "EventLevel"
  variants := [
    ⟨"Info", "INFO", []⟩, ⟨"Warn", "WARN", []⟩, ⟨"Error", "ERROR", []⟩]
  fallback := ⟨"Unrecognized", "UNRECOGNIZED", []⟩

/-- The stages of the action that an event reports. -/
def eventState : TextEnum where
  name := "EventState"
  variants := [
    ⟨"Created", "Created", []⟩, ⟨"Scheduled", "Scheduled", []⟩, ⟨"Started", "Started", []⟩,
    ⟨"Completed", "Completed", []⟩]
  fallback := ⟨"Unrecognized", "Unrecognized", []⟩

/-- The protocols that a rule matches; capitals are understood. -/
def firewallProtocol : TextEnum where
  name := "FirewallProtocol"
  variants := [
    ⟨"Tcp", "tcp", ["TCP"]⟩, ⟨"Udp", "udp", ["UDP"]⟩, ⟨"Icmp", "icmp", ["ICMP"]⟩,
    ⟨"All", "all", ["ALL"]⟩]
  fallback := ⟨"Unrecognized", "unrecognized", []⟩

/-- The states of a firewall rule. -/
def firewallRuleState : TextEnum where
  name := "FirewallRuleState"
  variants := [
    ⟨"Staged", "Staged", []⟩, ⟨"Add", "Add", []⟩, ⟨"Active", "Active", []⟩,
    ⟨"Revoke", "Revoke", []⟩, ⟨"Deploying", "Deploying", []⟩]
  fallback := ⟨"Unrecognized", "Unrecognized", []⟩

/-- The ways to balance load. -/
def loadBalancerAlgorithm : TextEnum where
  name := "LoadBalancerAlgorithm"
  variants := [
    ⟨"Source", "source", []⟩, ⟨"RoundRobin", "roundrobin", []⟩, ⟨"LeastConn", "leastconn", []⟩]
  fallback := ⟨"Unrecognized", "unrecognized", []⟩

/-- The states of a load balancer rule. -/
def loadBalancerState : TextEnum where
  name := "LoadBalancerState"
  variants := [
    ⟨"Add", "Add", []⟩, ⟨"Active", "Active", []⟩, ⟨"Revoke", "Revoke", []⟩]
  fallback := ⟨"Unrecognized", "Unrecognized", []⟩

/-- Whether new resources may be allocated. -/
def allocationState : TextEnum where
  name := "AllocationState"
  variants := [
    ⟨"Enabled", "Enabled", []⟩, ⟨"Disabled", "Disabled", []⟩]
  fallback := ⟨"Unrecognized", "Unrecognized", []⟩

/-- The network models of a zone. -/
def networkType : TextEnum where
  name := "NetworkType"
  variants := [
    ⟨"Basic", "Basic", []⟩, ⟨"Advanced", "Advanced", []⟩]
  fallback := ⟨"Unrecognized", "Unrecognized", []⟩

/-- The hypervisors. -/
def hypervisorType : TextEnum where
  name := "HypervisorType"
  variants := [
    ⟨"XenServer", "XenServer", []⟩, ⟨"Kvm", "KVM", []⟩, ⟨"VMware", "VMware", []⟩,
    ⟨"Hyperv", "Hyperv", []⟩, ⟨"BareMetal", "BareMetal", []⟩, ⟨"Simulator", "Simulator", []⟩,
    ⟨"Ovm", "Ovm", []⟩, ⟨"Ovm3", "Ovm3", []⟩, ⟨"Lxc", "LXC", []⟩, ⟨"None", "None", []⟩]
  fallback := ⟨"Unrecognized", "Unrecognized", []⟩

/-- The roles of a host. -/
def hostType : TextEnum where
  name := "HostType"
  variants := [
    ⟨"Storage", "Storage", []⟩, ⟨"Routing", "Routing", []⟩,
    ⟨"SecondaryStorage", "SecondaryStorage", []⟩,
    ⟨"SecondaryStorageCmdExecutor", "SecondaryStorageCmdExecutor", []⟩,
    ⟨"ConsoleProxy", "ConsoleProxy", []⟩, ⟨"ExternalFirewall", "ExternalFirewall", []⟩,
    ⟨"ExternalLoadBalancer", "ExternalLoadBalancer", []⟩,
    ⟨"ExternalVirtualSwitchSupervisor", "ExternalVirtualSwitchSupervisor", []⟩,
    ⟨"PxeServer", "PxeServer", []⟩, ⟨"TrafficMonitor", "TrafficMonitor", []⟩,
    ⟨"ExternalDhcp", "ExternalDhcp", []⟩, ⟨"SecondaryStorageVM", "SecondaryStorageVM", []⟩,
    ⟨"LocalSecondaryStorage", "LocalSecondaryStorage", []⟩, ⟨"L2Networking", "L2Networking", []⟩]
  fallback := ⟨"Unrecognized", "Unrecognized", []⟩

/-- The states of the connection to a host. -/
def hostState : TextEnum where
  name := "HostState"
  variants := [
    ⟨"Creating", "Creating", []⟩, ⟨"Connecting", "Connecting", []⟩, ⟨"Up", "Up", []⟩,
    ⟨"Down", "Down", []⟩, ⟨"Disconnected", "Disconnected", []⟩, ⟨"Alert", "Alert", []⟩,
    ⟨"Removed", "Removed", []⟩, ⟨"Error", "Error", []⟩, ⟨"Rebalancing", "Rebalancing", []⟩]
  fallback := ⟨"Unrecognized", "Unrecognized", []⟩

/-- Who manages a cluster. -/
def clusterType : TextEnum where
  name := "ClusterType"
  variants := [
    ⟨"CloudManaged", "CloudManaged", []⟩, ⟨"ExternalManaged", "ExternalManaged", []⟩]
  fallback := ⟨"Unrecognized", "Unrecognized", []⟩

/-- The states of a storage pool. -/
def storagePoolState : TextEnum where
  name := "StoragePoolState"
  variants := [
    ⟨"Initial", "Initial", []⟩, ⟨"Initialized", "Initialized", []⟩, ⟨"Creating", "Creating", []⟩,
    ⟨"Attaching", "Attaching", []⟩, ⟨"Up", "Up", []⟩,
    ⟨"PrepareForMaintenance", "PrepareForMaintenance", []⟩,
    ⟨"ErrorInMaintenance", "ErrorInMaintenance", []⟩,
    ⟨"CancelMaintenance", "CancelMaintenance", []⟩, ⟨"Maintenance", "Maintenance", []⟩,
    ⟨"Disabled", "Disabled", []⟩, ⟨"Removed", "Removed", []⟩]
  fallback := ⟨"Unrecognized", "Unrecognized", []⟩

/-- The kinds of traffic on a network. -/
def trafficType : TextEnum where
  name := "TrafficType"
  variants := [
    ⟨"Guest", "Guest", []⟩, ⟨"Public", "Public", []⟩, ⟨"Management", "Management", []⟩,
    ⟨"Control", "Control", []⟩, ⟨"Storage", "Storage", []⟩, ⟨"Vlan", "Vlan", []⟩]
  fallback := ⟨"Unrecognized", "Unrecognized", []⟩

/-- The ways in which guests get their addresses. -/
def guestIpType : TextEnum where
  name := "GuestIpType"
  variants := [
    ⟨"Isolated", "Isolated", []⟩, ⟨"Shared", "Shared", []⟩, ⟨"Direct", "Direct", []⟩,
    ⟨"Virtual", "Virtual", []⟩, ⟨"L2", "L2", []⟩]
  fallback := ⟨"Unrecognized", "Unrecognized", []⟩

/-- The states of a network. -/
def networkState : TextEnum where
  name := "NetworkState"
  variants := [
    ⟨"Allocated", "Allocated", []⟩, ⟨"Configured", "Configured", []⟩,
    ⟨"Implementing", "Implementing", []⟩, ⟨"Implemented", "Implemented", []⟩,
    ⟨"Setup", "Setup", []⟩, ⟨"Shutdown", "Shutdown", []⟩, ⟨"Destroy", "Destroy", []⟩]
  fallback := ⟨"Unrecognized", "Unrecognized", []⟩

/-- Where disks are placed. -/
def storageType : TextEnum where
  name := "StorageType"
  variants := [
    ⟨"Local", "local", []⟩, ⟨"Shared", "shared", []⟩]
  fallback := ⟨"Unrecognized", "unrecognized", []⟩

/-- The occasions of a volume snapshot. -/
def snapshotType : TextEnum where
  name := "SnapshotType"
  variants := [
    ⟨"Manual", "MANUAL", []⟩, ⟨"Recurring", "RECURRING", []⟩, ⟨"Template", "TEMPLATE", []⟩,
    ⟨"Hourly", "HOURLY", []⟩, ⟨"Daily", "DAILY", []⟩, ⟨"Weekly", "WEEKLY", []⟩,
    ⟨"Monthly", "MONTHLY", []⟩]
  fallback := ⟨"Unrecognized", "UNRECOGNIZED", []⟩

/-- The states of a volume snapshot. -/
def snapshotState : TextEnum where
  name := "SnapshotState"
  variants := [
    ⟨"Allocated", "Allocated", []⟩, ⟨"Creating", "Creating", []⟩,
    ⟨"CreatedOnPrimary", "CreatedOnPrimary", []⟩, ⟨"BackingUp", "BackingUp", []⟩,
    ⟨"BackedUp", "BackedUp", []⟩, ⟨"Destroying", "Destroying", []⟩,
    ⟨"Destroyed", "Destroyed", []⟩, ⟨"Error", "Error", []⟩]
  fallback := ⟨"Unrecognized", "Unrecognized", []⟩

/-- The states of a machine snapshot. -/
def vmSnapshotState : TextEnum where
  name := "VmSnapshotState"
  variants := [
    ⟨"Allocated", "Allocated", []⟩, ⟨"Creating", "Creating", []⟩, ⟨"Ready", "Ready", []⟩,
    ⟨"Reverting", "Reverting", []⟩, ⟨"Expunging", "Expunging", []⟩, ⟨"Removed", "Removed", []⟩,
    ⟨"Error", "Error", []⟩]
  fallback := ⟨"Unrecognized", "Unrecognized", []⟩

/-- What a machine snapshot holds. -/
def vmSnapshotType : TextEnum where
  name := "VmSnapshotType"
  variants := [
    ⟨"Disk", "Disk", []⟩, ⟨"DiskAndMemory", "DiskAndMemory", []⟩]
  fallback := ⟨"Unrecognized", "Unrecognized", []⟩

/-- The kinds of tagged resources. -/
def resourceTagType : TextEnum where
  name := "ResourceTagType"
  variants := [
    ⟨"UserVm", "UserVm", []⟩, ⟨"Template", "Template", []⟩, ⟨"Iso", "ISO", []⟩,
    ⟨"Volume", "Volume", []⟩, ⟨"Snapshot", "Snapshot", []⟩, ⟨"Network", "Network", []⟩,
    ⟨"LoadBalancer", "LoadBalancer", []⟩, ⟨"PortForwardingRule", "PortForwardingRule", []⟩,
    ⟨"FirewallRule", "FirewallRule", []⟩, ⟨"SecurityGroup", "SecurityGroup", []⟩,
    ⟨"PublicIpAddress", "PublicIpAddress", []⟩, ⟨"Project", "Project", []⟩, ⟨"Vpc", "Vpc", []⟩,
    ⟨"NetworkACL", "NetworkACL", []⟩, ⟨"StaticRoute", "StaticRoute", []⟩,
    ⟨"VmSnapshot", "VMSnapshot", []⟩]
  fallback := ⟨"Unrecognized", "Unrecognized", []⟩

/-- The sets of templates that can be listed. -/
def templateFilter : TextEnum where
  name := "TemplateFilter"
  variants := [
    ⟨"Featured", "featured", []⟩, ⟨"SelfOwned", "self", []⟩,
    ⟨"SelfExecutable", "selfexecutable", []⟩, ⟨"SharedExecutable", "sharedexecutable", []⟩,
    ⟨"Executable", "executable", []⟩, ⟨"Community", "community", []⟩, ⟨"All", "all", []⟩]
  fallback := ⟨"Unrecognized", "unrecognized", []⟩

/-- The formats of disk images. -/
def templateFormat : TextEnum where
  name := "TemplateFormat"
  variants := [
    ⟨"Qcow2", "QCOW2", []⟩, ⟨"Raw", "RAW", []⟩, ⟨"Vhd", "VHD", []⟩, ⟨"Vhdx", "VHDX", []⟩,
    ⟨"Ova", "OVA", []⟩, ⟨"Iso", "ISO", []⟩, ⟨"Vmdk", "VMDK", []⟩, ⟨"Tar", "TAR", []⟩,
    ⟨"Baremetal", "BAREMETAL", []⟩]
  fallback := ⟨"Unrecognized", "UNRECOGNIZED", []⟩

/-- The origins of a template. -/
def templateType : TextEnum where
  name := "TemplateType"
  variants := [
    ⟨"User", "USER", []⟩, ⟨"Builtin", "BUILTIN", []⟩, ⟨"System", "SYSTEM", []⟩,
    ⟨"Perhost", "PERHOST", []⟩, ⟨"Routing", "ROUTING", []⟩]
  fallback := ⟨"Unrecognized", "UNRECOGNIZED", []⟩

/-- The states of a virtual machine. -/
def virtualMachineState : TextEnum where
  name := "VirtualMachineState"
  variants := [
    ⟨"Starting", "Starting", []⟩, ⟨"Running", "Running", []⟩, ⟨"Stopping", "Stopping", []⟩,
    ⟨"Stopped", "Stopped", []⟩, ⟨"Destroyed", "Destroyed", []⟩, ⟨"Expunging", "Expunging", []⟩,
    ⟨"Migrating", "Migrating", []⟩, ⟨"Error", "Error", []⟩, ⟨"Unknown", "Unknown", []⟩,
    ⟨"Shutdowned", "Shutdowned", []⟩]
  fallback := ⟨"Unrecognized", "Unrecognized", []⟩

/-- The uses of a volume. -/
def volumeType : TextEnum where
  name := "VolumeType"
  variants := [
    ⟨"Root", "ROOT", []⟩, ⟨"Swap", "SWAP", []⟩, ⟨"Datadisk", "DATADISK", []⟩, ⟨"Iso", "ISO", []⟩]
  fallback := ⟨"Unrecognized", "UNRECOGNIZED", []⟩

/-- The states of a volume. -/
def volumeState : TextEnum where
  name := "VolumeState"
  variants := [
    ⟨"Allocated", "Allocated", []⟩, ⟨"Creating", "Creating", []⟩, ⟨"Ready", "Ready", []⟩,
    ⟨"Resizing", "Resizing", []⟩, ⟨"Migrating", "Migrating", []⟩,
    ⟨"Snapshotting", "Snapshotting", []⟩, ⟨"UploadOp", "UploadOp", []⟩,
    ⟨"Uploaded", "Uploaded", []⟩, ⟨"Expunging", "Expunging", []⟩, ⟨"Expunged", "Expunged", []⟩,
    ⟨"Destroy", "Destroy", []⟩]
  fallback := ⟨"Unrecognized", "Unrecognized", []⟩

/-- Every enumeration of texts. -/
def all : List TextEnum := [
  accountState, userState, publicIpAddressState, eventLevel, eventState, firewallProtocol,
  firewallRuleState, loadBalancerAlgorithm, loadBalancerState, allocationState, networkType,
  hypervisorType, hostType, hostState, clusterType, storagePoolState, trafficType, guestIpType,
  networkState, storageType, snapshotType, snapshotState, vmSnapshotState, vmSnapshotType,
  resourceTagType, templateFilter, templateFormat, templateType, virtualMachineState, volumeType,
  volumeState]

/-- The enumeration with a name. -/
def named? (name : String) : Option TextEnum :=
  all.find? (·.name == name)

/-- The states of a virtual machine that it does not leave by itself. -/
def isSettled (machineState : String) : Bool :=
  ["Running", "Stopped", "Destroyed", "Error"].contains machineState

end CloudControl.Schema.TextEnum
