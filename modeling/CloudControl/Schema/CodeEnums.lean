import CloudControl.Schema.Kind

/-!
# Enumerations of codes

The enumerations that the management server sends as whole numbers.
-/

namespace CloudControl.Schema.CodeEnum

/-- The roles of an account. -/
def accountType : CodeEnum where
  name := "AccountType"
  variants := [
    ("User", 0), ("Admin", 1), ("DomainAdmin", 2), ("ResourceDomainAdmin", 3),
    ("ReadOnlyAdmin", 4), ("Project", 5)]

/-- The states of a job. -/
def asyncJobStatus : CodeEnum where
  name := "AsyncJobStatus"
  variants := [
    ("Pending", 0), ("Succeeded", 1), ("Failed", 2)]

/-- The resources that limits count. -/
def resourceLimitType : CodeEnum where
  name := "ResourceLimitType"
  variants := [
    ("Instance", 0), ("Ip", 1), ("Volume", 2), ("Snapshot", 3), ("Template", 4), ("Project", 5),
    ("Network", 6), ("Vpc", 7), ("Cpu", 8), ("Memory", 9), ("PrimaryStorage", 10),
    ("SecondaryStorage", 11)]

/-- The intervals of a snapshot schedule. -/
def snapshotIntervalType : CodeEnum where
  name := "SnapshotIntervalType"
  variants := [
    ("Hourly", 0), ("Daily", 1), ("Weekly", 2), ("Monthly", 3)]

/-- The kinds of metered usage. -/
def usageType : CodeEnum where
  name := "UsageType"
  variants := [
    ("RunningVm", 1), ("AllocatedVm", 2), ("IpAddress", 3), ("NetworkBytesSent", 4),
    ("NetworkBytesReceived", 5), ("Volume", 6), ("Template", 7), ("Iso", 8), ("Snapshot", 9),
    ("SecurityGroup", 10), ("LoadBalancerPolicy", 11), ("PortForwardingRule", 12),
    ("NetworkOffering", 13), ("VpnUsers", 14), ("VmDiskIoRead", 21), ("VmDiskIoWrite", 22),
    ("VmDiskBytesRead", 23), ("VmDiskBytesWrite", 24), ("VmSnapshot", 25)]

/-- Every enumeration of codes. -/
def all : List CodeEnum := [
  accountType, asyncJobStatus, resourceLimitType, snapshotIntervalType, usageType]

/-- The enumeration with a name. -/
def named? (name : String) : Option CodeEnum :=
  all.find? (·.name == name)

end CloudControl.Schema.CodeEnum
