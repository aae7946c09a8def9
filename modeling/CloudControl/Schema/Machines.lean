import CloudControl.Schema.CodeEnums
import CloudControl.Schema.TextEnums
import CloudControl.Schema.Tags
import CloudControl.Schema.Networks

/-!
# Machines

Virtual machines and what belongs to them.
-/

namespace CloudControl.Schema

namespace Kind

/-- A network interface of a machine. -/
def nic : Kind :=
  .record "Nic" [
    ("id", .text), ("networkid", .optionalText), ("networkname", .optionalText),
    ("virtualmachineid", .optionalText), ("ipaddress", .optionalText),
    ("netmask", .optionalText .fromObjects), ("gateway", .optionalText .fromObjects),
    ("macaddress", .optionalText), ("broadcasturi", .optionalText), ("isolationuri", .optionalText),
    ("traffictype", .choice .trafficType), ("type", .choice .guestIpType),
    ("isdefault", .scalar .flag), ("ip6address", .optionalText), ("ip6gateway", .optionalText),
    ("ip6cidr", .optionalText)]

/-- A virtual machine. -/
def virtualMachine : Kind :=
  .record "VirtualMachine" [
    ("id", .text), ("name", .optionalText .fromObjects), ("displayname", .optionalText),
    ("state", .choice .virtualMachineState .fromObjects), ("account", .optionalText .fromObjects),
    ("domainid", .optionalText), ("domain", .optionalText .fromObjects), ("created", .time),
    ("haenable", .scalar .flag), ("group", .optionalText .fromObjects), ("groupid", .optionalText),
    ("zoneid", .optionalText), ("zonename", .optionalText), ("hostid", .optionalText),
    ("hostname", .optionalText), ("templateid", .optionalText), ("templatename", .optionalText),
    ("templatedisplaytext", .optionalText), ("passwordenabled", .scalar .flag),
    ("password", .optionalText .fromObjects), ("isoid", .optionalText), ("isoname", .optionalText),
    ("serviceofferingid", .optionalText), ("serviceofferingname", .optionalText),
    ("diskofferingid", .optionalText), ("diskofferingname", .optionalText),
    ("forvirtualnetwork", .scalar .flag), ("cpunumber", .scalar (.unsigned 32)),
    ("cpuspeed", .scalar (.unsigned 32)), ("memory", .scalar (.unsigned 64)),
    ("cpuused", .optionalText), ("networkkbsread", .scalar (.unsigned 64)),
    ("networkkbswrite", .scalar (.unsigned 64)), ("guestosid", .optionalText),
    ("rootdeviceid", .scalar (.unsigned 32)), ("rootdevicetype", .optionalText),
    ("hypervisor", .choice .hypervisorType .fromObjects), ("publicipid", .optionalText),
    ("publicip", .optionalText), ("keypair", .optionalText), ("jobid", .optionalText),
    ("jobstatus", .scalar (.signed 32)), ("nic", .list nic), ("securitygroup", .list securityGroup),
    ("tags", .list resourceTag)]

/-- The encrypted password of a machine. -/
def virtualMachinePassword : Kind :=
  .record "VirtualMachinePassword" [
    ("encryptedpassword", .text)]

/-- A snapshot of a machine. -/
def vmSnapshot : Kind :=
  .record "VmSnapshot" [
    ("id", .text), ("name", .optionalText .fromObjects), ("displayname", .optionalText),
    ("description", .optionalText .fromObjects), ("state", .choice .vmSnapshotState .fromObjects),
    ("type", .choice .vmSnapshotType), ("virtualmachineid", .optionalText),
    ("zoneid", .optionalText), ("parent", .optionalText), ("parentName", .optionalText),
    ("current", .scalar .flag), ("account", .optionalText .fromObjects),
    ("domain", .optionalText .fromObjects), ("domainid", .optionalText), ("created", .time)]

/-- A key pair for logins; the private key is shown once. -/
def sshKeyPair : Kind :=
  .record "SshKeyPair" [
    ("name", .text), ("fingerprint", .optionalText .fromObjects), ("privatekey", .optionalText),
    ("account", .optionalText .fromObjects), ("domain", .optionalText .fromObjects),
    ("domainid", .optionalText)]

/-- An offering of machine sizes. -/
def serviceOffering : Kind :=
  .record "ServiceOffering" [
    ("id", .text), ("name", .optionalText .fromObjects), ("displaytext", .optionalText),
    ("created", .time), ("domain", .optionalText .fromObjects), ("domainid", .optionalText),
    ("cpunumber", .scalar (.unsigned 32)), ("cpuspeed", .scalar (.unsigned 32)),
    ("memory", .scalar (.unsigned 64)), ("offerha", .scalar .flag), ("limitcpuuse", .scalar .flag),
    ("issystem", .scalar .flag), ("defaultuse", .scalar .flag),
    ("storagetype", .choice .storageType), ("networkrate", .scalar (.signed 32)),
    ("hosttags", .optionalText), ("tags", .optionalText .fromObjects),
    ("systemvmtype", .optionalText)]

end Kind

end CloudControl.Schema
