import CloudControl.Schema.CodeEnums
import CloudControl.Schema.TextEnums

/-!
# Sites

Zones and the hardware in them.
-/

namespace CloudControl.Schema

namespace Kind

/-- A zone. -/
def zone : Kind :=
  .record "Zone" [
    ("id", .text), ("name", .optionalText .fromObjects),
    ("description", .optionalText .fromObjects), ("displaytext", .optionalText),
    ("networktype", .choice .networkType), ("allocationstate", .choice .allocationState),
    ("dns1", .optionalText .fromObjects), ("dns2", .optionalText .fromObjects),
    ("internaldns1", .optionalText .fromObjects), ("internaldns2", .optionalText .fromObjects),
    ("guestcidraddress", .optionalText), ("domainid", .optionalText),
    ("domain", .optionalText .fromObjects), ("securitygroupsenabled", .scalar .flag),
    ("localstorageenabled", .scalar .flag), ("zonetoken", .optionalText),
    ("dhcpprovider", .optionalText)]

/-- A pod of a zone. -/
def pod : Kind :=
  .record "Pod" [
    ("id", .text), ("name", .optionalText .fromObjects), ("zoneid", .optionalText),
    ("zonename", .optionalText), ("gateway", .optionalText .fromObjects),
    ("netmask", .optionalText .fromObjects), ("startip", .optionalText), ("endip", .optionalText),
    ("allocationstate", .choice .allocationState)]

/-- A cluster of hosts. -/
def cluster : Kind :=
  .record "Cluster" [
    ("id", .text), ("name", .optionalText .fromObjects), ("podid", .optionalText),
    ("podname", .optionalText), ("zoneid", .optionalText), ("zonename", .optionalText),
    ("hypervisortype", .choice .hypervisorType), ("clustertype", .choice .clusterType),
    ("allocationstate", .choice .allocationState), ("managedstate", .optionalText),
    ("cpuovercommitratio", .optionalText), ("memoryovercommitratio", .optionalText)]

/-- A host. -/
def host : Kind :=
  .record "Host" [
    ("id", .text), ("name", .optionalText .fromObjects), ("type", .choice .hostType),
    ("state", .choice .hostState .fromObjects), ("resourcestate", .optionalText),
    ("ipaddress", .optionalText), ("zoneid", .optionalText), ("zonename", .optionalText),
    ("podid", .optionalText), ("podname", .optionalText), ("clusterid", .optionalText),
    ("clustername", .optionalText), ("clustertype", .choice .clusterType),
    ("hypervisor", .choice .hypervisorType .fromObjects), ("hypervisorversion", .optionalText),
    ("version", .optionalText .fromObjects), ("hosttags", .optionalText),
    ("oscategoryid", .optionalText), ("oscategoryname", .optionalText),
    ("cpunumber", .scalar (.unsigned 32)), ("cpuspeed", .scalar (.unsigned 64)),
    ("cpuallocated", .optionalText), ("cpuused", .optionalText),
    ("memorytotal", .scalar (.unsigned 64)), ("memoryallocated", .scalar (.unsigned 64)),
    ("memoryused", .scalar (.unsigned 64)), ("disksizetotal", .scalar (.unsigned 64)),
    ("disksizeallocated", .scalar (.unsigned 64)), ("networkkbsread", .scalar (.unsigned 64)),
    ("networkkbswrite", .scalar (.unsigned 64)), ("islocalstorageactive", .scalar .flag),
    ("created", .time), ("disconnected", .time), ("lastpinged", .time), ("removed", .time),
    ("events", .list .text)]

/-- A pool of primary storage. -/
def storagePool : Kind :=
  .record "StoragePool" [
    ("id", .text), ("name", .optionalText .fromObjects), ("path", .optionalText .fromObjects),
    ("ipaddress", .optionalText), ("type", .optionalText), ("scope", .optionalText .fromObjects),
    ("state", .choice .storagePoolState .fromObjects), ("zoneid", .optionalText),
    ("zonename", .optionalText), ("podid", .optionalText), ("podname", .optionalText),
    ("clusterid", .optionalText), ("clustername", .optionalText),
    ("tags", .optionalText .fromObjects), ("disksizetotal", .scalar (.unsigned 64)),
    ("disksizeallocated", .scalar (.unsigned 64)), ("disksizeused", .scalar (.unsigned 64)),
    ("created", .time)]

end Kind

end CloudControl.Schema
