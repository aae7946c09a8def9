import CloudControl.Schema.CodeEnums
import CloudControl.Schema.TextEnums
import CloudControl.Schema.Tags

/-!
# Storage

Volumes, their snapshots, and the templates of machines.
-/

namespace CloudControl.Schema

namespace Kind

/-- A volume. -/
def volume : Kind :=
  .record "Volume" [
    ("id", .text), ("name", .optionalText .fromObjects), ("type", .choice .volumeType),
    ("state", .choice .volumeState .fromObjects), ("account", .optionalText .fromObjects),
    ("domainid", .optionalText), ("domain", .optionalText .fromObjects), ("zoneid", .optionalText),
    ("zonename", .optionalText), ("size", .scalar (.unsigned 64)),
    ("deviceid", .scalar (.unsigned 32)), ("virtualmachineid", .optionalText),
    ("vmname", .optionalText), ("vmdisplayname", .optionalText),
    ("vmstate", .choice .virtualMachineState), ("diskofferingid", .optionalText),
    ("diskofferingname", .optionalText), ("serviceofferingid", .optionalText),
    ("serviceofferingname", .optionalText), ("snapshotid", .optionalText),
    ("storagetype", .choice .storageType), ("storage", .optionalText .fromObjects),
    ("hypervisor", .choice .hypervisorType .fromObjects), ("isextractable", .scalar .flag),
    ("destroyed", .scalar .flag), ("created", .time), ("attached", .time), ("jobid", .optionalText),
    ("tags", .list resourceTag)]

/-- A snapshot of a volume. -/
def snapshot : Kind :=
  .record "Snapshot" [
    ("id", .text), ("name", .optionalText .fromObjects), ("account", .optionalText .fromObjects),
    ("domainid", .optionalText), ("domain", .optionalText .fromObjects),
    ("snapshottype", .choice .snapshotType), ("intervaltype", .optionalText),
    ("state", .choice .snapshotState .fromObjects), ("volumeid", .optionalText),
    ("volumename", .optionalText), ("volumetype", .choice .volumeType), ("zoneid", .optionalText),
    ("physicalsize", .scalar (.unsigned 64)), ("created", .time), ("jobid", .optionalText),
    ("tags", .list resourceTag)]

/-- A schedule of snapshots. -/
def snapshotPolicy : Kind :=
  .record "SnapshotPolicy" [
    ("id", .text), ("volumeid", .optionalText),
    ("intervaltype", .optionalCode .snapshotIntervalType), ("schedule", .optionalText .fromObjects),
    ("timezone", .optionalText .fromObjects), ("maxsnaps", .scalar (.unsigned 32))]

/-- An offering of data disks. -/
def diskOffering : Kind :=
  .record "DiskOffering" [
    ("id", .text), ("name", .optionalText .fromObjects), ("displaytext", .optionalText),
    ("created", .time), ("domain", .optionalText .fromObjects), ("domainid", .optionalText),
    ("disksize", .scalar (.unsigned 64)), ("iscustomized", .scalar .flag),
    ("storagetype", .choice .storageType), ("tags", .optionalText .fromObjects),
    ("miniops", .scalar (.unsigned 64)), ("maxiops", .scalar (.unsigned 64))]

/-- A template of machines. -/
def template : Kind :=
  .record "Template" [
    ("id", .text), ("name", .optionalText .fromObjects), ("displaytext", .optionalText),
    ("account", .optionalText .fromObjects), ("accountid", .optionalText),
    ("domain", .optionalText .fromObjects), ("domainid", .optionalText), ("zoneid", .optionalText),
    ("zonename", .optionalText), ("ostypeid", .optionalText), ("ostypename", .optionalText),
    ("format", .choice .templateFormat .fromObjects), ("templatetype", .choice .templateType),
    ("hypervisor", .choice .hypervisorType .fromObjects), ("status", .optionalText .fromObjects),
    ("isready", .scalar .flag), ("ispublic", .scalar .flag), ("isfeatured", .scalar .flag),
    ("isextractable", .scalar .flag), ("crossZones", .scalar .flag),
    ("passwordenabled", .scalar .flag), ("bootable", .scalar .flag),
    ("size", .scalar (.unsigned 64)), ("checksum", .optionalText .fromObjects),
    ("sourcetemplateid", .optionalText), ("created", .time), ("removed", .time),
    ("jobid", .optionalText), ("tags", .list resourceTag)]

/-- A guest operating system. -/
def osType : Kind :=
  .record "OsType" [
    ("id", .text), ("description", .optionalText .fromObjects), ("oscategoryid", .optionalText),
    ("isuserdefined", .scalar .flag)]

/-- A family of guest operating systems. -/
def osCategory : Kind :=
  .record "OsCategory" [
    ("id", .text), ("name", .optionalText .fromObjects)]

end Kind

end CloudControl.Schema
