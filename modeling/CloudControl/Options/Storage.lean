import CloudControl.Options.Builder

/-!
# Options on storage

The setters of the commands on volumes, snapshots and templates.
-/

namespace CloudControl.Options

namespace Builder

open Setter

/-- Options for listing volumes. -/
def listVolumes : Builder where
  name := "listVolumes"
  setters :=
    paging ++ plain [
      ("id", "id"), ("name", "name"), ("volumeType", "type"), ("zoneId", "zoneid"),
      ("podId", "podid"), ("hostId", "hostid"), ("storageId", "storageid"),
      ("virtualMachineId", "virtualmachineid"), ("diskOfferingId", "diskofferingid"),
      ("isRecursive", "isrecursive"), ("listAll", "listall"), ("projectId", "projectid")] ++
    [accountInDomain, tags, joined "ids" "ids"]

/-- Options for creating a volume. -/
def createVolume : Builder where
  name := "createVolume"
  setters :=
    plain [
      ("diskOfferingId", "diskofferingid"), ("snapshotId", "snapshotid"), ("size", "size"),
      ("virtualMachineId", "virtualmachineid"), ("zoneId", "zoneid"), ("minIops", "miniops"),
      ("maxIops", "maxiops"), ("displayVolume", "displayvolume"), ("projectId", "projectid")] ++
    [accountInDomain]

/-- Options for listing snapshots. -/
def listSnapshots : Builder where
  name := "listSnapshots"
  setters :=
    paging ++ plain [
      ("id", "id"), ("name", "name"), ("snapshotType", "snapshottype"),
      ("intervalType", "intervaltype"), ("volumeId", "volumeid"), ("zoneId", "zoneid"),
      ("isRecursive", "isrecursive"), ("listAll", "listall"), ("projectId", "projectid")] ++
    [accountInDomain, tags, joined "ids" "ids"]

/-- Options for creating a snapshot. -/
def createSnapshot : Builder where
  name := "createSnapshot"
  setters :=
    plain [
      ("name", "name"), ("policyId", "policyid"), ("quiesceVm", "quiescevm"),
      ("asyncBackup", "asyncbackup")] ++ [accountInDomain]

/-- Options for listing templates. -/
def listTemplates : Builder where
  name := "listTemplates"
  setters :=
    paging ++ plain [
      ("id", "id"), ("name", "name"), ("filter", "templatefilter"),
      ("hypervisor", "hypervisor"), ("zoneId", "zoneid"), ("showRemoved", "showremoved"),
      ("projectId", "projectid")] ++ [accountInDomain, tags]

/-- Options for creating a template. -/
def createTemplate : Builder where
  name := "createTemplate"
  setters :=
    plain [
      ("volumeId", "volumeid"), ("snapshotId", "snapshotid"),
      ("virtualMachineId", "virtualmachineid"), ("bits", "bits"), ("isFeatured", "isfeatured"),
      ("isPublic", "ispublic"), ("isDynamicallyScalable", "isdynamicallyscalable"),
      ("passwordEnabled", "passwordenabled"), ("requiresHvm", "requireshvm"),
      ("templateTag", "templatetag"), ("url", "url")]

/-- Options for registering a template. -/
def registerTemplate : Builder where
  name := "registerTemplate"
  setters :=
    plain [
      ("bits", "bits"), ("checksum", "checksum"), ("isExtractable", "isextractable"),
      ("isFeatured", "isfeatured"), ("isPublic", "ispublic"),
      ("isDynamicallyScalable", "isdynamicallyscalable"),
      ("passwordEnabled", "passwordenabled"), ("requiresHvm", "requireshvm"),
      ("sshKeyEnabled", "sshkeyenabled"), ("templateTag", "templatetag"),
      ("projectId", "projectid")] ++ [accountInDomain]

/-- Options for changing a template. -/
def updateTemplate : Builder where
  name := "updateTemplate"
  setters :=
    plain [
      ("name", "name"), ("displayText", "displaytext"), ("format", "format"),
      ("osTypeId", "ostypeid"), ("bootable", "bootable"),
      ("passwordEnabled", "passwordenabled"),
      ("isDynamicallyScalable", "isdynamicallyscalable"), ("sortKey", "sortkey")]

/-- Options for listing system types. -/
def listOsTypes : Builder where
  name := "listOsTypes"
  setters :=
    paging ++ plain [
      ("id", "id"), ("osCategoryId", "oscategoryid"), ("description", "description")]

end Builder

end CloudControl.Options
