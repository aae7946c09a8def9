import CloudControl.Catalog.Storage
import CloudControl.Options.Storage
import CloudControl.Schema.Storage
import CloudControl.Operations.Basic

/-!
# Operations on storage

What can be done with volumes, snapshots, templates and guest systems.
-/

namespace CloudControl.Operation

open Slot

def listVolumes : Operation where
  name := "listVolumes"
  command := .listVolumes
  options := some .listVolumes
  result := .items .volume

def getVolume : Operation where
  name := "getVolume"
  command := .getVolume
  slots := [text "id" "id"]
  result := .first .volume

def createVolume : Operation where
  name := "createVolume"
  command := .createVolume
  slots := [text "name" "name"]
  options := some .createVolume
  result := .job

def attachVolume : Operation where
  name := "attachVolume"
  command := .attachVolume
  slots := [text "id" "id", text "virtualMachineId" "virtualmachineid"]
  result := .job

def detachVolume : Operation where
  name := "detachVolume"
  command := .detachVolume
  slots := [text "id" "id"]
  result := .job

def resizeVolume : Operation where
  name := "resizeVolume"
  command := .resizeVolume
  slots := [text "id" "id", number "sizeGb" "size"]
  result := .job

def deleteVolume : Operation where
  name := "deleteVolume"
  command := .deleteVolume
  slots := [text "id" "id"]
  result := .done

def listSnapshots : Operation where
  name := "listSnapshots"
  command := .listSnapshots
  options := some .listSnapshots
  result := .items .snapshot

def getSnapshot : Operation where
  name := "getSnapshot"
  command := .getSnapshot
  slots := [text "id" "id"]
  result := .first .snapshot

def createSnapshot : Operation where
  name := "createSnapshot"
  command := .createSnapshot
  slots := [text "volumeId" "volumeid"]
  options := some .createSnapshot
  result := .job

def deleteSnapshot : Operation where
  name := "deleteSnapshot"
  command := .deleteSnapshot
  slots := [text "id" "id"]
  result := .job

def createSnapshotPolicy : Operation where
  name := "createSnapshotPolicy"
  command := .createSnapshotPolicy
  slots := [
    text "volumeId" "volumeid", codeName "intervalType" .snapshotIntervalType "intervaltype",
    number "maxSnaps" "maxsnaps", text "schedule" "schedule", text "timezone" "timezone"]
  result := .object .snapshotPolicy

def listSnapshotPolicies : Operation where
  name := "listSnapshotPolicies"
  command := .listSnapshotPolicies
  slots := [text "volumeId" "volumeid"]
  result := .items .snapshotPolicy

def deleteSnapshotPolicies : Operation where
  name := "deleteSnapshotPolicies"
  command := .deleteSnapshotPolicies
  slots := [joined "ids" "ids"]
  result := .done

def listTemplates : Operation where
  name := "listTemplates"
  command := .listTemplates
  options := some .listTemplates
  result := .items .template

def getTemplate : Operation where
  name := "getTemplate"
  command := .getTemplate
  slots := [text "id" "id", optional "zoneId" "zoneid"]
  result := .first .template

def createTemplate : Operation where
  name := "createTemplate"
  command := .createTemplate
  slots := [text "name" "name", text "displayText" "displaytext", text "osTypeId" "ostypeid"]
  options := some .createTemplate
  result := .job

def registerTemplate : Operation where
  name := "registerTemplate"
  command := .registerTemplate
  slots := [
    text "name" "name", text "displayText" "displaytext",
    choice "format" .templateFormat "format", choice "hypervisor" .hypervisorType "hypervisor",
    text "osTypeId" "ostypeid", text "url" "url", text "zoneId" "zoneid"]
  options := some .registerTemplate
  result := .object .template

def updateTemplate : Operation where
  name := "updateTemplate"
  command := .updateTemplate
  slots := [text "id" "id"]
  options := some .updateTemplate
  result := .object .template

def copyTemplateToZone : Operation where
  name := "copyTemplateToZone"
  command := .copyTemplate
  slots := [text "id" "id", text "sourceZoneId" "sourcezoneid", text "destZoneId" "destzoneid"]
  result := .job

def deleteTemplate : Operation where
  name := "deleteTemplate"
  command := .deleteTemplate
  slots := [text "id" "id", optional "zoneId" "zoneid"]
  result := .job

def listOsTypes : Operation where
  name := "listOsTypes"
  command := .listOsTypes
  options := some .listOsTypes
  result := .items .osType

def getOsType : Operation where
  name := "getOsType"
  command := .getOsType
  slots := [text "id" "id"]
  result := .first .osType

def listOsCategories : Operation where
  name := "listOsCategories"
  command := .listOsCategories
  result := .items .osCategory

end CloudControl.Operation
