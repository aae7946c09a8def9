import CloudControl.Catalog.Command

/-!
# Commands on storage

The commands on volumes, snapshots, templates and guest systems.
-/

namespace CloudControl

namespace Command

def listVolumes : Command := listsAll "listVolumes" "volume"

def getVolume : Command := findsInAll "listVolumes" "volume"

def createVolume : Command := starts "createVolume"

def attachVolume : Command := starts "attachVolume"

def detachVolume : Command := starts "detachVolume"

def resizeVolume : Command := starts "resizeVolume"

def deleteVolume : Command := removes "deleteVolume"

def listSnapshots : Command := listsAll "listSnapshots" "snapshot"

def getSnapshot : Command := findsInAll "listSnapshots" "snapshot"

def createSnapshot : Command := starts "createSnapshot"

def deleteSnapshot : Command := starts "deleteSnapshot"

def createSnapshotPolicy : Command := answers "createSnapshotPolicy" "snapshotpolicy"

def listSnapshotPolicies : Command := lists "listSnapshotPolicies" "snapshotpolicy"

def deleteSnapshotPolicies : Command := removes "deleteSnapshotPolicies"

def listTemplates : Command := withTemplateFilter (lists "listTemplates" "template")

def getTemplate : Command := withTemplateFilter (finds "listTemplates" "template")

def createTemplate : Command := starts "createTemplate"

def registerTemplate : Command := answers "registerTemplate" "template"

def updateTemplate : Command := answers "updateTemplate" "template"

def copyTemplate : Command := starts "copyTemplate"

def deleteTemplate : Command := starts "deleteTemplate"

def listOsTypes : Command := lists "listOsTypes" "ostype"

def getOsType : Command := finds "listOsTypes" "ostype"

def listOsCategories : Command := lists "listOsCategories" "oscategory"

end Command

namespace CommandGroup

open Command

/-- The group "volume". -/
def volumeCommands : CommandGroup :=
  ⟨"volume", [
    listVolumes, getVolume, createVolume, attachVolume, detachVolume, resizeVolume, deleteVolume]⟩

/-- The group "snapshot". -/
def snapshotCommands : CommandGroup :=
  ⟨"snapshot", [
    listSnapshots, getSnapshot, createSnapshot, deleteSnapshot, createSnapshotPolicy,
    listSnapshotPolicies, deleteSnapshotPolicies]⟩

/-- The group "template". -/
def templateCommands : CommandGroup :=
  ⟨"template", [
    listTemplates, getTemplate, createTemplate, registerTemplate, updateTemplate, copyTemplate,
    deleteTemplate]⟩

/-- The group "guest os". -/
def guestOsCommands : CommandGroup :=
  ⟨"guest os", [listOsTypes, getOsType, listOsCategories]⟩

end CommandGroup

end CloudControl
