import CloudControl.Catalog.Command

/-!
# Commands on sites

The commands on zones, pods, clusters, hosts and storage pools.
-/

namespace CloudControl

namespace Command

def listZones : Command := lists "listZones" "zone"

def getZone : Command := finds "listZones" "zone"

def createZone : Command := answers "createZone" "zone"

def updateZone : Command := answers "updateZone" "zone"

def deleteZone : Command := removes "deleteZone"

def listPods : Command := lists "listPods" "pod"

def getPod : Command := finds "listPods" "pod"

def createPod : Command := answers "createPod" "pod"

def updatePod : Command := answers "updatePod" "pod"

def deletePod : Command := removes "deletePod"

def listClusters : Command := lists "listClusters" "cluster"

def addCluster : Command := postsTo "addCluster" "cluster"

def updateCluster : Command := answers "updateCluster" "cluster"

def deleteCluster : Command := removes "deleteCluster"

def listHosts : Command := lists "listHosts" "host"

def getHost : Command := finds "listHosts" "host"

def addHost : Command := postsTo "addHost" "host"

def updateHost : Command := answers "updateHost" "host"

def prepareHostForMaintenance : Command := starts "prepareHostForMaintenance"

def cancelHostMaintenance : Command := starts "cancelHostMaintenance"

def reconnectHost : Command := starts "reconnectHost"

def deleteHost : Command := removes "deleteHost"

def listStoragePools : Command := lists "listStoragePools" "storagepool"

end Command

namespace CommandGroup

open Command

/-- The group "zone". -/
def zoneCommands : CommandGroup :=
  ⟨"zone", [listZones, getZone, createZone, updateZone, deleteZone]⟩

/-- The group "pod". -/
def podCommands : CommandGroup :=
  ⟨"pod", [listPods, getPod, createPod, updatePod, deletePod]⟩

/-- The group "cluster". -/
def clusterCommands : CommandGroup :=
  ⟨"cluster", [listClusters, addCluster, updateCluster, deleteCluster]⟩

/-- The group "host". -/
def hostCommands : CommandGroup :=
  ⟨"host", [
    listHosts, getHost, addHost, updateHost, prepareHostForMaintenance, cancelHostMaintenance,
    reconnectHost, deleteHost]⟩

/-- The group "storage pool". -/
def storagePoolCommands : CommandGroup :=
  ⟨"storage pool", [listStoragePools]⟩

end CommandGroup

end CloudControl
