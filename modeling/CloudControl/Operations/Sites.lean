import CloudControl.Catalog.Sites
import CloudControl.Options.Sites
import CloudControl.Schema.Sites
import CloudControl.Operations.Basic

/-!
# Operations on sites

What can be done with zones, pods, hosts, clusters and storage pools.
-/

namespace CloudControl.Operation

open Slot

def listZones : Operation where
  name := "listZones"
  command := .listZones
  options := some .listZones
  result := .items .zone

def getZone : Operation where
  name := "getZone"
  command := .getZone
  slots := [text "id" "id"]
  result := .first .zone

def createZone : Operation where
  name := "createZone"
  command := .createZone
  slots := [
    text "name" "name", choice "networkType" .networkType "networktype",
    text "externalDns1" "dns1", text "internalDns1" "internaldns1"]
  options := some .createZone
  result := .object .zone

def updateZone : Operation where
  name := "updateZone"
  command := .updateZone
  slots := [text "id" "id"]
  options := some .updateZone
  result := .object .zone

def deleteZone : Operation where
  name := "deleteZone"
  command := .deleteZone
  slots := [text "id" "id"]
  result := .done

def listPods : Operation where
  name := "listPods"
  command := .listPods
  options := some .listPods
  result := .items .pod

def getPod : Operation where
  name := "getPod"
  command := .getPod
  slots := [text "id" "id"]
  result := .first .pod

def createPod : Operation where
  name := "createPod"
  command := .createPod
  slots := [
    text "zoneId" "zoneid", text "name" "name", text "startIp" "startip",
    text "netmask" "netmask", text "gateway" "gateway"]
  options := some .createPod
  result := .object .pod

def updatePod : Operation where
  name := "updatePod"
  command := .updatePod
  slots := [text "id" "id"]
  options := some .updatePod
  result := .object .pod

def deletePod : Operation where
  name := "deletePod"
  command := .deletePod
  slots := [text "id" "id"]
  result := .done

def listHosts : Operation where
  name := "listHosts"
  command := .listHosts
  options := some .listHosts
  result := .items .host

def getHost : Operation where
  name := "getHost"
  command := .getHost
  slots := [text "id" "id"]
  result := .first .host

def addHost : Operation where
  name := "addHost"
  command := .addHost
  slots := [
    text "zoneId" "zoneid", text "url" "url", choice "hypervisor" .hypervisorType "hypervisor",
    text "username" "username", text "password" "password"]
  options := some .addHost
  result := .items .host

def updateHost : Operation where
  name := "updateHost"
  command := .updateHost
  slots := [text "id" "id"]
  options := some .updateHost
  result := .object .host

def prepareHostForMaintenance : Operation where
  name := "prepareHostForMaintenance"
  command := .prepareHostForMaintenance
  slots := [text "id" "id"]
  result := .job

def cancelHostMaintenance : Operation where
  name := "cancelHostMaintenance"
  command := .cancelHostMaintenance
  slots := [text "id" "id"]
  result := .job

def reconnectHost : Operation where
  name := "reconnectHost"
  command := .reconnectHost
  slots := [text "id" "id"]
  result := .job

def deleteHost : Operation where
  name := "deleteHost"
  command := .deleteHost
  slots := [text "id" "id", switch "forced" "forced"]
  result := .done

def listClusters : Operation where
  name := "listClusters"
  command := .listClusters
  options := some .listClusters
  result := .items .cluster

def addCluster : Operation where
  name := "addCluster"
  command := .addCluster
  slots := [
    text "zoneId" "zoneid", text "podId" "podid", text "name" "clustername",
    choice "clusterType" .clusterType "clustertype",
    choice "hypervisor" .hypervisorType "hypervisor"]
  options := some .addCluster
  result := .items .cluster

def updateCluster : Operation where
  name := "updateCluster"
  command := .updateCluster
  slots := [text "id" "id"]
  options := some .updateCluster
  result := .object .cluster

def deleteCluster : Operation where
  name := "deleteCluster"
  command := .deleteCluster
  slots := [text "id" "id"]
  result := .done

def listStoragePools : Operation where
  name := "listStoragePools"
  command := .listStoragePools
  options := some .listStoragePools
  result := .items .storagePool

end CloudControl.Operation
