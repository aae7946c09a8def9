import CloudControl.Options.Builder

/-!
# Options on sites

The setters of the commands on zones, pods, clusters, hosts and storage pools.
-/

namespace CloudControl.Options

namespace Builder

open Setter

/-- Options for listing zones. -/
def listZones : Builder where
  name := "listZones"
  setters :=
    paging ++ plain [
      ("id", "id"), ("name", "name"), ("available", "available"), ("domainId", "domainid"),
      ("networkType", "networktype"), ("showCapacities", "showcapacities")] ++ [tags]

/-- Options for creating a zone. -/
def createZone : Builder where
  name := "createZone"
  setters :=
    plain [
      ("allocationState", "allocationstate"), ("dns2", "dns2"),
      ("internalDns2", "internaldns2"), ("ip6Dns1", "ip6dns1"), ("ip6Dns2", "ip6dns2"),
      ("domainId", "domainid"), ("guestCidrAddress", "guestcidraddress"),
      ("networkDomain", "domain"), ("localStorageEnabled", "localstorageenabled"),
      ("securityGroupEnabled", "securitygroupenabled")]

/-- Options for changing a zone. -/
def updateZone : Builder where
  name := "updateZone"
  setters :=
    plain [
      ("name", "name"), ("allocationState", "allocationstate"),
      ("dhcpProvider", "dhcpprovider"), ("dns1", "dns1"), ("dns2", "dns2"),
      ("internalDns1", "internaldns1"), ("internalDns2", "internaldns2"),
      ("guestCidrAddress", "guestcidraddress"), ("networkDomain", "domain"),
      ("isPublic", "ispublic"), ("localStorageEnabled", "localstorageenabled")]

/-- Options for listing pods. -/
def listPods : Builder where
  name := "listPods"
  setters :=
    paging ++ plain [
      ("id", "id"), ("name", "name"), ("zoneId", "zoneid"),
      ("allocationState", "allocationstate"), ("showCapacities", "showcapacities")]

/-- Options for creating a pod. -/
def createPod : Builder where
  name := "createPod"
  setters := plain [("endIp", "endip"), ("allocationState", "allocationstate")]

/-- Options for changing a pod. -/
def updatePod : Builder where
  name := "updatePod"
  setters :=
    plain [
      ("name", "name"), ("startIp", "startip"), ("endIp", "endip"), ("netmask", "netmask"),
      ("gateway", "gateway"), ("allocationState", "allocationstate")]

/-- Options for listing clusters. -/
def listClusters : Builder where
  name := "listClusters"
  setters :=
    paging ++ plain [
      ("id", "id"), ("name", "name"), ("zoneId", "zoneid"), ("podId", "podid"),
      ("hypervisor", "hypervisor"), ("clusterType", "clustertype"),
      ("allocationState", "allocationstate"), ("managedState", "managedstate"),
      ("showCapacities", "showcapacities")]

/-- Options for adding a cluster. -/
def addCluster : Builder where
  name := "addCluster"
  setters :=
    plain [
      ("allocationState", "allocationstate"), ("url", "url"), ("username", "username"),
      ("password", "password")]

/-- Options for changing a cluster. -/
def updateCluster : Builder where
  name := "updateCluster"
  setters :=
    plain [
      ("name", "clustername"), ("clusterType", "clustertype"), ("hypervisor", "hypervisor"),
      ("allocationState", "allocationstate"), ("managedState", "managedstate")]

/-- Options for listing hosts. -/
def listHosts : Builder where
  name := "listHosts"
  setters :=
    paging ++ plain [
      ("id", "id"), ("name", "name"), ("hostType", "type"), ("state", "state"),
      ("resourceState", "resourcestate"), ("zoneId", "zoneid"), ("podId", "podid"),
      ("clusterId", "clusterid"), ("hypervisor", "hypervisor"),
      ("virtualMachineId", "virtualmachineid"), ("haHost", "hahost"), ("details", "details")]

/-- Options for adding a host. -/
def addHost : Builder where
  name := "addHost"
  setters :=
    plain [
      ("podId", "podid"), ("clusterId", "clusterid"), ("clusterName", "clustername"),
      ("allocationState", "allocationstate"), ("hostTags", "hosttags")]

/-- Options for changing a host. -/
def updateHost : Builder where
  name := "updateHost"
  setters :=
    plain [
      ("allocationState", "allocationstate"), ("hostTags", "hosttags"),
      ("osCategoryId", "oscategoryid"), ("url", "url")]

/-- Options for listing storage pools. -/
def listStoragePools : Builder where
  name := "listStoragePools"
  setters :=
    paging ++ plain [
      ("id", "id"), ("name", "name"), ("zoneId", "zoneid"), ("podId", "podid"),
      ("clusterId", "clusterid"), ("ipAddress", "ipaddress"), ("path", "path"),
      ("scope", "scope")]

end Builder

end CloudControl.Options
