import CloudControl.Options.Builder

/-!
# Options on networks

The setters of the commands on addresses, networks, their rules and security groups.
-/

namespace CloudControl.Options

namespace Builder

open Setter

/-- Options for listing public addresses. -/
def listPublicIpAddresses : Builder where
  name := "listPublicIpAddresses"
  setters :=
    paging ++ plain [
      ("id", "id"), ("ipAddress", "ipaddress"), ("allocatedOnly", "allocatedonly"),
      ("associatedNetworkId", "associatednetworkid"),
      ("physicalNetworkId", "physicalnetworkid"), ("isSourceNat", "issourcenat"),
      ("isStaticNat", "isstaticnat"), ("forVirtualNetwork", "forvirtualnetwork"),
      ("forLoadBalancing", "forloadbalancing"), ("vlanId", "vlanid"), ("vpcId", "vpcid"),
      ("zoneId", "zoneid"), ("isRecursive", "isrecursive"), ("listAll", "listall"),
      ("projectId", "projectid")] ++ [accountInDomain, tags]

/-- Options for taking a public address. -/
def associateIpAddress : Builder where
  name := "associateIpAddress"
  setters :=
    plain [
      ("networkId", "networkid"), ("zoneId", "zoneid"), ("vpcId", "vpcid"),
      ("isPortable", "isportable"), ("projectId", "projectid")] ++ [accountInDomain]

/-- Options for listing address ranges. -/
def listVlanIpRanges : Builder where
  name := "listVlanIpRanges"
  setters :=
    paging ++ plain [
      ("id", "id"), ("zoneId", "zoneid"), ("podId", "podid"), ("networkId", "networkid"),
      ("physicalNetworkId", "physicalnetworkid"), ("vlan", "vlan"),
      ("forVirtualNetwork", "forvirtualnetwork"), ("projectId", "projectid")] ++ [accountInDomain]

/-- Options for creating an address range. -/
def createVlanIpRange : Builder where
  name := "createVlanIpRange"
  setters :=
    plain [
      ("endIp", "endip"), ("forVirtualNetwork", "forvirtualnetwork"), ("zoneId", "zoneid"),
      ("podId", "podid"), ("networkId", "networkid"),
      ("physicalNetworkId", "physicalnetworkid"), ("vlan", "vlan"), ("gateway", "gateway"),
      ("netmask", "netmask"), ("projectId", "projectid")] ++ [accountInDomain]

/-- Options for listing firewall rules. -/
def listFirewallRules : Builder where
  name := "listFirewallRules"
  setters :=
    paging ++ plain [
      ("id", "id"), ("ipAddressId", "ipaddressid"), ("networkId", "networkid"),
      ("isRecursive", "isrecursive"), ("listAll", "listall"), ("projectId", "projectid")] ++
    [accountInDomain, tags]

/-- Options for creating a firewall rule. -/
def createFirewallRule : Builder where
  name := "createFirewallRule"
  setters :=
    plain [
      ("startPort", "startport"), ("endPort", "endport"), ("icmpType", "icmptype"),
      ("icmpCode", "icmpcode")] ++ [joined "cidrList" "cidrlist"]

/-- Options for listing port forwarding rules. -/
def listPortForwardingRules : Builder where
  name := "listPortForwardingRules"
  setters :=
    paging ++ plain [
      ("id", "id"), ("ipAddressId", "ipaddressid"), ("networkId", "networkid"),
      ("isRecursive", "isrecursive"), ("listAll", "listall"), ("projectId", "projectid")] ++
    [accountInDomain, tags]

/-- Options for creating a port forwarding rule. -/
def createPortForwardingRule : Builder where
  name := "createPortForwardingRule"
  setters :=
    plain [
      ("privateEndPort", "privateendport"), ("publicEndPort", "publicendport"),
      ("openFirewall", "openfirewall"), ("networkId", "networkid"), ("vmGuestIp", "vmguestip")] ++
    [joined "cidrList" "cidrlist"]

/-- Options for listing load balancer rules. -/
def listLoadBalancerRules : Builder where
  name := "listLoadBalancerRules"
  setters :=
    paging ++ plain [
      ("id", "id"), ("name", "name"), ("publicIpId", "publicipid"),
      ("virtualMachineId", "virtualmachineid"), ("networkId", "networkid"),
      ("zoneId", "zoneid"), ("isRecursive", "isrecursive"), ("listAll", "listall"),
      ("projectId", "projectid")] ++ [accountInDomain, tags]

/-- Options for creating a load balancer rule. -/
def createLoadBalancerRule : Builder where
  name := "createLoadBalancerRule"
  setters :=
    plain [
      ("description", "description"), ("publicIpId", "publicipid"), ("networkId", "networkid"),
      ("zoneId", "zoneid"), ("openFirewall", "openfirewall"), ("protocol", "protocol")] ++
    [accountInDomain, joined "cidrList" "cidrlist"]

/-- Options for listing networks. -/
def listNetworks : Builder where
  name := "listNetworks"
  setters :=
    paging ++ plain [
      ("id", "id"), ("zoneId", "zoneid"), ("trafficType", "traffictype"),
      ("guestIpType", "type"), ("isDefault", "isdefault"), ("isSystem", "issystem"),
      ("physicalNetworkId", "physicalnetworkid"), ("vpcId", "vpcid"), ("aclType", "acltype"),
      ("canUseForDeploy", "canusefordeploy"), ("restartRequired", "restartrequired"),
      ("specifyIpRanges", "specifyipranges"), ("isRecursive", "isrecursive"),
      ("listAll", "listall"), ("projectId", "projectid")] ++
    [accountInDomain, tags, joined "supportedServices" "supportedservices"]

/-- Options for creating a network. -/
def createNetwork : Builder where
  name := "createNetwork"
  setters :=
    plain [
      ("gateway", "gateway"), ("netmask", "netmask"), ("startIp", "startip"),
      ("endIp", "endip"), ("vlan", "vlan"), ("networkDomain", "networkdomain"),
      ("aclType", "acltype"), ("physicalNetworkId", "physicalnetworkid"),
      ("subdomainAccess", "subdomainaccess"), ("displayNetwork", "displaynetwork"),
      ("vpcId", "vpcid"), ("projectId", "projectid")] ++ [accountInDomain]

/-- Options for listing network offerings. -/
def listNetworkOfferings : Builder where
  name := "listNetworkOfferings"
  setters :=
    paging ++ plain [
      ("id", "id"), ("name", "name"), ("displayText", "displaytext"),
      ("availability", "availability"), ("guestIpType", "guestiptype"),
      ("trafficType", "traffictype"), ("state", "state"), ("zoneId", "zoneid"),
      ("networkId", "networkid"), ("isDefault", "isdefault"), ("isTagged", "istagged"),
      ("specifyVlan", "specifyvlan"), ("specifyIpRanges", "specifyipranges"),
      ("forVpc", "forvpc"), ("networkTag", "tags")] ++
    [joined "supportedServices" "supportedservices"]

/-- Options for listing security groups. -/
def listSecurityGroups : Builder where
  name := "listSecurityGroups"
  setters :=
    paging ++ plain [
      ("id", "id"), ("name", "securitygroupname"), ("virtualMachineId", "virtualmachineid"),
      ("isRecursive", "isrecursive"), ("listAll", "listall"), ("projectId", "projectid")] ++
    [accountInDomain, tags]

/-- Options for admitting traffic to a security group. -/
def authorizeIngress : Builder where
  name := "authorizeIngress"
  setters :=
    plain [
      ("protocol", "protocol"), ("startPort", "startport"), ("endPort", "endport"),
      ("icmpType", "icmptype"), ("icmpCode", "icmpcode")] ++
    [accountInDomain, joined "cidrList" "cidrlist",
      ⟨"userSecurityGroups", .indexed "usersecuritygrouplist" "account" "group"⟩]

end Builder

end CloudControl.Options
