import CloudControl.Catalog.Command

/-!
# Commands on networks

The commands on addresses, networks, their rules, offerings and security groups.
-/

namespace CloudControl

namespace Command

def listPublicIpAddresses : Command := listsAll "listPublicIpAddresses" "publicipaddress"

def getPublicIpAddress : Command := findsInAll "listPublicIpAddresses" "publicipaddress"

def associateIpAddress : Command := starts "associateIpAddress"

def disassociateIpAddress : Command := starts "disassociateIpAddress"

def enableStaticNat : Command := get "enableStaticNat"

def disableStaticNat : Command := starts "disableStaticNat"

def listVlanIpRanges : Command := lists "listVlanIpRanges" "vlaniprange"

def getVlanIpRange : Command := finds "listVlanIpRanges" "vlaniprange"

def createVlanIpRange : Command := answers "createVlanIpRange" "vlan"

def deleteVlanIpRange : Command := removes "deleteVlanIpRange"

def listNetworks : Command := listsAll "listNetworks" "network"

def getNetwork : Command := findsInAll "listNetworks" "network"

def createNetwork : Command := answers "createNetwork" "network"

def deleteNetwork : Command := starts "deleteNetwork"

def restartNetwork : Command := starts "restartNetwork"

def listServiceOfferings : Command := lists "listServiceOfferings" "serviceoffering"

def getServiceOffering : Command := finds "listServiceOfferings" "serviceoffering"

def deleteServiceOffering : Command := removes "deleteServiceOffering"

def listDiskOfferings : Command := lists "listDiskOfferings" "diskoffering"

def getDiskOffering : Command := finds "listDiskOfferings" "diskoffering"

def deleteDiskOffering : Command := removes "deleteDiskOffering"

def listNetworkOfferings : Command := lists "listNetworkOfferings" "networkoffering"

def getNetworkOffering : Command := finds "listNetworkOfferings" "networkoffering"

def listSecurityGroups : Command := listsAll "listSecurityGroups" "securitygroup"

def getSecurityGroup : Command := findsInAll "listSecurityGroups" "securitygroup"

def createSecurityGroup : Command := answers "createSecurityGroup" "securitygroup"

def deleteSecurityGroup : Command := removes "deleteSecurityGroup"

def authorizeSecurityGroupIngress : Command := starts "authorizeSecurityGroupIngress"

def revokeSecurityGroupIngress : Command := starts "revokeSecurityGroupIngress"

def listFirewallRules : Command := listsAll "listFirewallRules" "firewallrule"

def getFirewallRule : Command := findsInAll "listFirewallRules" "firewallrule"

def createFirewallRule : Command := starts "createFirewallRule"

def deleteFirewallRule : Command := starts "deleteFirewallRule"

def listPortForwardingRules : Command := listsAll "listPortForwardingRules" "portforwardingrule"

def getPortForwardingRule : Command := findsInAll "listPortForwardingRules" "portforwardingrule"

def createPortForwardingRule : Command := starts "createPortForwardingRule"

def deletePortForwardingRule : Command := starts "deletePortForwardingRule"

def listLoadBalancerRules : Command := listsAll "listLoadBalancerRules" "loadbalancerrule"

def getLoadBalancerRule : Command := findsInAll "listLoadBalancerRules" "loadbalancerrule"

def createLoadBalancerRule : Command := starts "createLoadBalancerRule"

def deleteLoadBalancerRule : Command := starts "deleteLoadBalancerRule"

def assignToLoadBalancerRule : Command := starts "assignToLoadBalancerRule"

def removeFromLoadBalancerRule : Command := starts "removeFromLoadBalancerRule"

def listLoadBalancerRuleInstances : Command :=
  listsAll "listLoadBalancerRuleInstances" "loadbalancerruleinstance"

end Command

namespace CommandGroup

open Command

/-- The group "address". -/
def addressCommands : CommandGroup :=
  ⟨"address", [
    listPublicIpAddresses, getPublicIpAddress, associateIpAddress, disassociateIpAddress,
    enableStaticNat, disableStaticNat]⟩

/-- The group "vlan". -/
def vlanCommands : CommandGroup :=
  ⟨"vlan", [listVlanIpRanges, getVlanIpRange, createVlanIpRange, deleteVlanIpRange]⟩

/-- The group "network". -/
def networkCommands : CommandGroup :=
  ⟨"network", [listNetworks, getNetwork, createNetwork, deleteNetwork, restartNetwork]⟩

/-- The group "offering". -/
def offeringCommands : CommandGroup :=
  ⟨"offering", [
    listServiceOfferings, getServiceOffering, deleteServiceOffering, listDiskOfferings,
    getDiskOffering, deleteDiskOffering, listNetworkOfferings, getNetworkOffering]⟩

/-- The group "security group". -/
def securityGroupCommands : CommandGroup :=
  ⟨"security group", [
    listSecurityGroups, getSecurityGroup, createSecurityGroup, deleteSecurityGroup,
    authorizeSecurityGroupIngress, revokeSecurityGroupIngress]⟩

/-- The group "firewall". -/
def firewallCommands : CommandGroup :=
  ⟨"firewall", [
    listFirewallRules, getFirewallRule, createFirewallRule, deleteFirewallRule,
    listPortForwardingRules, getPortForwardingRule, createPortForwardingRule,
    deletePortForwardingRule]⟩

/-- The group "load balancer". -/
def loadBalancerCommands : CommandGroup :=
  ⟨"load balancer", [
    listLoadBalancerRules, getLoadBalancerRule, createLoadBalancerRule, deleteLoadBalancerRule,
    assignToLoadBalancerRule, removeFromLoadBalancerRule, listLoadBalancerRuleInstances]⟩

end CommandGroup

end CloudControl
