import CloudControl.Catalog.Networks
import CloudControl.Options.Machines
import CloudControl.Options.Networks
import CloudControl.Schema.Machines
import CloudControl.Schema.Networks
import CloudControl.Schema.Storage
import CloudControl.Operations.Basic

/-!
# Operations on networks

What can be done with addresses, networks, offerings, rules and security groups.
-/

namespace CloudControl.Operation

open Slot

def listPublicIpAddresses : Operation where
  name := "listPublicIpAddresses"
  command := .listPublicIpAddresses
  options := some .listPublicIpAddresses
  result := .items .publicIpAddress

def getPublicIpAddress : Operation where
  name := "getPublicIpAddress"
  command := .getPublicIpAddress
  slots := [text "id" "id"]
  result := .first .publicIpAddress

def associateIpAddress : Operation where
  name := "associateIpAddress"
  command := .associateIpAddress
  options := some .associateIpAddress
  result := .job

def disassociateIpAddress : Operation where
  name := "disassociateIpAddress"
  command := .disassociateIpAddress
  slots := [text "id" "id"]
  result := .job

def enableStaticNat : Operation where
  name := "enableStaticNat"
  command := .enableStaticNat
  slots := [text "id" "ipaddressid", text "virtualMachineId" "virtualmachineid"]
  result := .object .successResponse

def disableStaticNat : Operation where
  name := "disableStaticNat"
  command := .disableStaticNat
  slots := [text "id" "ipaddressid"]
  result := .job

def listVlanIpRanges : Operation where
  name := "listVlanIpRanges"
  command := .listVlanIpRanges
  options := some .listVlanIpRanges
  result := .items .vlanIpRange

def getVlanIpRange : Operation where
  name := "getVlanIpRange"
  command := .getVlanIpRange
  slots := [text "id" "id"]
  result := .first .vlanIpRange

def createVlanIpRange : Operation where
  name := "createVlanIpRange"
  command := .createVlanIpRange
  slots := [text "startIp" "startip"]
  options := some .createVlanIpRange
  result := .object .vlanIpRange

def deleteVlanIpRange : Operation where
  name := "deleteVlanIpRange"
  command := .deleteVlanIpRange
  slots := [text "id" "id"]
  result := .done

def listNetworks : Operation where
  name := "listNetworks"
  command := .listNetworks
  options := some .listNetworks
  result := .items .network

def getNetwork : Operation where
  name := "getNetwork"
  command := .getNetwork
  slots := [text "id" "id"]
  result := .first .network

def createNetwork : Operation where
  name := "createNetwork"
  command := .createNetwork
  slots := [
    text "zoneId" "zoneid", text "networkOfferingId" "networkofferingid", text "name" "name",
    text "displayText" "displaytext"]
  options := some .createNetwork
  result := .object .network

def deleteNetwork : Operation where
  name := "deleteNetwork"
  command := .deleteNetwork
  slots := [text "id" "id"]
  result := .job

def restartNetwork : Operation where
  name := "restartNetwork"
  command := .restartNetwork
  slots := [text "id" "id", flag "cleanup" "cleanup"]
  result := .job

def listServiceOfferings : Operation where
  name := "listServiceOfferings"
  command := .listServiceOfferings
  options := some .listServiceOfferings
  result := .items .serviceOffering

def getServiceOffering : Operation where
  name := "getServiceOffering"
  command := .getServiceOffering
  slots := [text "id" "id"]
  result := .first .serviceOffering

def deleteServiceOffering : Operation where
  name := "deleteServiceOffering"
  command := .deleteServiceOffering
  slots := [text "id" "id"]
  result := .done

def listDiskOfferings : Operation where
  name := "listDiskOfferings"
  command := .listDiskOfferings
  options := some .listDiskOfferings
  result := .items .diskOffering

def getDiskOffering : Operation where
  name := "getDiskOffering"
  command := .getDiskOffering
  slots := [text "id" "id"]
  result := .first .diskOffering

def deleteDiskOffering : Operation where
  name := "deleteDiskOffering"
  command := .deleteDiskOffering
  slots := [text "id" "id"]
  result := .done

def listNetworkOfferings : Operation where
  name := "listNetworkOfferings"
  command := .listNetworkOfferings
  options := some .listNetworkOfferings
  result := .items .networkOffering

def getNetworkOffering : Operation where
  name := "getNetworkOffering"
  command := .getNetworkOffering
  slots := [text "id" "id"]
  result := .first .networkOffering

def listSecurityGroups : Operation where
  name := "listSecurityGroups"
  command := .listSecurityGroups
  options := some .listSecurityGroups
  result := .items .securityGroup

def getSecurityGroup : Operation where
  name := "getSecurityGroup"
  command := .getSecurityGroup
  slots := [text "id" "id"]
  result := .first .securityGroup

def createSecurityGroup : Operation where
  name := "createSecurityGroup"
  command := .createSecurityGroup
  slots := [text "name" "name", optional "description" "description"]
  result := .object .securityGroup

def deleteSecurityGroup : Operation where
  name := "deleteSecurityGroup"
  command := .deleteSecurityGroup
  slots := [text "id" "id"]
  result := .done

def authorizeSecurityGroupIngress : Operation where
  name := "authorizeSecurityGroupIngress"
  command := .authorizeSecurityGroupIngress
  slots := [text "id" "securitygroupid"]
  options := some .authorizeIngress
  result := .job

def revokeSecurityGroupIngress : Operation where
  name := "revokeSecurityGroupIngress"
  command := .revokeSecurityGroupIngress
  slots := [text "id" "id"]
  result := .job

def listFirewallRules : Operation where
  name := "listFirewallRules"
  command := .listFirewallRules
  options := some .listFirewallRules
  result := .items .firewallRule

def getFirewallRule : Operation where
  name := "getFirewallRule"
  command := .getFirewallRule
  slots := [text "id" "id"]
  result := .first .firewallRule

def createFirewallRule : Operation where
  name := "createFirewallRule"
  command := .createFirewallRule
  slots := [text "ipAddressId" "ipaddressid", choice "protocol" .firewallProtocol "protocol"]
  options := some .createFirewallRule
  result := .job

def deleteFirewallRule : Operation where
  name := "deleteFirewallRule"
  command := .deleteFirewallRule
  slots := [text "id" "id"]
  result := .job

def listPortForwardingRules : Operation where
  name := "listPortForwardingRules"
  command := .listPortForwardingRules
  options := some .listPortForwardingRules
  result := .items .portForwardingRule

def getPortForwardingRule : Operation where
  name := "getPortForwardingRule"
  command := .getPortForwardingRule
  slots := [text "id" "id"]
  result := .first .portForwardingRule

def createPortForwardingRule : Operation where
  name := "createPortForwardingRule"
  command := .createPortForwardingRule
  slots := [
    text "ipAddressId" "ipaddressid", choice "protocol" .firewallProtocol "protocol",
    number "publicPort" "publicport", text "virtualMachineId" "virtualmachineid",
    number "privatePort" "privateport"]
  options := some .createPortForwardingRule
  result := .job

def deletePortForwardingRule : Operation where
  name := "deletePortForwardingRule"
  command := .deletePortForwardingRule
  slots := [text "id" "id"]
  result := .job

def listLoadBalancerRules : Operation where
  name := "listLoadBalancerRules"
  command := .listLoadBalancerRules
  options := some .listLoadBalancerRules
  result := .items .loadBalancerRule

def getLoadBalancerRule : Operation where
  name := "getLoadBalancerRule"
  command := .getLoadBalancerRule
  slots := [text "id" "id"]
  result := .first .loadBalancerRule

def createLoadBalancerRule : Operation where
  name := "createLoadBalancerRule"
  command := .createLoadBalancerRule
  slots := [
    text "name" "name", choice "algorithm" .loadBalancerAlgorithm "algorithm",
    number "publicPort" "publicport", number "privatePort" "privateport"]
  options := some .createLoadBalancerRule
  result := .job

def deleteLoadBalancerRule : Operation where
  name := "deleteLoadBalancerRule"
  command := .deleteLoadBalancerRule
  slots := [text "id" "id"]
  result := .job

def assignVirtualMachinesToLoadBalancerRule : Operation where
  name := "assignVirtualMachinesToLoadBalancerRule"
  command := .assignToLoadBalancerRule
  slots := [text "id" "id", joined "ids" "virtualmachineids"]
  result := .job

def removeVirtualMachinesFromLoadBalancerRule : Operation where
  name := "removeVirtualMachinesFromLoadBalancerRule"
  command := .removeFromLoadBalancerRule
  slots := [text "id" "id", joined "ids" "virtualmachineids"]
  result := .job

def listVirtualMachinesAssignedToLoadBalancerRule : Operation where
  name := "listVirtualMachinesAssignedToLoadBalancerRule"
  command := .listLoadBalancerRuleInstances
  slots := [text "id" "id"]
  result := .items .virtualMachine

end CloudControl.Operation
