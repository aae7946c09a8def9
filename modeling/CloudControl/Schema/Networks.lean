import CloudControl.Schema.CodeEnums
import CloudControl.Schema.TextEnums
import CloudControl.Schema.Tags

/-!
# Networks

Addresses, networks, and the rules for traffic.
-/

namespace CloudControl.Schema

namespace Kind

/-- A public address. -/
def publicIpAddress : Kind :=
  .record "PublicIpAddress" [
    ("id", .text), ("ipaddress", .optionalText),
    ("state", .choice .publicIpAddressState .fromObjects), ("allocated", .time),
    ("account", .optionalText .fromObjects), ("domain", .optionalText .fromObjects),
    ("domainid", .optionalText), ("zoneid", .optionalText), ("zonename", .optionalText),
    ("issourcenat", .scalar .flag), ("isstaticnat", .scalar .flag), ("issystem", .scalar .flag),
    ("forvirtualnetwork", .scalar .flag), ("associatednetworkid", .optionalText),
    ("networkid", .optionalText), ("vlanid", .optionalText), ("vlanname", .optionalText),
    ("virtualmachineid", .optionalText), ("virtualmachinename", .optionalText),
    ("virtualmachinedisplayname", .optionalText), ("jobid", .optionalText),
    ("tags", .list resourceTag)]

/-- A range of public addresses. -/
def vlanIpRange : Kind :=
  .record "VlanIpRange" [
    ("id", .text), ("forvirtualnetwork", .scalar .flag), ("zoneid", .optionalText),
    ("podid", .optionalText), ("podname", .optionalText), ("networkid", .optionalText),
    ("physicalnetworkid", .optionalText), ("vlan", .optionalText .fromObjects),
    ("gateway", .optionalText .fromObjects), ("netmask", .optionalText .fromObjects),
    ("description", .optionalText .fromObjects), ("startip", .optionalText),
    ("endip", .optionalText), ("account", .optionalText .fromObjects),
    ("domain", .optionalText .fromObjects), ("domainid", .optionalText)]

/-- A provider of a network service. -/
def networkServiceProvider : Kind :=
  .record "NetworkServiceProvider" [
    ("name", .text), ("id", .optionalText .fromObjects), ("state", .optionalText .fromObjects),
    ("physicalnetworkid", .optionalText), ("canenableindividualservice", .scalar .flag)]

/-- A capability of a network service. -/
def networkServiceCapability : Kind :=
  .record "NetworkServiceCapability" [
    ("name", .text), ("value", .optionalText .fromObjects),
    ("canchooseservicecapability", .scalar .flag)]

/-- A service of a network. -/
def networkService : Kind :=
  .record "NetworkService" [
    ("name", .text), ("provider", .list networkServiceProvider),
    ("capability", .list networkServiceCapability)]

/-- A network. -/
def network : Kind :=
  .record "Network" [
    ("id", .text), ("name", .optionalText .fromObjects), ("displaytext", .optionalText),
    ("account", .optionalText .fromObjects), ("domainid", .optionalText),
    ("domain", .optionalText .fromObjects), ("zoneid", .optionalText), ("zonename", .optionalText),
    ("state", .choice .networkState .fromObjects), ("traffictype", .choice .trafficType),
    ("type", .choice .guestIpType), ("networkofferingid", .optionalText),
    ("networkofferingname", .optionalText), ("networkofferingdisplaytext", .optionalText),
    ("networkofferingavailability", .optionalText), ("networkdomain", .optionalText),
    ("gateway", .optionalText .fromObjects), ("netmask", .optionalText .fromObjects),
    ("cidr", .optionalText .fromObjects), ("startip", .optionalText), ("endip", .optionalText),
    ("vlan", .optionalText .fromObjects), ("broadcastdomaintype", .optionalText),
    ("broadcasturi", .optionalText), ("dns1", .optionalText .fromObjects),
    ("dns2", .optionalText .fromObjects), ("isdefault", .scalar .flag), ("issystem", .scalar .flag),
    ("isshared", .scalar .flag), ("restartrequired", .scalar .flag),
    ("specifyipranges", .scalar .flag), ("acltype", .optionalText), ("vpcid", .optionalText),
    ("physicalnetworkid", .optionalText), ("service", .list networkService),
    ("tags", .list resourceTag)]

/-- An offering of networks. -/
def networkOffering : Kind :=
  .record "NetworkOffering" [
    ("id", .text), ("name", .optionalText .fromObjects), ("displaytext", .optionalText),
    ("traffictype", .choice .trafficType), ("guestiptype", .choice .guestIpType),
    ("availability", .optionalText .fromObjects), ("state", .choice .allocationState .fromObjects),
    ("isdefault", .scalar .flag), ("specifyvlan", .scalar .flag),
    ("specifyipranges", .scalar .flag), ("conservemode", .scalar .flag),
    ("networkrate", .scalar (.signed 32)), ("serviceofferingid", .optionalText),
    ("tags", .optionalText .fromObjects), ("service", .list networkService)]

/-- A rule that admits traffic to a public address. -/
def firewallRule : Kind :=
  .record "FirewallRule" [
    ("id", .text), ("protocol", .choice .firewallProtocol .fromObjects),
    ("startport", .scalar (.unsigned 16)), ("endport", .scalar (.unsigned 16)),
    ("ipaddressid", .optionalText), ("ipaddress", .optionalText), ("networkid", .optionalText),
    ("state", .choice .firewallRuleState .fromObjects), ("cidrlist", .optionalText),
    ("icmptype", .scalar (.signed 32)), ("icmpcode", .scalar (.signed 32)),
    ("tags", .list resourceTag)]

/-- A rule that forwards ports of a public address to a machine. -/
def portForwardingRule : Kind :=
  .record "PortForwardingRule" [
    ("id", .text), ("protocol", .choice .firewallProtocol .fromObjects),
    ("privateport", .scalar (.unsigned 16)), ("privateendport", .scalar (.unsigned 16)),
    ("publicport", .scalar (.unsigned 16)), ("publicendport", .scalar (.unsigned 16)),
    ("ipaddressid", .optionalText), ("ipaddress", .optionalText),
    ("virtualmachineid", .optionalText), ("virtualmachinename", .optionalText),
    ("virtualmachinedisplayname", .optionalText), ("vmguestip", .optionalText),
    ("state", .choice .firewallRuleState .fromObjects), ("cidrlist", .optionalText),
    ("tags", .list resourceTag)]

/-- A rule that spreads the load of a public port. -/
def loadBalancerRule : Kind :=
  .record "LoadBalancerRule" [
    ("id", .text), ("name", .optionalText .fromObjects),
    ("description", .optionalText .fromObjects),
    ("algorithm", .choice .loadBalancerAlgorithm .fromObjects), ("publicipid", .optionalText),
    ("publicip", .optionalText), ("publicport", .scalar (.unsigned 16)),
    ("privateport", .scalar (.unsigned 16)), ("networkid", .optionalText),
    ("zoneid", .optionalText), ("account", .optionalText .fromObjects),
    ("domain", .optionalText .fromObjects), ("domainid", .optionalText),
    ("state", .choice .loadBalancerState .fromObjects), ("cidrlist", .optionalText),
    ("tags", .list resourceTag)]

/-- A rule of a security group. -/
def ingressRule : Kind :=
  .record "IngressRule" [
    ("ruleid", .text), ("protocol", .optionalText .fromObjects),
    ("startport", .scalar (.unsigned 16)), ("endport", .scalar (.unsigned 16)),
    ("icmptype", .scalar (.signed 32)), ("icmpcode", .scalar (.signed 32)),
    ("cidr", .optionalText .fromObjects), ("account", .optionalText .fromObjects),
    ("securitygroupname", .optionalText)]

/-- A security group with its rules. -/
def securityGroup : Kind :=
  .record "SecurityGroup" [
    ("id", .text), ("name", .optionalText .fromObjects),
    ("description", .optionalText .fromObjects), ("account", .optionalText .fromObjects),
    ("domain", .optionalText .fromObjects), ("domainid", .optionalText), ("jobid", .optionalText),
    ("ingressrule", .list ingressRule), ("egressrule", .list ingressRule),
    ("tags", .list resourceTag)]

end Kind

end CloudControl.Schema
