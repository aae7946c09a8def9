import CloudControl.Schema.CodeEnums
import CloudControl.Schema.TextEnums

/-!
# Administration

Settings, limits, the audit trail, and metered usage.
-/

namespace CloudControl.Schema

namespace Kind

/-- A setting of the server. -/
def configurationEntry : Kind :=
  .record "ConfigurationEntry" [
    ("name", .text), ("category", .optionalText .fromObjects),
    ("value", .optionalText .fromObjects), ("description", .optionalText .fromObjects),
    ("scope", .optionalText .fromObjects), ("isdynamic", .scalar .flag)]

/-- What the server supports. -/
def capabilities : Kind :=
  .record "Capabilities" [
    ("cloudstackversion", .optionalText), ("securitygroupsenabled", .scalar .flag),
    ("userpublictemplateenabled", .scalar .flag), ("supportELB", .optionalText),
    ("firewallRuleUiEnabled", .scalar .flag), ("projectinviterequired", .scalar .flag),
    ("allowusercreateprojects", .scalar .flag),
    ("customdiskofferingmaxsize", .scalar (.unsigned 64)), ("kvmsnapshotenabled", .scalar .flag),
    ("apilimitinterval", .scalar (.unsigned 32)), ("apilimitmax", .scalar (.unsigned 32))]

/-- A limit on a resource. -/
def resourceLimit : Kind :=
  .record "ResourceLimit" [
    ("resourcetype", .code .resourceLimitType), ("max", .scalar (.signed 64)),
    ("account", .optionalText .fromObjects), ("domain", .optionalText .fromObjects),
    ("domainid", .optionalText), ("project", .optionalText .fromObjects),
    ("projectid", .optionalText)]

/-- An entry of the audit trail. -/
def event : Kind :=
  .record "Event" [
    ("id", .text), ("type", .optionalText), ("level", .choice .eventLevel .fromObjects),
    ("state", .choice .eventState .fromObjects), ("description", .optionalText .fromObjects),
    ("account", .optionalText .fromObjects), ("accountid", .optionalText),
    ("domain", .optionalText .fromObjects), ("domainid", .optionalText),
    ("username", .optionalText .fromObjects), ("parentid", .optionalText), ("created", .time)]

/-- The name of a type of events. -/
def eventType : Kind :=
  .record "EventType" [
    ("name", .text)]

/-- The metered usage of one resource. -/
def usageRecord : Kind :=
  .record "UsageRecord" [
    ("usageid", .optionalText), ("description", .optionalText .fromObjects),
    ("account", .optionalText .fromObjects), ("accountid", .optionalText),
    ("domain", .optionalText .fromObjects), ("domainid", .optionalText), ("zoneid", .optionalText),
    ("usagetype", .optionalCode .usageType), ("usage", .optionalText .fromObjects),
    ("rawusage", .scalar .decimal), ("virtualmachineid", .optionalText),
    ("name", .optionalText .fromObjects), ("offeringid", .optionalText),
    ("templateid", .optionalText), ("type", .optionalText), ("size", .scalar (.unsigned 64)),
    ("startdate", .time), ("enddate", .time), ("ipaddress", .optionalText),
    ("issourcenat", .scalar .flag), ("issystem", .scalar .flag)]

/-- A usage type with its description. -/
def usageTypeDescriptor : Kind :=
  .record "UsageTypeDescriptor" [
    ("usagetypeid", .code .usageType), ("description", .optionalText .fromObjects)]

end Kind

end CloudControl.Schema
