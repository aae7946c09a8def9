import CloudControl.Schema.CodeEnums
import CloudControl.Schema.TextEnums

/-!
# Accounts

Who owns resources, and what a login answers.
-/

namespace CloudControl.Schema

namespace Kind

/-- A user of an account. -/
def user : Kind :=
  .record "User" [
    ("id", .text), ("username", .optionalText .fromObjects), ("firstname", .optionalText),
    ("lastname", .optionalText), ("email", .optionalText .fromObjects), ("created", .time),
    ("state", .choice .userState .fromObjects), ("account", .optionalText .fromObjects),
    ("accountid", .optionalText), ("accounttype", .optionalCode .accountType),
    ("domain", .optionalText .fromObjects), ("domainid", .optionalText),
    ("timezone", .optionalText .fromObjects), ("apikey", .optionalText),
    ("secretkey", .optionalText), ("iscallerchilddomain", .scalar .flag),
    ("isdefault", .scalar .flag)]

/-- An account with its resource usage. -/
def account : Kind :=
  .record "Account" [
    ("id", .text), ("name", .optionalText .fromObjects),
    ("accounttype", .optionalCode .accountType), ("domainid", .optionalText),
    ("domain", .optionalText .fromObjects), ("networkdomain", .optionalText),
    ("state", .choice .accountState .fromObjects), ("roleid", .optionalText),
    ("rolename", .optionalText), ("receivedbytes", .scalar (.unsigned 64)),
    ("sentbytes", .scalar (.unsigned 64)), ("vmlimit", .optionalText),
    ("vmtotal", .scalar (.signed 64)), ("vmavailable", .optionalText),
    ("vmrunning", .scalar (.signed 64)), ("vmstopped", .scalar (.signed 64)),
    ("iplimit", .optionalText), ("iptotal", .scalar (.signed 64)), ("ipavailable", .optionalText),
    ("volumelimit", .optionalText), ("volumetotal", .scalar (.signed 64)),
    ("volumeavailable", .optionalText), ("snapshotlimit", .optionalText),
    ("snapshottotal", .scalar (.signed 64)), ("snapshotavailable", .optionalText),
    ("templatelimit", .optionalText), ("templatetotal", .scalar (.signed 64)),
    ("templateavailable", .optionalText), ("isdefault", .scalar .flag), ("user", .list user)]

/-- The keys of a user. -/
def apiKeyPair : Kind :=
  .record "ApiKeyPair" [
    ("apikey", .text), ("secretkey", .text)]

/-- A domain of accounts. -/
def domain : Kind :=
  .record "Domain" [
    ("id", .text), ("name", .optionalText .fromObjects), ("path", .optionalText .fromObjects),
    ("level", .scalar (.unsigned 32)), ("parentdomainid", .optionalText),
    ("parentdomainname", .optionalText), ("haschild", .scalar .flag),
    ("networkdomain", .optionalText)]

/-- The reply to a login. -/
def loginResponse : Kind :=
  .record "LoginResponse" [
    ("sessionkey", .text), ("username", .optionalText .fromObjects), ("userid", .optionalText),
    ("account", .optionalText), ("domainid", .optionalText), ("type", .optionalCode .accountType),
    ("firstname", .optionalText), ("lastname", .optionalText),
    ("timezone", .optionalText .fromObjects), ("timezoneoffset", .optionalText),
    ("timeout", .scalar (.unsigned 64)), ("registered", .scalar .flag)]

end Kind

end CloudControl.Schema
