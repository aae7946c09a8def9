import CloudControl.Options.Builder

/-!
# Options on accounts

The setters of the commands on accounts, users and domains.
-/

namespace CloudControl.Options

namespace Builder

open Setter

/-- Options for listing accounts. -/
def listAccounts : Builder where
  name := "listAccounts"
  setters :=
    paging ++ plain [
      ("id", "id"), ("name", "name"), ("state", "state"), ("domainId", "domainid"),
      ("isCleanupRequired", "iscleanuprequired"), ("isRecursive", "isrecursive"),
      ("listAll", "listall")] ++ [⟨"accountType", .plain "accounttype"⟩]

/-- Options for creating an account. -/
def createAccount : Builder where
  name := "createAccount"
  setters :=
    plain [
      ("account", "account"), ("accountId", "accountid"), ("domainId", "domainid"),
      ("networkDomain", "networkdomain"), ("roleId", "roleid"), ("timezone", "timezone"),
      ("userId", "userid")]

/-- Options for changing an account. -/
def updateAccount : Builder where
  name := "updateAccount"
  setters :=
    plain [
      ("id", "id"), ("newName", "newname"), ("networkDomain", "networkdomain"),
      ("roleId", "roleid")] ++ [accountInDomain]

/-- Options for listing users. -/
def listUsers : Builder where
  name := "listUsers"
  setters :=
    paging ++ plain [
      ("id", "id"), ("username", "username"), ("state", "state"), ("domainId", "domainid"),
      ("isRecursive", "isrecursive"), ("listAll", "listall")] ++
    [accountInDomain, ⟨"accountType", .plain "accounttype"⟩]

/-- Options for creating a user. -/
def createUser : Builder where
  name := "createUser"
  setters :=
    plain [
      ("domainId", "domainid"), ("timezone", "timezone"), ("userId", "userid")] ++
    [accountInDomain]

/-- Options for changing a user. -/
def updateUser : Builder where
  name := "updateUser"
  setters :=
    plain [
      ("email", "email"), ("firstName", "firstname"), ("lastName", "lastname"),
      ("password", "password"), ("timezone", "timezone"), ("username", "username"),
      ("userApiKey", "userapikey"), ("userSecretKey", "usersecretkey")]

/-- Options for listing domains. -/
def listDomains : Builder where
  name := "listDomains"
  setters :=
    paging ++ plain [
      ("id", "id"), ("name", "name"), ("level", "level"), ("listAll", "listall")]

end Builder

end CloudControl.Options
