import CloudControl.Catalog.Accounts
import CloudControl.Options.Accounts
import CloudControl.Schema.Accounts
import CloudControl.Operations.Basic

/-!
# Operations on accounts

What can be done with accounts, users and domains.
-/

namespace CloudControl.Operation

open Slot

def listAccounts : Operation where
  name := "listAccounts"
  command := .listAccounts
  options := some .listAccounts
  result := .items .account

def getAccount : Operation where
  name := "getAccount"
  command := .getAccount
  slots := [text "id" "id"]
  result := .first .account

def createAccount : Operation where
  name := "createAccount"
  command := .createAccount
  slots := [
    text "username" "username", text "password" "password", text "email" "email",
    text "firstName" "firstname", text "lastName" "lastname", number "accountType" "accounttype"]
  options := some .createAccount
  optionsWin := true
  result := .object .account

def updateAccount : Operation where
  name := "updateAccount"
  command := .updateAccount
  options := some .updateAccount
  result := .object .account

def deleteAccount : Operation where
  name := "deleteAccount"
  command := .deleteAccount
  slots := [text "id" "id"]
  result := .job

def enableAccount : Operation where
  name := "enableAccount"
  command := .enableAccount
  slots := [text "id" "id"]
  result := .object .account

def disableAccount : Operation where
  name := "disableAccount"
  command := .disableAccount
  slots := [text "id" "id", flag "lock" "lock"]
  result := .job

def lockAccount : Operation where
  name := "lockAccount"
  command := .lockAccount
  slots := [text "account" "account", text "domainId" "domainid"]
  result := .object .account

def listUsers : Operation where
  name := "listUsers"
  command := .listUsers
  options := some .listUsers
  result := .items .user

def getUser : Operation where
  name := "getUser"
  command := .getUser
  slots := [text "id" "id"]
  result := .first .user

def createUser : Operation where
  name := "createUser"
  command := .createUser
  slots := [
    text "username" "username", text "password" "password", text "email" "email",
    text "firstName" "firstname", text "lastName" "lastname", text "account" "account"]
  options := some .createUser
  optionsWin := true
  result := .object .user

def updateUser : Operation where
  name := "updateUser"
  command := .updateUser
  slots := [text "id" "id"]
  options := some .updateUser
  result := .object .user

def deleteUser : Operation where
  name := "deleteUser"
  command := .deleteUser
  slots := [text "id" "id"]
  result := .done

def enableUser : Operation where
  name := "enableUser"
  command := .enableUser
  slots := [text "id" "id"]
  result := .object .user

def disableUser : Operation where
  name := "disableUser"
  command := .disableUser
  slots := [text "id" "id"]
  result := .job

def registerUserKeys : Operation where
  name := "registerUserKeys"
  command := .registerUserKeys
  slots := [text "id" "id"]
  result := .object .apiKeyPair

def listDomains : Operation where
  name := "listDomains"
  command := .listDomains
  options := some .listDomains
  result := .items .domain

def getDomain : Operation where
  name := "getDomain"
  command := .getDomain
  slots := [text "id" "id"]
  result := .first .domain

def listDomainChildren : Operation where
  name := "listDomainChildren"
  command := .listDomainChildren
  slots := [flag "recursive" "isrecursive", optional "id" "id"]
  result := .items .domain

end CloudControl.Operation
