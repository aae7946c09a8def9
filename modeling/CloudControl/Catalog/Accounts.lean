import CloudControl.Catalog.Command

/-!
# Commands on accounts

The commands on accounts, users and domains.
-/

namespace CloudControl

namespace Command

def listAccounts : Command := listsAll "listAccounts" "account"

def getAccount : Command := findsInAll "listAccounts" "account"

def createAccount : Command := postsTo "createAccount" "account"

def updateAccount : Command := answers "updateAccount" "account"

def deleteAccount : Command := starts "deleteAccount"

def enableAccount : Command := answers "enableAccount" "account"

def disableAccount : Command := starts "disableAccount"

def lockAccount : Command := answers "lockAccount" "account"

def listUsers : Command := listsAll "listUsers" "user"

def getUser : Command := findsInAll "listUsers" "user"

def createUser : Command := postsTo "createUser" "user"

def updateUser : Command := postsTo "updateUser" "user"

def deleteUser : Command := removes "deleteUser"

def enableUser : Command := answers "enableUser" "user"

def disableUser : Command := starts "disableUser"

def registerUserKeys : Command := answers "registerUserKeys" "userkeys"

def listDomains : Command := listsAll "listDomains" "domain"

def getDomain : Command := findsInAll "listDomains" "domain"

def listDomainChildren : Command := lists "listDomainChildren" "domain"

end Command

namespace CommandGroup

open Command

/-- The group "account". -/
def accountCommands : CommandGroup :=
  ⟨"account", [
    listAccounts, getAccount, createAccount, updateAccount, deleteAccount, enableAccount,
    disableAccount, lockAccount]⟩

/-- The group "user". -/
def userCommands : CommandGroup :=
  ⟨"user", [
    listUsers, getUser, createUser, updateUser, deleteUser, enableUser, disableUser,
    registerUserKeys]⟩

/-- The group "domain". -/
def domainCommands : CommandGroup :=
  ⟨"domain", [listDomains, getDomain, listDomainChildren]⟩

end CommandGroup

end CloudControl
