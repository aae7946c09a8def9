import CloudControl.Catalog.Command

/-!
# Administrative commands

The commands on jobs, settings, events, limits, sessions, tags and usage.
-/

namespace CloudControl

namespace Command

def listAsyncJobs : Command := listsAll "listAsyncJobs" "asyncjobs"

def queryAsyncJobResult : Command :=
  { get "queryAsyncJobResult" with fallback := .noneWhenNotFound }

def listCapabilities : Command := answers "listCapabilities" "capability"

def listConfigurationEntries : Command := lists "listConfigurations" "configuration"

def updateConfigurationEntry : Command := answers "updateConfiguration" "configuration"

def listEventTypes : Command := lists "listEventTypes" "eventtype"

def listEvents : Command := listsAll "listEvents" "event"

def listResourceLimits : Command := listsAll "listResourceLimits" "resourcelimit"

def updateResourceLimit : Command := answers "updateResourceLimit" "resourcelimit"

def login : Command := post "login"

def logout : Command := get "logout"

def listTags : Command := listsAll "listTags" "tag"

def createTags : Command := starts "createTags"

def deleteTags : Command := starts "deleteTags"

def listUsageRecords : Command := lists "listUsageRecords" "usagerecord"

def generateUsageRecords : Command := get "generateUsageRecords"

def listUsageTypes : Command := lists "listUsageTypes" "usagetype"

end Command

namespace CommandGroup

open Command

/-- The group "async job". -/
def asyncJobCommands : CommandGroup :=
  ⟨"async job", [listAsyncJobs, queryAsyncJobResult]⟩

/-- The group "configuration". -/
def configurationCommands : CommandGroup :=
  ⟨"configuration", [listCapabilities, listConfigurationEntries, updateConfigurationEntry]⟩

/-- The group "event". -/
def eventCommands : CommandGroup :=
  ⟨"event", [listEventTypes, listEvents]⟩

/-- The group "limit". -/
def limitCommands : CommandGroup :=
  ⟨"limit", [listResourceLimits, updateResourceLimit]⟩

/-- The group "session". -/
def sessionCommands : CommandGroup :=
  ⟨"session", [login, logout]⟩

/-- The group "tag". -/
def tagCommands : CommandGroup :=
  ⟨"tag", [listTags, createTags, deleteTags]⟩

/-- The group "usage". -/
def usageCommands : CommandGroup :=
  ⟨"usage", [listUsageRecords, generateUsageRecords, listUsageTypes]⟩

end CommandGroup

end CloudControl
