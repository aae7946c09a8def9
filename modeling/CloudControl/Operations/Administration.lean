import CloudControl.Catalog.Administration
import CloudControl.Options.Administration
import CloudControl.Schema.Administration
import CloudControl.Schema.Tags
import CloudControl.Operations.Basic

/-!
# Administrative operations

What can be done with jobs, settings, events, limits, sessions, tags and usage.
-/

namespace CloudControl.Operation

open Slot

def listAsyncJobs : Operation where
  name := "listAsyncJobs"
  command := .listAsyncJobs
  options := some .listAsyncJobs
  result := .items .asyncJob

def getAsyncJob : Operation where
  name := "getAsyncJob"
  command := .queryAsyncJobResult
  slots := [text "id" "jobid"]
  result := .first .asyncJob

def listCapabilities : Operation where
  name := "listCapabilities"
  command := .listCapabilities
  result := .object .capabilities

def listConfigurationEntries : Operation where
  name := "listConfigurationEntries"
  command := .listConfigurationEntries
  options := some .listConfigurationEntries
  result := .items .configurationEntry

def updateConfigurationEntry : Operation where
  name := "updateConfigurationEntry"
  command := .updateConfigurationEntry
  slots := [text "name" "name", text "value" "value"]
  result := .object .configurationEntry

def listEventTypes : Operation where
  name := "listEventTypes"
  command := .listEventTypes
  result := .items .eventType

def listEvents : Operation where
  name := "listEvents"
  command := .listEvents
  options := some .listEvents
  result := .items .event

def listResourceLimits : Operation where
  name := "listResourceLimits"
  command := .listResourceLimits
  options := some .listResourceLimits
  result := .items .resourceLimit

def updateResourceLimit : Operation where
  name := "updateResourceLimit"
  command := .updateResourceLimit
  slots := [
    number "resourceType" "resourcetype", number "max" "max", text "domainId" "domainid",
    optional "account" "account"]
  result := .object .resourceLimit

def logout : Operation where
  name := "logout"
  command := .logout
  result := .done

def listTags : Operation where
  name := "listTags"
  command := .listTags
  options := some .listTags
  result := .items .tag

def createTags : Operation where
  name := "createTags"
  command := .createTags
  slots := [
    choice "resourceType" .resourceTagType "resourcetype", joined "ids" "resourceids",
    ⟨"tags", .indexed "tags" "key" "value", none⟩]
  options := some .createTags
  optionsWin := true
  result := .job

def deleteTags : Operation where
  name := "deleteTags"
  command := .deleteTags
  slots := [choice "resourceType" .resourceTagType "resourcetype", joined "ids" "resourceids"]
  options := some .deleteTags
  optionsWin := true
  result := .job

def listUsageRecords : Operation where
  name := "listUsageRecords"
  command := .listUsageRecords
  slots := [date "start" "startdate", date "end" "enddate"]
  options := some .listUsageRecords
  optionsWin := true
  result := .items .usageRecord

def generateUsageRecords : Operation where
  name := "generateUsageRecords"
  command := .generateUsageRecords
  slots := [date "start" "startdate", date "end" "enddate"]
  result := .object .successResponse

def listUsageTypes : Operation where
  name := "listUsageTypes"
  command := .listUsageTypes
  result := .items .usageTypeDescriptor

end CloudControl.Operation
