import CloudControl.Options.Builder

/-!
# Options of administrative commands

The setters of the commands on jobs, settings, limits, events, tags and usage.
-/

namespace CloudControl.Options

namespace Builder

open Setter

/-- Options for listing jobs. -/
def listAsyncJobs : Builder where
  name := "listAsyncJobs"
  setters :=
    paging ++ plain [("isRecursive", "isrecursive"), ("listAll", "listall")] ++
    [accountInDomain, ⟨"startDate", .time "startdate"⟩]

/-- Options for listing configuration entries. -/
def listConfigurationEntries : Builder where
  name := "listConfigurationEntries"
  setters :=
    paging ++ plain [
      ("name", "name"), ("category", "category"), ("accountId", "accountid"),
      ("clusterId", "clusterid"), ("storageId", "storageid"), ("zoneId", "zoneid")]

/-- Options for listing resource limits. -/
def listResourceLimits : Builder where
  name := "listResourceLimits"
  setters :=
    paging ++ plain [
      ("id", "id"), ("isRecursive", "isrecursive"), ("listAll", "listall"),
      ("projectId", "projectid")] ++ [accountInDomain, ⟨"resourceType", .plain "resourcetype"⟩]

/-- Options for listing events. -/
def listEvents : Builder where
  name := "listEvents"
  setters :=
    paging ++ plain [
      ("id", "id"), ("eventType", "type"), ("level", "level"), ("duration", "duration"),
      ("entryTime", "entrytime"), ("isRecursive", "isrecursive"), ("listAll", "listall"),
      ("projectId", "projectid")] ++
    [accountInDomain, ⟨"startDate", .time "startdate"⟩, ⟨"endDate", .time "enddate"⟩]

/-- Options for listing tags. -/
def listTags : Builder where
  name := "listTags"
  setters :=
    paging ++ plain [
      ("key", "key"), ("value", "value"), ("resourceId", "resourceid"),
      ("resourceType", "resourcetype"), ("customer", "customer"),
      ("isRecursive", "isrecursive"), ("listAll", "listall"), ("projectId", "projectid")] ++
    [accountInDomain]

/-- Options for creating tags. -/
def createTags : Builder where
  name := "createTags"
  setters := plain [("customer", "customer")]

/-- Options for deleting tags. -/
def deleteTags : Builder where
  name := "deleteTags"
  setters := [tags]

/-- Options for listing usage records. -/
def listUsageRecords : Builder where
  name := "listUsageRecords"
  setters :=
    paging ++ plain [("accountId", "accountid"), ("projectId", "projectid")] ++
    [accountInDomain, ⟨"usageType", .plain "type"⟩]

end Builder

end CloudControl.Options
