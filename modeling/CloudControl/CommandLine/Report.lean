import CloudControl.Argument
import CloudControl.Job
import CloudControl.Number.ByteSize
import CloudControl.Schema.Record
import CloudControl.Table

/-!
# Reports

How entities are shown in text: the columns of their tables, the lines that describe one of them,
and the sentences that say what became of one. What is not known is shown as a hyphen.
-/

namespace CloudControl.CommandLine

open Schema

/-- The text of a field, if there is something to show. -/
def shown? : Value → Option String
  | .text s => s
  | .flag b => b.map Encoding.flagText
  | .whole i => i.map Text.Numeral.ofInt
  | .time t => t.map Timestamp.internetText
  | _ => none

/-- The text of the field with a name, if there is something to show. -/
def fieldText? (name : String) (r : Record) : Option String :=
  (r.lookup name).bind shown?

/-- A text, or a hyphen when there is none. -/
def cell (text? : Option String) : String :=
  text?.getD "-"

/-- The text of the field with a name, or a hyphen. -/
def fieldText (name : String) (r : Record) : String :=
  cell (fieldText? name r)

/-- A column of a table of entities. -/
structure Column where
  title : String
  text? : Record → Option String

namespace Column

/-- A column that shows a field. -/
def field (title name : String) : Column := ⟨title, fieldText? name⟩

/-- A column that shows the name of a code. -/
def codeName (title name : String) (e : CodeEnum) : Column :=
  ⟨title, fun r ↦ (r.code? name).map e.nameOf⟩

/-- A column that shows a number with a unit. -/
def measure (title name unit : String) : Column :=
  ⟨title, fun r ↦ (fieldText? name r).map (· ++ unit)⟩

end Column

/-- A table of entities. -/
def entityTable (columns : List Column) (records : List Record) : String :=
  Table.text (columns.map Column.title)
    (records.map fun r ↦ columns.map fun c ↦ cell (c.text? r))

open Column

def zoneColumns : List Column := [
  field "ID" "id", field "NAME" "name", field "NETWORK" "networktype",
  field "STATE" "allocationstate"]

def machineColumns : List Column := [
  field "ID" "id", field "NAME" "name", field "STATE" "state", field "ZONE" "zonename",
  ⟨"IP", Record.primaryAddress?⟩]

def volumeColumns : List Column := [
  field "ID" "id", field "NAME" "name", field "TYPE" "type",
  ⟨"SIZE", fun r ↦ (r.whole? "size").map fun n ↦ ByteSize.text n.toNat⟩,
  field "STATE" "state", field "VM" "vmname"]

def networkColumns : List Column := [
  field "ID" "id", field "NAME" "name", field "TYPE" "type", field "STATE" "state",
  field "CIDR" "cidr", field "ZONE" "zonename"]

def serviceOfferingColumns : List Column := [
  field "ID" "id", field "NAME" "name", field "CPUS" "cpunumber", measure "MEMORY" "memory" " MiB"]

def diskOfferingColumns : List Column := [
  field "ID" "id", field "NAME" "name", measure "SIZE" "disksize" " GB",
  field "CUSTOM" "iscustomized"]

def networkOfferingColumns : List Column := [
  field "ID" "id", field "NAME" "name", field "TYPE" "guestiptype", field "STATE" "state"]

def templateColumns : List Column := [
  field "ID" "id", field "NAME" "name", field "OS" "ostypename", field "READY" "isready",
  field "ZONE" "zonename"]

def snapshotColumns : List Column := [
  field "ID" "id", field "NAME" "name", field "VOLUME" "volumename", field "STATE" "state",
  field "CREATED" "created"]

def vmSnapshotColumns : List Column := [
  field "ID" "id", field "NAME" "name", field "TYPE" "type", field "STATE" "state",
  field "CURRENT" "current"]

def hostColumns : List Column := [
  field "ID" "id", field "NAME" "name", field "TYPE" "type", field "STATE" "state",
  field "RESOURCE" "resourcestate", field "ZONE" "zonename"]

def accountColumns : List Column := [
  field "ID" "id", field "NAME" "name", codeName "TYPE" "accounttype" .accountType,
  field "STATE" "state", field "DOMAIN" "domain"]

def usageColumns : List Column := [
  field "ACCOUNT" "account", codeName "TYPE" "usagetype" .usageType,
  field "DESCRIPTION" "description", field "USAGE" "usage"]

def usageTypeColumns : List Column := [
  ⟨"ID", fun r ↦ (r.code? "usagetypeid").map Text.Numeral.ofInt⟩,
  codeName "NAME" "usagetypeid" .usageType, field "DESCRIPTION" "description"]

/-- The lines that describe a machine. -/
def machineLines (r : Record) : List String := [
  "ID:       " ++ fieldText "id" r,
  "Name:     " ++ fieldText "name" r,
  "State:    " ++ fieldText "state" r,
  "Zone:     " ++ fieldText "zonename" r,
  "Template: " ++ fieldText "templatename" r,
  "Offering: " ++ fieldText "serviceofferingname" r,
  "CPUs:     " ++ fieldText "cpunumber" r,
  "Memory:   " ++ fieldText "memory" r ++ " MiB"] ++
  (r.records "nic").map fun nic ↦
    "NIC:      " ++ fieldText "networkname" nic ++ " " ++ fieldText "ipaddress" nic

/-- The lines that describe a network. -/
def networkLines (r : Record) : List String := [
  "ID:       " ++ fieldText "id" r,
  "Name:     " ++ fieldText "name" r,
  "State:    " ++ fieldText "state" r,
  "Type:     " ++ fieldText "type" r,
  "Traffic:  " ++ fieldText "traffictype" r,
  "Zone:     " ++ fieldText "zonename" r,
  "CIDR:     " ++ fieldText "cidr" r,
  "Gateway:  " ++ fieldText "gateway" r,
  "Offering: " ++ fieldText "networkofferingname" r]

/-- The lines that describe a job. -/
def jobLines (r : Record) : List String :=
  let job : Job := ⟨r⟩
  [ "Job:      " ++ job.id,
    "Status:   " ++ job.status.name,
    "Command:  " ++ fieldText "cmd" r,
    "Instance: " ++ fieldText "jobinstanceid" r] ++
  (job.error?.map fun e ↦ "Error:    " ++ e.message).toList

/-- The name and the identifier of an entity, after what it is. -/
def nameOf (noun : String) (r : Record) : String :=
  noun ++ " " ++ fieldText "name" r ++ " (" ++ fieldText "id" r ++ ")"

/-- Says in which state an entity is, as one of its fields tells. -/
def stateSentence (noun stateField : String) (r : Record) : String :=
  nameOf noun r ++ " is " ++ fieldText stateField r

/-- Says in which state a volume is and which machine uses it. -/
def volumeSentence (r : Record) : String :=
  stateSentence "Volume" "state" r ++ ", attached to " ++
    (fieldText? "vmname" r).getD "nothing"

/-- Says that a machine is as it was in a snapshot. -/
def revertSentence (snapshot : String) (r : Record) : String :=
  let name := (fieldText? "name" r).getD (fieldText "id" r)
  "Reverted virtual machine " ++ name ++ " to snapshot " ++ snapshot

end CloudControl.CommandLine
