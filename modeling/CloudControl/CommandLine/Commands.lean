import CloudControl.CommandLine.Task
import CloudControl.CommandLine.Words
import CloudControl.Operations.Table
import CloudControl.Options.Builders
import CloudControl.Profiles.Command

/-!
# The commands

Each command has names, options, and a way to read its words: as a command on profiles, or as a
task for the server. Commands stand in groups, except the one that sends any command.
-/

namespace CloudControl.CommandLine

open Words

/-- What a command line asks for. -/
inductive Instruction where
  | profile (command : ProfileCommand)
  | task (task : Task)

/-- A command, under its names. -/
structure Leaf where
  names : List String
  options : List OptionSpec
  /-- The greatest number of operands, if there is one. -/
  operands : Option Nat := some 0
  read : Words → Except UsageError Instruction

/-- A command, or a group of commands. -/
inductive Entry where
  | leaf (leaf : Leaf)
  | group (name : String) (leaves : List Leaf)

/-- The names of an entry. -/
def Entry.names : Entry → List String
  | leaf l => l.names
  | group name _ => [name]

/-! ## Options that commands share -/

/-- A switch with its first letter. -/
def lettered (name : String) (letter : Char) : OptionSpec :=
  { OptionSpec.switch name with letter := some letter }

/-- The options of a command that starts a job. -/
def waitOptions : List OptionSpec :=
  [lettered "wait" 'w', .value "poll-interval" (.natural 1), .value "wait-timeout" (.natural 0)]

/-- The seconds between two questions about a job, unless told otherwise. -/
def usualInterval : Nat := 2

/-- The seconds that a job is waited for, unless told otherwise. -/
def usualTimeout : Nat := 600

/-- How to wait for a job, where the option with a name gives the longest time. -/
def readJobWait (w : Words) (timeoutOption : String) : Except UsageError JobWait := do
  let interval := (← w.natural "poll-interval").getD usualInterval
  let timeout := (← w.natural timeoutOption).getD usualTimeout
  return .ofNanos (interval * Span.second) (timeout * Span.second)

/-- How to wait for a job, if it is waited for at all. -/
def readWait (w : Words) : Except UsageError (Option JobWait) := do
  let wait ← readJobWait w "wait-timeout"
  return if w.has "wait" then some wait else none

/-- Sets an option of an operation to the value of an option of the command, if it is given. -/
def setGiven (w : Words) (b : Options.Builder) (option setter : String) (p : Params) : Params :=
  match w.value? option with
  | some value => b.call setter (.text value) p
  | none => p

/-- Sets an option of an operation to the values of options of the command, where given. -/
def givenParams (w : Words) (b : Options.Builder) (options : List (String × String)) : Params :=
  options.foldl (fun p (option, setter) ↦ setGiven w b option setter p) ∅

/-- A task that starts a job on the entity with an identifier. -/
def jobOn (o : Operation) (id : String) (wait : Option JobWait) (kind : Schema.Kind)
    (sentence : Schema.Record → String) : Instruction :=
  .task (.job ⟨o, [("id", .text id)], ∅⟩ wait (fun _ ↦ none) kind sentence)

/-- A command that lists entities, with options that select some of them. -/
def listLeaf (names : List String) (o : Operation) (b : Options.Builder)
    (options : List (String × String)) (columns : List Column) : Leaf where
  names := names
  options := options.map fun (option, _) ↦ .value option
  read w := return .task (.list ⟨o, [], givenParams w b options⟩ columns)

/-- The names of the commands that list entities. -/
def listNames : List String := ["list", "ls"]

/-! ## Profiles -/

def profileLeaves : List Leaf := [
  { names := listNames, options := []
    read := fun _ ↦ return .profile .list },
  { names := ["get"], options := [], operands := some 1
    read := fun w ↦ return .profile (.get w.operands.head?) },
  { names := ["create"]
    options := [.value "url", .value "api-key", .value "secret-key", .switch "current"]
    operands := some 1
    read := fun w ↦
      return .profile (.create w.operands.head? (w.value? "url") (w.value? "api-key")
        (w.value? "secret-key") (w.has "current")) },
  { names := ["delete", "rm"], options := [lettered "force" 'f'], operands := none
    read := fun w ↦ return .profile (.delete w.operands (w.has "force")) },
  { names := ["set-current"], options := [], operands := some 1
    read := fun w ↦ return .profile (.setCurrent (← w.one)) }]

/-! ## Machines -/

/-- Says what a machine has become. -/
def machineSentence : Schema.Record → String := stateSentence "Virtual machine" "state"

/-- A command that starts a job on a machine. -/
def machineLeaf (names : List String) (o : Operation) : Leaf where
  names := names
  options := waitOptions
  operands := some 1
  read w := return jobOn o (← w.one) (← readWait w) .virtualMachine machineSentence

/-- Says which machine is being deployed. -/
def deployAnnouncement? (started : Schema.Record) : Option String :=
  (fieldText? "id" started).map ("Deploying virtual machine " ++ ·)

def listMachines : Leaf where
  names := listNames
  options := [.value "zone", .value "state", .value "name",
    .value "page-size" (.integer 0 Pagination.maxPage)]
  read w := do
    let options := givenParams w .listVirtualMachines
      [("zone", "zoneId"), ("state", "state"), ("name", "name")]
    let call : Call := ⟨.listVirtualMachines, [], options⟩
    match ← w.integer "page-size" with
    | some size => return .task (.pages call .virtualMachine size.toNat machineColumns)
    | none => return .task (.list call machineColumns)

def getMachine : Leaf where
  names := ["get"]
  options := []
  operands := some 1
  read w := do
    let id ← w.one
    return .task (.entity ⟨.getVirtualMachine, [("id", .text id)], ∅⟩ "Virtual machine" id
      machineLines)

def deployMachine : Leaf where
  names := ["deploy"]
  options := [.value "zone", .value "offering", .value "template", .value "name",
    { OptionSpec.value "network" with repeats := true }, .switch "no-start"] ++ waitOptions
  read w := do
    let zone ← w.required "zone"
    let offering ← w.required "offering"
    let template ← w.required "template"
    let wait ← readWait w
    let b := Options.Builder.deployVirtualMachine
    let networks := (w.values "network").flatMap fun s ↦
      (s.toList.splitOn ',').map String.ofList
    let options := setGiven w b "name" "name" ∅
    let options := if networks.isEmpty then options
      else b.call "networkIds" (.texts networks) options
    let options := if w.has "no-start" then b.call "startVm" (.flag false) options else options
    let args := [("zoneId", .text zone), ("serviceOfferingId", .text offering),
      ("templateId", .text template)]
    return .task (.job ⟨.deployVirtualMachine, args, options⟩ wait deployAnnouncement?
      .virtualMachine machineSentence)

def stopMachine : Leaf where
  names := ["stop"]
  options := lettered "force" 'f' :: waitOptions
  operands := some 1
  read w := do
    let id ← w.one
    let b := Options.Builder.stopVirtualMachine
    let options := if w.has "force" then b.call "forced" (.flag true) ∅ else ∅
    return .task (.job ⟨.stopVirtualMachine, [("id", .text id)], options⟩ (← readWait w)
      (fun _ ↦ none) .virtualMachine machineSentence)

def destroyMachine : Leaf where
  names := ["destroy", "rm"]
  options := .switch "expunge" :: waitOptions
  operands := some 1
  read w := do
    let args := [("id", .text (← w.one)), ("expunge", .flag (w.has "expunge"))]
    return .task (.job ⟨.destroyVirtualMachine, args, ∅⟩ (← readWait w) (fun _ ↦ none)
      .virtualMachine machineSentence)

def machineLeaves : List Leaf := [
  listMachines, getMachine, deployMachine, machineLeaf ["start"] .startVirtualMachine,
  stopMachine, machineLeaf ["reboot"] .rebootVirtualMachine, destroyMachine]

/-! ## Snapshots of machines -/

def createMachineSnapshot : Leaf where
  names := ["create"]
  options := [.value "name", .switch "memory"] ++ waitOptions
  operands := some 1
  read w := do
    let id ← w.one
    let b := Options.Builder.createVmSnapshot
    let options := setGiven w b "name" "name" ∅
    let options := if w.has "memory" then b.call "snapshotMemory" (.flag true) options else options
    return .task (.job ⟨.createVmSnapshot, [("id", .text id)], options⟩ (← readWait w)
      (fun _ ↦ none) .vmSnapshot (stateSentence "VM snapshot" "state"))

def machineSnapshotLeaves : List Leaf := [
  listLeaf listNames .listVmSnapshots .listVmSnapshot [("vm", "virtualMachineId")]
    vmSnapshotColumns,
  createMachineSnapshot,
  { names := ["revert"], options := waitOptions, operands := some 1
    read := fun w ↦ do
      let id ← w.one
      return jobOn .revertToVmSnapshot id (← readWait w) .virtualMachine (revertSentence id) },
  { names := ["delete", "rm"], options := waitOptions, operands := some 1
    read := fun w ↦ do
      let id ← w.one
      return .task (.chore ⟨.deleteVmSnapshot, [("id", .text id)], ∅⟩ (← readWait w)
        ("Deleted VM snapshot " ++ id)) }]

/-! ## Storage -/

def createVolume : Leaf where
  names := ["create"]
  options := [.value "zone", .value "disk-offering", .value "size" (.natural 0)] ++ waitOptions
  operands := some 1
  read w := do
    let name ← w.one
    let _ ← w.required "zone"
    let _ ← w.required "disk-offering"
    let size? ← w.natural "size"
    let b := Options.Builder.createVolume
    let options := givenParams w b [("zone", "zoneId"), ("disk-offering", "diskOfferingId")]
    let options := match size? with
      | some size => b.call "size" (.whole size) options
      | none => options
    return .task (.job ⟨.createVolume, [("name", .text name)], options⟩ (← readWait w)
      (fun _ ↦ none) .volume volumeSentence)

def attachVolume : Leaf where
  names := ["attach"]
  options := waitOptions
  operands := some 2
  read w := do
    let (id, machine) ← w.two
    let args := [("id", .text id), ("virtualMachineId", .text machine)]
    return .task (.job ⟨.attachVolume, args, ∅⟩ (← readWait w) (fun _ ↦ none) .volume
      volumeSentence)

def volumeLeaves : List Leaf := [
  listLeaf listNames .listVolumes .listVolumes [("vm", "virtualMachineId"), ("zone", "zoneId")]
    volumeColumns,
  createVolume, attachVolume,
  { names := ["detach"], options := waitOptions, operands := some 1
    read := fun w ↦ return jobOn .detachVolume (← w.one) (← readWait w) .volume volumeSentence },
  { names := ["delete", "rm"], options := [], operands := some 1
    read := fun w ↦ do
      let id ← w.one
      return .task (.order ⟨.deleteVolume, [("id", .text id)], ∅⟩ ("Deleted volume " ++ id)) }]

def createSnapshot : Leaf where
  names := ["create"]
  options := .value "name" :: waitOptions
  operands := some 1
  read w := do
    let volume ← w.one
    let options := givenParams w .createSnapshot [("name", "name")]
    return .task (.job ⟨.createSnapshot, [("volumeId", .text volume)], options⟩ (← readWait w)
      (fun _ ↦ none) .snapshot (stateSentence "Snapshot" "state"))

def snapshotLeaves : List Leaf := [
  listLeaf listNames .listSnapshots .listSnapshots [("volume", "volumeId")] snapshotColumns,
  createSnapshot]

/-- The filter of templates, unless told otherwise. -/
def usualFilter : String := "executable"

def listTemplates : Leaf where
  names := listNames
  options := [.value "filter", .value "zone"]
  read w := do
    let filter := (w.value? "filter").getD usualFilter
    let b := Options.Builder.listTemplates
    let options := setGiven w b "zone" "zoneId" (b.call "filter" (.text filter) ∅)
    return .task (.list ⟨.listTemplates, [], options⟩ templateColumns)

/-! ## Sites, networks and offerings -/

def listZones : Leaf where
  names := listNames
  options := [.switch "available"]
  read w := do
    let b := Options.Builder.listZones
    let options := if w.has "available" then b.call "available" (.flag true) ∅ else ∅
    return .task (.list ⟨.listZones, [], options⟩ zoneColumns)

def networkLeaves : List Leaf := [
  listLeaf listNames .listNetworks .listNetworks [("zone", "zoneId")] networkColumns,
  { names := ["get"], options := [], operands := some 1
    read := fun w ↦ do
      let id ← w.one
      return .task (.entity ⟨.getNetwork, [("id", .text id)], ∅⟩ "Network" id networkLines) }]

def offeringLeaves : List Leaf := [
  listLeaf ["service"] .listServiceOfferings .listServiceOfferings [] serviceOfferingColumns,
  listLeaf ["disk"] .listDiskOfferings .listDiskOfferings [("zone", "zoneId")]
    diskOfferingColumns,
  listLeaf ["network"] .listNetworkOfferings .listNetworkOfferings [("zone", "zoneId")]
    networkOfferingColumns]

/-- A command that starts a job on a host. -/
def hostLeaf (name : String) (o : Operation) : Leaf where
  names := [name]
  options := waitOptions
  operands := some 1
  read w := return jobOn o (← w.one) (← readWait w) .host (stateSentence "Host" "resourcestate")

def hostLeaves : List Leaf := [
  listLeaf listNames .listHosts .listHosts [("zone", "zoneId"), ("type", "hostType")] hostColumns,
  hostLeaf "maintenance" .prepareHostForMaintenance,
  hostLeaf "cancel-maintenance" .cancelHostMaintenance]

/-! ## Administration -/

def listUsage : Leaf where
  names := listNames
  options := [.value "start" .date, .value "end" .date,
    .value "type" (.integer (Text.Numeral.minSigned 64) (Text.Numeral.maxSigned 64))]
  read w := do
    let first ← w.date "start"
    let last ← w.date "end"
    let type? ← w.integer "type"
    let options := match type? with
      | some code => Options.Builder.listUsageRecords.call "usageType" (.whole code) ∅
      | none => ∅
    if last.before first then return .task (.refuse .endBeforeStart)
    else return .task (.list ⟨.listUsageRecords, [("start", .date first), ("end", .date last)],
      options⟩ usageColumns)

def usageLeaves : List Leaf := [
  listUsage,
  { names := ["generate"], options := [.value "start" .date, .value "end" .date]
    read := fun w ↦ return .task (.generateUsage (← w.date "start") (← w.date "end")) },
  { names := ["types"], options := []
    read := fun _ ↦ return .task (.list ⟨.listUsageTypes, [], ∅⟩ usageTypeColumns) }]

def jobLeaves : List Leaf := [
  { names := ["get"], options := [], operands := some 1
    read := fun w ↦ do
      let id ← w.one
      return .task (.entity ⟨.getAsyncJob, [("id", .text id)], ∅⟩ "Job" id jobLines) },
  { names := ["wait"]
    options := [.value "poll-interval" (.natural 1), .value "timeout" (.natural 0)]
    operands := some 1
    read := fun w ↦ return .task (.awaitJob (← w.one) (← readJobWait w "timeout")) }]

/-- Adds a parameter that is given as a name and a value with an equals sign between them. -/
def addPair (p : Params) (pair : String) : Except TaskError Params :=
  let cs := pair.toList
  match cs.takeWhile (· != '='), cs.dropWhile (· != '=') with
  | _, [] => .error (.malformedPair pair)
  | [], _ => .error (.emptyName pair)
  | name, _ :: value => .ok (p.set (String.ofList name) (String.ofList value))

def sendAny : Leaf where
  names := ["api"]
  options := []
  operands := none
  read w := do
    let (command, pairs) ← w.oneOrMore
    match pairs.foldlM addPair ∅ with
    | .ok params => return .task (.raw command params)
    | .error e => return .task (.refuse e)

/-! ## Every command -/

/-- Every command and group. -/
def entries : List Entry := [
  .group "profile" profileLeaves,
  .group "zone" [listZones],
  .group "vm" machineLeaves,
  .group "volume" volumeLeaves,
  .group "network" networkLeaves,
  .group "offering" offeringLeaves,
  .group "template" [listTemplates],
  .group "snapshot" snapshotLeaves,
  .group "vmsnapshot" machineSnapshotLeaves,
  .group "host" hostLeaves,
  .group "account" [listLeaf listNames .listAccounts .listAccounts [("name", "name")]
    accountColumns],
  .group "usage" usageLeaves,
  .group "job" jobLeaves,
  .leaf sendAny]

end CloudControl.CommandLine
