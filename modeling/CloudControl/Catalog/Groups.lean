import CloudControl.Catalog.Accounts
import CloudControl.Catalog.Administration
import CloudControl.Catalog.Machines
import CloudControl.Catalog.Networks
import CloudControl.Catalog.Sites
import CloudControl.Catalog.Storage
import CloudControl.Text.Ascii

/-!
# The catalogue

`Catalog.groups` lists every group of commands, and `Catalog.lookup?` finds a command by its
name in any letter case. Of several commands sent under one name it finds the first, which lists
items where another one looks up a single item.
-/

namespace CloudControl.Catalog

open CommandGroup in
/-- Every group of commands. -/
def groups : List CommandGroup := [
  accountCommands, userCommands, domainCommands, addressCommands, vlanCommands, asyncJobCommands,
  configurationCommands, eventCommands, limitCommands, sessionCommands, tagCommands,
  usageCommands, sshKeyPairCommands, virtualMachineCommands, vmSnapshotCommands, clusterCommands,
  hostCommands, podCommands, storagePoolCommands, zoneCommands, firewallCommands,
  loadBalancerCommands, networkCommands, offeringCommands, securityGroupCommands,
  guestOsCommands, snapshotCommands, templateCommands, volumeCommands]

/-- Every command, in the order of the groups. -/
def commands : List Command :=
  groups.flatMap CommandGroup.commands

/-- The group with a name. -/
def group? (name : String) : Option CommandGroup :=
  groups.find? (·.name == name)

/-- The first command that is sent under a name, in any letter case. -/
def lookup? (name : String) : Option Command :=
  commands.find? fun c ↦ Text.eqFolded c.name name

end CloudControl.Catalog
