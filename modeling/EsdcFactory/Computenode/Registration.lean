import EsdcFactory.Lib.BashArith
import EsdcFactory.Lib.Interleave
import EsdcFactory.Computenode.Settings
import EsdcFactory.Headnode.SetupFacts

/-!
# Registration of compute nodes

At the end of `pull_cfgdb_data` a compute node removes what the configuration database
has below its UUID, and makes these nodes anew.  Any number of compute nodes do so at
the same time, and each of them may be rebooted at any point and start over.
-/

namespace EsdcFactory
namespace Computenode

open Installer Interleave
open Headnode (Path creater creater_eq_none_iff)

/-!
## The script
-/

abbrev Store := Path -> Option (List Char)

/-- The nodes of a path, as the database is asked for it. -/
def components (path : String) : Path :=
  (BashArith.splitFields '/' (path.toList.drop 1)).map String.ofList

def cfgdbOf (store : Store) : Cfgdb := fun path => store (components path)

/-- What a compute node is told by `sysinfo` and its configuration file. -/
structure ComputeNode where
  uuid : String
  hostname : String
  noSlash : '/' ∉ hostname.toList
  remoteNode : List Char
  cfgdbIp : List Char

/-- `[[ "${CONFIG_remote_node}" -eq 1 ]]` -/
def ComputeNode.isRemote (node : ComputeNode) : Bool :=
  BashArith.operand node.remoteNode = some 1

/-- `/esdc/nodes/hosts/${SYSINFO_UUID}` -/
def ComputeNode.root (node : ComputeNode) : Path :=
  ["esdc", "nodes", "hosts", node.uuid]

def ComputeNode.entries (node : ComputeNode) : List (Path × List Char) :=
  [(node.root, node.hostname.toList),
    (node.root ++ ["headnode"], "false".toList),
    (node.root ++ ["hostname"], node.hostname.toList),
    (node.root ++ ["is_remote"],
      if node.remoteNode ≠ [] then node.remoteNode else "0".toList)]

/-- The queries that change the database. -/
inductive Query where
  | rmr (path : Path)
  | creater (path : Path) (value : List Char)

def ComputeNode.registration (node : ComputeNode) : List Query :=
  .rmr node.root :: node.entries.map fun entry => .creater entry.1 entry.2

def nodeHostPath (hostname service : String) : String :=
  s!"/esdc/settings/node/{hostname}/{service}/host"

def remoteHostPath (service : String) : String :=
  s!"/esdc/settings/remote/{service}/host"

/--
The values that the script may ask for.  It asks for some of them only when others are
missing; to ask for them in any case makes no difference.
-/
def reads (hostname : String) : List String :=
  ["rabbitmq", "redis", "zabbix"].map (nodeHostPath hostname) ++
  [s!"/esdc/settings/{hostname}/rabbitmq/password",
    s!"/esdc/settings/{hostname}/redis/password"] ++
  ["rabbitmq", "redis", "zabbix"].map remoteHostPath ++
  ["/esdc/settings/rabbitmq/host", "/esdc/settings/redis/host",
    "/esdc/settings/zabbix/host", "/esdc/settings/rabbitmq/password",
    "/esdc/settings/redis/password"]

/-- How far the script has come; what was read is kept in its variables. -/
inductive Script where
  | reading (view : List (String × Option (List Char))) (left : List String)
  | registering (settings : Settings) (left : List Query)
  | registered (settings : Settings)
  | aborted

def ComputeNode.start (node : ComputeNode) : Script := .reading [] (reads node.hostname)

def viewed (view : List (String × Option (List Char))) : Cfgdb := fun path =>
  (view.find? fun entry => entry.1 = path).bind Prod.snd

/-- `--force rmr`, the failure of which is ignored -/
def rmr (path : Path) (store : Store) : Store := fun p =>
  if path <+: p then none else store p

/-- The next query; `_zk creater` ends the script when the node is there. -/
def ComputeNode.step (node : ComputeNode) (store : Store) : Script -> Store × Script
  | .reading view (path :: left) =>
      (store, .reading (view ++ [(path, cfgdbOf store path)]) left)
  | .reading view [] =>
      match pullCfgdbData (viewed view) node.hostname node.isRemote node.cfgdbIp with
      | some settings => (store, .registering settings node.registration)
      | none => (store, .aborted)
  | .registering settings (.rmr path :: left) =>
      (rmr path store, .registering settings left)
  | .registering settings (.creater path value :: left) =>
      if (store path).isSome then (store, .aborted)
      else (creater path value store, .registering settings left)
  | .registering settings [] => (store, .registered settings)
  | .registered settings => (store, .registered settings)
  | .aborted => (store, .aborted)

/-- What is left when the nodes of a path were about to be removed and some are gone. -/
def halfRemoved (gone : Path -> Bool) (store : Store) : Script -> Store
  | .registering _ (.rmr path :: _) => fun p =>
      if path <+: p ∧ gone p = true then none else store p
  | _ => store

inductive Action where
  | step
  | reboot (gone : Path -> Bool)

def ComputeNode.act (node : ComputeNode) (store : Store) (script : Script) :
    Action -> Store × Script
  | .step => node.step store script
  | .reboot gone => (halfRemoved gone store script, node.start)

/-- Some other program sets or removes one node of the database. -/
structure Change where
  path : Path
  value : Option (List Char)

def Change.apply (c : Change) (store : Store) : Store := fun p =>
  if p = c.path then c.value else store p

/-- The compute nodes and the database that they share. -/
def cluster {party : Type} (node : party -> ComputeNode) :
    System party Store Script Action Change where
  act := fun i a store script => (node i).act store script a
  outside := Change.apply

/-- The database as it is found, and every script at its start. -/
def beginning {party : Type} (node : party -> ComputeNode) (store : Store) :
    State party Store Script :=
  ⟨store, fun i => (node i).start⟩

/-!
## What a node keeps
-/

def settingsRoot : Path := ["esdc", "settings"]

/-- The settings for a node, from the database as it was found. -/
def ComputeNode.settings (node : ComputeNode) (found : Store) : Option Settings :=
  pullCfgdbData (cfgdbOf found) node.hostname node.isRemote node.cfgdbIp

/-- The database has some entries and nothing else at and below a path. -/
def Holds (root : Path) (entries : List (Path × List Char)) (store : Store) : Prop :=
  forall p, root <+: p -> store p = (entries.find? fun entry => entry.1 = p).map Prod.snd

def ComputeNode.Reached (node : ComputeNode) (found store : Store) : Script -> Prop
  | .reading view left =>
      (forall entry, entry ∈ view -> entry.2 = cfgdbOf found entry.1) ∧
        view.map Prod.fst ++ left = reads node.hostname
  | .registering settings left =>
      node.settings found = some settings ∧
        (left = node.registration ∨ exists before after,
          node.entries = before ++ after ∧
          left = after.map (fun entry => .creater entry.1 entry.2) ∧
          Holds node.root before store)
  | .registered settings =>
      node.settings found = some settings ∧ Holds node.root node.entries store
  | .aborted => node.settings found = none

/-- The settings are the ones that were found, and the script has come so far. -/
structure ComputeNode.Inv (node : ComputeNode) (found store : Store) (script : Script) :
    Prop where
  settings : forall p, settingsRoot <+: p -> store p = found p
  reached : node.Reached found store script

/-- A change elsewhere than in the settings and below the compute nodes. -/
def IsElsewhere {party : Type} (node : party -> ComputeNode) (c : Change) : Prop :=
  ¬ settingsRoot <+: c.path ∧ forall i, ¬ (node i).root <+: c.path

end Computenode
end EsdcFactory
