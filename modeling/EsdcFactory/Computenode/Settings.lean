import EsdcFactory.Installer.Answers

/-!
# The settings of a compute node

`computenode.sh` takes the addresses and passwords of the services from the
configuration database.  A value for this one node goes before the values for all
remote nodes, and these before the values for all nodes.
-/

namespace EsdcFactory
namespace Computenode

open Installer

/-!
## Queries
-/

/-- The nodes of the configuration database, as `query_cfgdb get` prints them. -/
abbrev Cfgdb := String -> Option (List Char)

/-- `$(_zk_noerror get path)` -/
def zkNoerror (cfgdb : Cfgdb) (path : String) : List Char :=
  match cfgdb path with
  | some text => substituted text
  | none => []

/-- `$(_zk get path)`, or nothing when the setup is aborted -/
def zk (cfgdb : Cfgdb) (path : String) : Option (List Char) :=
  (cfgdb path).map substituted

structure Settings where
  rabbitmqIp : List Char
  redisIp : List Char
  monIp : List Char
  rabbitmqPassword : List Char
  redisPassword : List Char
deriving DecidableEq

/-- `[[ -z value ]] && value=other` -/
def orElse (value other : List Char) : List Char :=
  if value = [] then other else value

/-- `[[ -z value ]] && value=$(_zk get path)`, with `errexit` -/
def orZk (cfgdb : Cfgdb) (value : List Char) (path : String) : Option (List Char) :=
  if value = [] then zk cfgdb path else some value

/-- The value of a host after the lookups that may fail. -/
def optionalHost (cfgdb : Cfgdb) (hostname : String) (remoteNode : Bool)
    (cfgdbIp : List Char) (service : String) : List Char :=
  let value := zkNoerror cfgdb s!"/esdc/settings/node/{hostname}/{service}/host"
  if remoteNode then
    let value := orElse value (zkNoerror cfgdb s!"/esdc/settings/remote/{service}/host")
    orElse value cfgdbIp
  else value

/-- `pull_cfgdb_data` up to the registration, or nothing when the setup is aborted -/
def pullCfgdbData (cfgdb : Cfgdb) (hostname : String) (remoteNode : Bool)
    (cfgdbIp : List Char) : Option Settings := do
  let rabbitmqIp := optionalHost cfgdb hostname remoteNode cfgdbIp "rabbitmq"
  let redisIp := optionalHost cfgdb hostname remoteNode cfgdbIp "redis"
  let monIp := optionalHost cfgdb hostname remoteNode cfgdbIp "zabbix"
  -- no `node/` stands in these two paths
  let rabbitmqPassword := zkNoerror cfgdb s!"/esdc/settings/{hostname}/rabbitmq/password"
  let redisPassword := zkNoerror cfgdb s!"/esdc/settings/{hostname}/redis/password"
  let rabbitmqIp <- orZk cfgdb rabbitmqIp "/esdc/settings/rabbitmq/host"
  let redisIp <- orZk cfgdb redisIp "/esdc/settings/redis/host"
  let monIp <- orZk cfgdb monIp "/esdc/settings/zabbix/host"
  let rabbitmqPassword <- orZk cfgdb rabbitmqPassword "/esdc/settings/rabbitmq/password"
  let redisPassword <- orZk cfgdb redisPassword "/esdc/settings/redis/password"
  if rabbitmqIp = [] ∨ redisIp = [] ∨ monIp = [] ∨ rabbitmqPassword = [] ∨
      redisPassword = [] then none
  else return { rabbitmqIp, redisIp, monIp, rabbitmqPassword, redisPassword }

/-!
## Precedence
-/

def firstNonEmpty (values : List (List Char)) : Option (List Char) :=
  values.find? (· ≠ [])

def hostChoices (cfgdb : Cfgdb) (hostname : String) (remoteNode : Bool)
    (cfgdbIp : List Char) (service : String) : List (List Char) :=
  [zkNoerror cfgdb s!"/esdc/settings/node/{hostname}/{service}/host"] ++
    (if remoteNode then
      [zkNoerror cfgdb s!"/esdc/settings/remote/{service}/host", cfgdbIp] else []) ++
    [zkNoerror cfgdb s!"/esdc/settings/{service}/host"]

/-- The choices for a password, with the one for this node below a given node. -/
def passwordChoices (cfgdb : Cfgdb) (below service : String) : List (List Char) :=
  [zkNoerror cfgdb s!"{below}/{service}/password",
    zkNoerror cfgdb s!"/esdc/settings/{service}/password"]

/-- Five settings, unless one of them is missing. -/
def collect (rabbitmqIp redisIp monIp rabbitmqPassword redisPassword : Option (List Char)) :
    Option Settings := do
  let rabbitmqIp <- rabbitmqIp
  let redisIp <- redisIp
  let monIp <- monIp
  let rabbitmqPassword <- rabbitmqPassword
  let redisPassword <- redisPassword
  return { rabbitmqIp, redisIp, monIp, rabbitmqPassword, redisPassword }

def settingsBelow (cfgdb : Cfgdb) (below hostname : String) (remoteNode : Bool)
    (cfgdbIp : List Char) : Option Settings :=
  let host := fun service =>
    firstNonEmpty (hostChoices cfgdb hostname remoteNode cfgdbIp service)
  let password := fun service => firstNonEmpty (passwordChoices cfgdb below service)
  collect (host "rabbitmq") (host "redis") (host "zabbix")
    (password "rabbitmq") (password "redis")

/-- What the settings are meant to be. -/
def settingsByPrecedence (cfgdb : Cfgdb) (hostname : String) (remoteNode : Bool)
    (cfgdbIp : List Char) : Option Settings :=
  settingsBelow cfgdb s!"/esdc/settings/node/{hostname}" hostname remoteNode cfgdbIp

/-!
## What is taken
-/

@[simp] theorem firstNonEmpty_nil : firstNonEmpty [] = none := rfl

theorem firstNonEmpty_cons (value : List Char) (values : List (List Char)) :
    firstNonEmpty (value :: values) =
      if value = [] then firstNonEmpty values else some value := by
  cases value with
  | nil => rfl
  | cons c rest => rfl

theorem filter_orZk (cfgdb : Cfgdb) (value : List Char) (path : String) :
    (orZk cfgdb value path).filter (· ≠ []) =
      firstNonEmpty [value, zkNoerror cfgdb path] := by
  rw [firstNonEmpty_cons, firstNonEmpty_cons, firstNonEmpty_nil]
  unfold orZk zk zkNoerror
  cases value with
  | cons c rest => rfl
  | nil =>
      cases cfgdb path with
      | none => rfl
      | some text =>
          by_cases hempty : substituted text = []
          · simp [hempty]
          · simp [hempty]

theorem collect_eq_some_iff {a b c p q : Option (List Char)} {settings : Settings} :
    collect a b c p q = some settings <->
      a = some settings.rabbitmqIp ∧ b = some settings.redisIp ∧ c = some settings.monIp ∧
      p = some settings.rabbitmqPassword ∧ q = some settings.redisPassword := by
  cases settings
  simp [collect, Option.bind_eq_some_iff]

theorem collect_filter (a b c p q : Option (List Char)) :
    (collect a b c p q).filter (fun settings => settings.rabbitmqIp ≠ [] ∧
        settings.redisIp ≠ [] ∧ settings.monIp ≠ [] ∧ settings.rabbitmqPassword ≠ [] ∧
        settings.redisPassword ≠ []) =
      collect (a.filter (· ≠ [])) (b.filter (· ≠ [])) (c.filter (· ≠ []))
        (p.filter (· ≠ [])) (q.filter (· ≠ [])) := by
  ext settings
  simp only [Option.filter_eq_some_iff, collect_eq_some_iff, decide_eq_true_eq]
  tauto

theorem firstNonEmpty_hostChoices (cfgdb : Cfgdb) (hostname : String) (remoteNode : Bool)
    (cfgdbIp : List Char) (service : String) :
    firstNonEmpty (hostChoices cfgdb hostname remoteNode cfgdbIp service) =
      firstNonEmpty [optionalHost cfgdb hostname remoteNode cfgdbIp service,
        zkNoerror cfgdb s!"/esdc/settings/{service}/host"] := by
  cases remoteNode with
  | false => rfl
  | true =>
      simp only [hostChoices, optionalHost, orElse, if_true, List.cons_append,
        List.nil_append, firstNonEmpty_cons, firstNonEmpty_nil]
      split
      · split
        · rfl
        · rfl
      · rfl

theorem passwordPath_eq (below word service : String)
    (h : word = "/" ++ service ++ "/password") :
    below ++ word = s!"{below}/{service}/password" := by
  subst h
  simp only [toString, String.append_assoc]

theorem passwordChoices_eq (cfgdb : Cfgdb) (below word service : String)
    (h : word = "/" ++ service ++ "/password") :
    passwordChoices cfgdb below service =
      [zkNoerror cfgdb (below ++ word),
        zkNoerror cfgdb s!"/esdc/settings/{service}/password"] := by
  rw [passwordPath_eq below word service h]
  rfl

/-- The setup takes the settings by precedence, but for where it looks for passwords. -/
theorem pullCfgdbData_eq (cfgdb : Cfgdb) (hostname : String) (remoteNode : Bool)
    (cfgdbIp : List Char) :
    pullCfgdbData cfgdb hostname remoteNode cfgdbIp =
      settingsBelow cfgdb s!"/esdc/settings/{hostname}" hostname remoteNode cfgdbIp := by
  unfold settingsBelow
  simp only [firstNonEmpty_hostChoices, ← filter_orZk,
    passwordChoices_eq cfgdb _ "/rabbitmq/password" "rabbitmq" (by decide),
    passwordChoices_eq cfgdb _ "/redis/password" "redis" (by decide)]
  rw [← collect_filter]
  ext settings
  rw [Option.filter_eq_some_iff, collect_eq_some_iff]
  cases settings
  simp only [pullCfgdbData, Option.bind_eq_bind, Option.bind_eq_some_iff]
  constructor
  · intro h
    rcases h with ⟨a, ha, b, hb, c, hc, p, hp, q, hq, h⟩
    split at h
    · cases h
    · rename_i hne
      cases h
      exact ⟨⟨ha, hb, hc, hp, hq⟩, by simpa using hne⟩
  · intro h
    rcases h with ⟨⟨ha, hb, hc, hp, hq⟩, hne⟩
    refine ⟨_, ha, _, hb, _, hc, _, hp, _, hq, ?_⟩
    rw [if_neg (by simpa using hne)]
    rfl

/-!
## Where the passwords are looked for
-/

theorem collect_congr_iff (a b c p q p' q' : Option (List Char)) :
    collect a b c p q = collect a b c p' q' <->
      (a = none ∨ b = none ∨ c = none) ∨ (p = p' ∧ q = q') ∨
      ((p = none ∨ q = none) ∧ (p' = none ∨ q' = none)) := by
  cases a with
  | none => simp [collect]
  | some a =>
      cases b with
      | none => simp [collect]
      | some b =>
          cases c with
          | none => simp [collect]
          | some c =>
              -- with the hosts at hand only the passwords are compared
              cases p <;> cases q <;> cases p' <;> cases q' <;> simp [collect]

/-- No value is left for the host of a service. -/
def HostMissing (cfgdb : Cfgdb) (hostname : String) (remoteNode : Bool)
    (cfgdbIp : List Char) : Prop :=
  exists service, service ∈ ["rabbitmq", "redis", "zabbix"] ∧
    firstNonEmpty (hostChoices cfgdb hostname remoteNode cfgdbIp service) = none

/-- No value is left for one of the passwords. -/
def PasswordMissing (cfgdb : Cfgdb) (below : String) : Prop :=
  exists service, service ∈ ["rabbitmq", "redis"] ∧
    firstNonEmpty (passwordChoices cfgdb below service) = none

/-- The passwords for this node are the same below two nodes, or are not the first choice. -/
def SamePasswords (cfgdb : Cfgdb) (below below' : String) : Prop :=
  forall service, service ∈ ["rabbitmq", "redis"] ->
    firstNonEmpty (passwordChoices cfgdb below service) =
      firstNonEmpty (passwordChoices cfgdb below' service)

/-- The setup keeps to the precedence when the place of the passwords does not matter. -/
theorem pullCfgdbData_by_precedence_iff (cfgdb : Cfgdb) (hostname : String)
    (remoteNode : Bool) (cfgdbIp : List Char) :
    pullCfgdbData cfgdb hostname remoteNode cfgdbIp =
        settingsByPrecedence cfgdb hostname remoteNode cfgdbIp <->
      HostMissing cfgdb hostname remoteNode cfgdbIp ∨
      SamePasswords cfgdb s!"/esdc/settings/{hostname}" s!"/esdc/settings/node/{hostname}" ∨
      (PasswordMissing cfgdb s!"/esdc/settings/{hostname}" ∧
        PasswordMissing cfgdb s!"/esdc/settings/node/{hostname}") := by
  rw [pullCfgdbData_eq, settingsByPrecedence, settingsBelow, settingsBelow, collect_congr_iff]
  simp [HostMissing, SamePasswords, PasswordMissing]

/-- A configuration database in which one node has a password of its own. -/
def ownPassword : Cfgdb := fun path =>
  if path = "/esdc/settings/node/node01/redis/password" then some "own".toList
  else if path ∈ ["/esdc/settings/rabbitmq/host", "/esdc/settings/redis/host",
    "/esdc/settings/zabbix/host"] then some "10.0.0.1".toList
  else if path ∈ ["/esdc/settings/rabbitmq/password", "/esdc/settings/redis/password"] then
    some "common".toList
  else none

theorem own_password_is_ignored :
    pullCfgdbData ownPassword "node01" false "10.0.0.2".toList ≠
      settingsByPrecedence ownPassword "node01" false "10.0.0.2".toList := by
  decide +kernel

end Computenode
end EsdcFactory
