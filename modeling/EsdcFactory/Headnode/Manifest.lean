import EsdcFactory.Lib.Sed

/-!
# Manifests of the service VMs

`_build_vmmanifest` runs one `sed` over the template of a VM, with one
substitution for each variable of the headnode configuration.  The texts of the
variables are pasted into the script; only files are escaped on the way.
-/

namespace EsdcFactory
namespace Headnode

open Sed

/-!
## Variables and expressions
-/

inductive Vm where
  | cfgdb
  | dns
  | img
  | mgmt
  | mon
  | opnsense
deriving DecidableEq, Repr

/-- The shell variables that `_build_vmmanifest` reads, and the texts of the files. -/
structure ManifestVars where
  dnsIp : List Char
  adminNetmask : List Char
  adminGateway : List Char
  adminVlanId : List Char
  cfgdbIp : List Char
  monIp : List Char
  imgIp : List Char
  mgmtIp : List Char
  rootAuthorizedKeys : List Char
  esdcInstallPassword : List Char
  svcCertTmpfile : List Char
  svcKeyTmpfile : List Char
  dnsResolvers : List Char
  rabbitmqPassword : List Char
  redisPassword : List Char
  pgsqlEsdcPassword : List Char
  pgsqlPdnsPassword : List Char
  pgsqlMgmtMonPassword : List Char
  zabbixEsdcPassword : List Char
  zabbixAdminPassword : List Char
  zabbixAdminEmail : List Char
  zabbixSmtpEmail : List Char
  opnsenseAdminIp : List Char
  opnsenseAdminNetmask : List Char
  opnsenseAdminVlanId : List Char
  opnsenseExternalIp : List Char
  opnsenseExternalNetmask : List Char
  opnsenseExternalMac : List Char
  opnsenseExternalGateway : List Char
  opnsenseExternalVlanId : List Char
  opnsenseApiKey : List Char
  opnsenseApiSecret : List Char
  opnsenseConfigXml : List Char
deriving Inhabited

/-- How a value gets into the script. -/
inductive Encoding where
  /-- the variable itself -/
  | plain
  /-- the file through `escape_newlines` -/
  | lines
  /-- the file through `escape_newlines`, and its quotes escaped as well -/
  | quotedLines
deriving DecidableEq, Repr

def Encoding.letters : Encoding -> Letters
  | .plain, _ => none
  | .lines, c => if c = '\n' then some 'n' else none
  | .quotedLines, c => if c = '\n' then some 'n' else if c = '"' then some '"' else none

/-- `-e "s|@name@|value|"` -/
structure Expression where
  name : List Char
  encoding : Encoding
  value : List Char

def ofVar (name : String) (value : List Char) : Expression :=
  { name := name.toList, encoding := .plain, value := value }

/-- `awk` ends the last record of a file as well when its newline is missing. -/
def records (text : List Char) : List Char :=
  if text = [] ∨ text.getLast? = some '\n' then text else text ++ ['\n']

def ofFile (name : String) (encoding : Encoding) (text : List Char) : Expression :=
  { name := name.toList, encoding := encoding, value := records text }

/-- `${text/,/;}` -/
def replaceComma : List Char -> List Char
  | [] => []
  | c :: rest => if c = ',' then ';' :: rest else c :: replaceComma rest

def pdnsRecursorForwarders (dnsResolvers : List Char) : List Char :=
  if dnsResolvers = "8.8.8.8,8.8.4.4".toList then []
  else ".=".toList ++ replaceComma dnsResolvers

def opnsenseExternalMacPlaceholder (mac : List Char) : List Char :=
  if mac = [] then [] else "\"mac\": \"".toList ++ mac ++ "\",".toList

/-- The expressions of the `sed` command of a VM. -/
def expressions (vm : Vm) (vars : ManifestVars) : List Expression :=
  match vm with
  | .cfgdb =>
      [ofVar "DNS_IP" vars.dnsIp,
        ofVar "ADMIN_NETMASK" vars.adminNetmask,
        ofVar "ADMIN_GATEWAY" vars.adminGateway,
        ofVar "ADMIN_VLAN_ID" vars.adminVlanId,
        ofVar "CFGDB_IP" vars.cfgdbIp,
        ofVar "MON_IP" vars.monIp,
        ofVar "ROOT_AUTHORIZED_KEYS" vars.rootAuthorizedKeys,
        ofVar "ESDC_INSTALL_PASSWORD" vars.esdcInstallPassword,
        ofFile "ERIGONESD_SSL_CERT" .lines vars.svcCertTmpfile,
        ofFile "ERIGONESD_SSL_KEY" .lines vars.svcKeyTmpfile]
  | .dns =>
      [ofVar "DNS_IP" vars.dnsIp,
        ofVar "ADMIN_NETMASK" vars.adminNetmask,
        ofVar "ADMIN_GATEWAY" vars.adminGateway,
        ofVar "ADMIN_VLAN_ID" vars.adminVlanId,
        ofVar "MGMT_IP" vars.mgmtIp,
        ofVar "MON_IP" vars.monIp,
        ofVar "ROOT_AUTHORIZED_KEYS" vars.rootAuthorizedKeys,
        ofVar "PGSQL_PDNS_PASSWORD" vars.pgsqlPdnsPassword,
        ofVar "PDNS_RECURSOR_FORWARDERS" (pdnsRecursorForwarders vars.dnsResolvers)]
  | .img =>
      [ofVar "IMG_IP" vars.imgIp,
        ofVar "ADMIN_NETMASK" vars.adminNetmask,
        ofVar "ADMIN_GATEWAY" vars.adminGateway,
        ofVar "ADMIN_VLAN_ID" vars.adminVlanId,
        ofVar "DNS_IP" vars.dnsIp,
        ofVar "MON_IP" vars.monIp,
        ofVar "ROOT_AUTHORIZED_KEYS" vars.rootAuthorizedKeys]
  | .mgmt =>
      [ofVar "MGMT_IP" vars.mgmtIp,
        ofVar "ADMIN_NETMASK" vars.adminNetmask,
        ofVar "ADMIN_GATEWAY" vars.adminGateway,
        ofVar "ADMIN_VLAN_ID" vars.adminVlanId,
        ofVar "MON_IP" vars.monIp,
        ofVar "DNS_IP" vars.dnsIp,
        ofVar "ROOT_AUTHORIZED_KEYS" vars.rootAuthorizedKeys,
        ofVar "ZABBIX_ADMIN_PASSWORD" vars.zabbixAdminPassword,
        ofVar "ZABBIX_ESDC_PASSWORD" vars.zabbixEsdcPassword,
        ofVar "RABBITMQ_PASSWORD" vars.rabbitmqPassword,
        ofVar "REDIS_PASSWORD" vars.redisPassword,
        ofVar "PGSQL_ESDC_PASSWORD" vars.pgsqlEsdcPassword,
        ofVar "PGSQL_PDNS_PASSWORD" vars.pgsqlPdnsPassword,
        ofVar "PGSQL_MGMT_MON_PASSWORD" vars.pgsqlMgmtMonPassword,
        ofVar "ESDC_ADMIN_EMAIL" vars.zabbixAdminEmail,
        ofFile "ERIGONESD_SSL_CERT" .lines vars.svcCertTmpfile,
        ofFile "ERIGONESD_SSL_KEY" .lines vars.svcKeyTmpfile,
        ofVar "CFGDB_IP" vars.cfgdbIp]
  | .mon =>
      [ofVar "MON_IP" vars.monIp,
        ofVar "ADMIN_NETMASK" vars.adminNetmask,
        ofVar "ADMIN_GATEWAY" vars.adminGateway,
        ofVar "ADMIN_VLAN_ID" vars.adminVlanId,
        ofVar "DNS_IP" vars.dnsIp,
        ofVar "ROOT_AUTHORIZED_KEYS" vars.rootAuthorizedKeys,
        ofVar "ZABBIX_ESDC_PASSWORD" vars.zabbixEsdcPassword,
        ofVar "ZABBIX_ADMIN_PASSWORD" vars.zabbixAdminPassword,
        ofVar "ZABBIX_ADMIN_EMAIL" vars.zabbixAdminEmail,
        ofVar "ZABBIX_SMTP_EMAIL" vars.zabbixSmtpEmail]
  | .opnsense =>
      [ofVar "MON_IP" vars.monIp,
        ofVar "ADMIN_IP" vars.opnsenseAdminIp,
        ofVar "ADMIN_NETMASK" vars.opnsenseAdminNetmask,
        ofVar "ADMIN_VLAN_ID" vars.opnsenseAdminVlanId,
        ofVar "EXTERNAL_IP" vars.opnsenseExternalIp,
        ofVar "EXTERNAL_NETMASK" vars.opnsenseExternalNetmask,
        ofVar "EXTERNAL_MAC_PLACEHOLDER"
          (opnsenseExternalMacPlaceholder vars.opnsenseExternalMac),
        ofVar "EXTERNAL_GATEWAY" vars.opnsenseExternalGateway,
        ofVar "EXTERNAL_VLAN_ID" vars.opnsenseExternalVlanId,
        ofVar "OPNSENSE_API_KEY" vars.opnsenseApiKey,
        ofVar "OPNSENSE_API_SECRET" vars.opnsenseApiSecret,
        ofFile "CONFIG_XML" .quotedLines vars.opnsenseConfigXml]

/-- The names of the expressions, which do not depend on the variables. -/
def names (vm : Vm) : List (List Char) :=
  (expressions vm default).map Expression.name

theorem map_name_expressions (vm : Vm) (vars : ManifestVars) :
    (expressions vm vars).map Expression.name = names vm := by
  cases vm <;> rfl

theorem at_not_mem_names (vm : Vm) : forall name, name ∈ names vm -> '@' ∉ name := by
  cases vm <;> decide +kernel

theorem at_not_mem_name {vm : Vm} {vars : ManifestVars} {e : Expression}
    (h : e ∈ expressions vm vars) : '@' ∉ e.name := by
  apply at_not_mem_names vm
  rw [← map_name_expressions vm vars]
  exact List.mem_map_of_mem h

/-!
## Templates
-/

/-- A placeholder in a line that has no other `@`. -/
structure Slot where
  pre : List Char
  name : List Char
  post : List Char
  pre_free : '@' ∉ pre
  name_free : '@' ∉ name
  post_free : '@' ∉ post

inductive TemplateLine where
  | text (line : List Char) (h : '@' ∉ line)
  | slot (place : Slot)

/-- `@name@` -/
def placeholder (name : List Char) : List Char :=
  marked '@' name

def Slot.filled (slot : Slot) (text : List Char) : List Char :=
  slot.pre ++ (text ++ slot.post)

/-- The placeholder is all of a JSON string. -/
def Slot.isString (slot : Slot) : Bool :=
  slot.pre.getLast? = some '"' && slot.post.head? = some '"'

def TemplateLine.render : TemplateLine -> List Char
  | .text line _ => line
  | .slot place => place.filled (placeholder place.name)

def Expression.letters (e : Expression) : Letters :=
  e.encoding.letters

/-- What is meant to replace the placeholder of an expression. -/
def Expression.inserted (e : Expression) : List Char :=
  Sed.inserted e.letters e.value

/-- What the expression has behind its second delimiter. -/
def Expression.script (e : Expression) : List Char :=
  Sed.script e.letters e.value ++ ['|']

/-- `sed -e … "${template}"`, which runs its commands over each line in turn. -/
def sed (dialect : Dialect) (exprs : List Expression) (template : List TemplateLine) :
    Option (List (List Char)) := do
  let commands <- exprs.mapM fun e => substitute dialect (placeholder e.name) e.script
  return template.map fun line =>
    commands.foldl (fun text command => command text) line.render

def buildVmmanifest (dialect : Dialect) (vm : Vm) (vars : ManifestVars)
    (template : List TemplateLine) : Option (List (List Char)) :=
  sed dialect (expressions vm vars) template

/-!
## Literal templating
-/

/-- All placeholders are replaced at once. -/
def replacedLine (exprs : List Expression) : TemplateLine -> List Char
  | .text line _ => line
  | .slot slot =>
      match exprs.find? fun e => e.name = slot.name with
      | some e => slot.filled e.inserted
      | none => slot.filled (placeholder slot.name)

/-- The manifest is the template with the values in place of the placeholders. -/
structure IsLiteral (dialect : Dialect) (vm : Vm) (vars : ManifestVars)
    (template : List TemplateLine) : Prop where
  /-- no character of a value means something to `sed` -/
  uninterpreted : forall e, e ∈ expressions vm vars -> ReadsLiterally e.letters e.value
  /-- a later expression finds nothing in a line with a value -/
  notRewritten : (expressions vm vars).Pairwise fun earlier later =>
    forall slot, .slot slot ∈ template -> slot.name = earlier.name ->
      ¬ placeholder later.name <:+: slot.filled earlier.inserted
  simultaneous : buildVmmanifest dialect vm vars template =
    some (template.map (replacedLine (expressions vm vars)))
  /-- the strings of the manifest are the values -/
  decoded : forall e, e ∈ expressions vm vars ->
    forall slot, .slot slot ∈ template -> slot.name = e.name -> slot.isString = true ->
      Json.readString (e.inserted ++ slot.post) = some (e.value, slot.post.tail)

structure HasPlainValues (vm : Vm) (vars : ManifestVars)
    (template : List TemplateLine) : Prop where
  /-- no `&`, `|`, backslash and newline but those of an escaped file -/
  notSpecial : forall e, e ∈ expressions vm vars ->
    forall c, c ∈ e.value -> e.letters c = none -> isSpecial c = false
  /-- no placeholder of a later expression in a value that the template uses -/
  notPlaceholder : (expressions vm vars).Pairwise fun earlier later =>
    (exists slot, .slot slot ∈ template ∧ slot.name = earlier.name) ->
      ¬ placeholder later.name <:+: earlier.inserted
  /-- no quotes and control characters in a string but those of an escaped file -/
  literal : forall e, e ∈ expressions vm vars ->
    (exists slot, .slot slot ∈ template ∧ slot.name = e.name ∧ slot.isString = true) ->
      forall c, c ∈ e.value -> e.letters c = none -> Json.isLiteral c = true

theorem Encoding.letters_eq_some {encoding : Encoding} {c letter : Char}
    (h : encoding.letters c = some letter) :
    c = '\n' ∧ letter = 'n' ∨ c = '"' ∧ letter = '"' := by
  cases encoding with
  | plain => cases h
  | lines =>
      rcases Option.ite_none_right_eq_some.mp h with ⟨hline, heq⟩
      exact Or.inl ⟨hline, (Option.some.inj heq).symm⟩
  | quotedLines =>
      rw [Encoding.letters] at h
      split at h
      · rename_i hline
        exact Or.inl ⟨hline, (Option.some.inj h).symm⟩
      · rcases Option.ite_none_right_eq_some.mp h with ⟨hquote, heq⟩
        exact Or.inr ⟨hquote, (Option.some.inj heq).symm⟩

theorem letters_special (e : Expression) (c letter : Char) (h : e.letters c = some letter) :
    isSpecial letter = false := by
  rcases Encoding.letters_eq_some h with ⟨_, rfl⟩ | ⟨_, rfl⟩ <;> rfl

theorem letters_escape (e : Expression) (c letter : Char) (h : e.letters c = some letter) :
    Json.letterEscape letter = some c := by
  rcases Encoding.letters_eq_some h with ⟨rfl, rfl⟩ | ⟨rfl, rfl⟩ <;> rfl

theorem readsLiterally_value_iff (e : Expression) :
    ReadsLiterally e.letters e.value <->
      forall c, c ∈ e.value -> e.letters c = none -> isSpecial c = false :=
  readsLiterally_iff (letters_special e)

theorem ne_backslash {e : Expression}
    (h : forall c, c ∈ e.value -> e.letters c = none -> isSpecial c = false) :
    forall c, c ∈ e.value -> e.letters c = none -> c ≠ '\\' := by
  intro c hc hnone heq
  subst heq
  exact absurd (h _ hc hnone) (by decide)

/-- A value comes back from a string of the manifest when its characters are literal. -/
theorem readString_filled_iff {e : Expression} {slot : Slot}
    (h : forall c, c ∈ e.value -> e.letters c = none -> isSpecial c = false)
    (hstring : slot.isString = true) :
    Json.readString (e.inserted ++ slot.post) = some (e.value, slot.post.tail) <->
      forall c, c ∈ e.value -> e.letters c = none -> Json.isLiteral c = true := by
  have hhead : slot.post.head? = some '"' := by
    simp only [Slot.isString, Bool.and_eq_true, decide_eq_true_eq] at hstring
    exact hstring.right
  rcases List.head?_eq_some_iff.mp hhead with ⟨rest, hpost⟩
  rw [hpost]
  exact readString_inserted_iff rest (letters_escape e) (ne_backslash h)

theorem placeholder_infix_filled_iff (slot : Slot) (name text : List Char) :
    placeholder name <:+: slot.filled text <-> placeholder name <:+: text :=
  marked_infix_iff slot.pre_free slot.post_free

/-!
## Running the expressions
-/

theorem mapM_substitute (dialect : Dialect) {exprs : List Expression}
    (h : forall e, e ∈ exprs -> ReadsLiterally e.letters e.value) :
    (exprs.mapM fun e => substitute dialect (placeholder e.name) e.script) =
      some (exprs.map fun e => replaceFirst (placeholder e.name) e.inserted) := by
  induction exprs with
  | nil => rfl
  | cons e exprs ih =>
      have hhead := substitute_of_readsLiterally dialect (placeholder e.name)
        (h e List.mem_cons_self)
      rw [List.mapM_cons, Expression.script, hhead,
        ih fun x hx => h x (List.mem_cons_of_mem _ hx)]
      rfl

theorem foldl_eq_self {exprs : List Expression} {line : List Char}
    (h : forall e, e ∈ exprs -> ¬ placeholder e.name <:+: line) :
    exprs.foldl (fun text e => replaceFirst (placeholder e.name) e.inserted text) line =
      line := by
  induction exprs with
  | nil => rfl
  | cons e exprs ih =>
      rw [List.foldl_cons, replaceFirst_eq_self _ (h e List.mem_cons_self)]
      exact ih fun x hx => h x (List.mem_cons_of_mem _ hx)

theorem foldl_slot {exprs : List Expression} {slot : Slot}
    (hfree : forall e, e ∈ exprs -> '@' ∉ e.name)
    (hlater : exprs.Pairwise fun earlier later =>
      slot.name = earlier.name -> ¬ placeholder later.name <:+: slot.filled earlier.inserted) :
    exprs.foldl (fun text e => replaceFirst (placeholder e.name) e.inserted text)
        (TemplateLine.slot slot).render =
      replacedLine exprs (.slot slot) := by
  induction exprs with
  | nil => rfl
  | cons e exprs ih =>
      rcases List.pairwise_cons.mp hlater with ⟨hhead, htail⟩
      rw [List.foldl_cons, replacedLine, List.find?_cons]
      by_cases hname : e.name = slot.name
      · have hfound : replaceFirst (placeholder e.name) e.inserted
            (TemplateLine.slot slot).render = slot.filled e.inserted := by
          rw [TemplateLine.render, hname]
          exact replaceFirst_found _ _ _ slot.pre_free
        rw [hfound, foldl_eq_self fun x hx => hhead x hx hname.symm]
        simp [hname]
      · have habsent : ¬ placeholder e.name <:+: (TemplateLine.slot slot).render := by
          intro hin
          apply hname
          exact eq_of_marked_infix (hfree e List.mem_cons_self) slot.name_free
            ((placeholder_infix_filled_iff slot _ _).mp hin)
        rw [replaceFirst_eq_self _ habsent,
          ih (fun x hx => hfree x (List.mem_cons_of_mem _ hx)) htail]
        simp [hname, replacedLine]

theorem sed_eq_replaced (dialect : Dialect) {exprs : List Expression}
    {template : List TemplateLine} (hfree : forall e, e ∈ exprs -> '@' ∉ e.name)
    (hliteral : forall e, e ∈ exprs -> ReadsLiterally e.letters e.value)
    (hlater : exprs.Pairwise fun earlier later =>
      forall slot, .slot slot ∈ template -> slot.name = earlier.name ->
        ¬ placeholder later.name <:+: slot.filled earlier.inserted) :
    sed dialect exprs template = some (template.map (replacedLine exprs)) := by
  rw [sed, mapM_substitute dialect hliteral]
  apply congrArg some
  apply List.map_congr_left
  intro line hline
  rw [List.foldl_map]
  cases line with
  | text line h =>
      apply foldl_eq_self
      intro e _ hin
      exact h (hin.subset List.mem_cons_self)
  | slot slot => exact foldl_slot hfree (hlater.imp fun hslot hname => hslot slot hline hname)

/-- Templating is literal exactly when the values are plain. -/
theorem isLiteral_iff (dialect : Dialect) (vm : Vm) (vars : ManifestVars)
    (template : List TemplateLine) :
    IsLiteral dialect vm vars template <-> HasPlainValues vm vars template := by
  constructor
  · intro h
    have hspecial : forall e, e ∈ expressions vm vars ->
        forall c, c ∈ e.value -> e.letters c = none -> isSpecial c = false :=
      fun e he => (readsLiterally_value_iff e).mp (h.uninterpreted e he)
    constructor
    · exact hspecial
    · refine h.notRewritten.imp ?_
      intro earlier later hlater hparts hin
      rcases hparts with ⟨slot, hslot, hname⟩
      exact hlater slot hslot hname ((placeholder_infix_filled_iff slot _ _).mpr hin)
    · intro e he hparts
      rcases hparts with ⟨slot, hslot, hname, hstring⟩
      exact (readString_filled_iff (hspecial e he) hstring).mp
        (h.decoded e he slot hslot hname hstring)
  · intro h
    have hliteral : forall e, e ∈ expressions vm vars -> ReadsLiterally e.letters e.value :=
      fun e he => (readsLiterally_value_iff e).mpr (h.notSpecial e he)
    have hlater : (expressions vm vars).Pairwise fun earlier later =>
        forall slot, .slot slot ∈ template -> slot.name = earlier.name ->
          ¬ placeholder later.name <:+: slot.filled earlier.inserted := by
      refine h.notPlaceholder.imp ?_
      intro earlier later hplain slot hslot hname hin
      exact hplain ⟨slot, hslot, hname⟩ ((placeholder_infix_filled_iff slot _ _).mp hin)
    constructor
    · exact hliteral
    · exact hlater
    · exact sed_eq_replaced dialect (fun e he => at_not_mem_name he) hliteral hlater
    · intro e he slot hslot hname hstring
      exact (readString_filled_iff (h.notSpecial e he) hstring).mpr
        (h.literal e he ⟨slot, hslot, hname, hstring⟩)

/-!
## A password with an ampersand
-/

/-- A member of the metadata whose value is a placeholder. -/
def member (key name post : String)
    (h : '@' ∉ key.toList ∧ '@' ∉ name.toList ∧ '@' ∉ post.toList) : Slot where
  pre := "    \"".toList ++ key.toList ++ "\": \"".toList
  name := name.toList
  post := post.toList
  pre_free := by
    have hkey := h.left
    simpa using hkey
  name_free := h.right.left
  post_free := h.right.right

/-- The metadata in the template of `esdc-cfgdb`. -/
def cfgdbMetadata : List TemplateLine :=
  [.text "  \"customer_metadata\": \x7b".toList (by decide +kernel),
    .slot (member "org.erigones:cfgdb_password" "ESDC_INSTALL_PASSWORD" "\","
      (by decide +kernel)),
    .slot (member "org.erigones:zabbix_ip" "MON_IP" "\"," (by decide +kernel)),
    .slot (member "org.erigones:cfgdb_zk_rest_ssl_cert" "ERIGONESD_SSL_CERT" "\","
      (by decide +kernel)),
    .slot (member "org.erigones:cfgdb_zk_rest_ssl_key" "ERIGONESD_SSL_KEY" "\","
      (by decide +kernel)),
    .slot (member "root_authorized_keys" "ROOT_AUTHORIZED_KEYS" "\"" (by decide +kernel)),
    .text "  \x7d,".toList (by decide +kernel)]

/-- A `sed` without flags, for which a backslash is dropped. -/
def plainSed : Dialect where
  escape c := some [c]
  flags text := if text = [] then some replaceFirst else none
  flags_nil := rfl

def ampersandVars : ManifestVars :=
  { (default : ManifestVars) with
    dnsIp := "10.0.0.22".toList
    adminNetmask := "255.255.255.0".toList
    adminGateway := "10.0.0.1".toList
    adminVlanId := "0".toList
    cfgdbIp := "10.0.0.24".toList
    monIp := "10.0.0.21".toList
    rootAuthorizedKeys := "ssh-rsa AAAAB3 node01".toList
    esdcInstallPassword := "R&D-pass".toList
    svcCertTmpfile := "MIIF\n".toList
    svcKeyTmpfile := "MIIJ\n".toList }

/-- The zone gets another password than the one that was entered. -/
theorem ampersand_is_the_placeholder :
    (buildVmmanifest plainSed .cfgdb ampersandVars cfgdbMetadata).map (fun lines => lines[1]?) =
        some (some
          "    \"org.erigones:cfgdb_password\": \"R@ESDC_INSTALL_PASSWORD@D-pass\",".toList) ∧
      ¬ IsLiteral plainSed .cfgdb ampersandVars cfgdbMetadata := by
  constructor
  · decide +kernel
  · intro h
    have hliteral := h.uninterpreted (expressions .cfgdb ampersandVars)[7]
      (List.getElem_mem _)
    exact absurd hliteral (by decide +kernel)

end Headnode
end EsdcFactory
