import EsdcFactory.Headnode.Setup

/-!
# What the steps of the setup do

Each step of `headnode.sh` before the service VMs is known by what it leaves alone.
The passwords it asks for are in the store from then on.
-/

namespace EsdcFactory
namespace Headnode

open Installer Interrupt

/-!
## Steps before the VMs
-/

/-- What the steps before the VMs leave alone, and passwords that are kept. -/
structure Prepares (m m' : Machine) : Prop where
  setupComplete : m'.setupComplete = m.setupComplete
  vms : m'.vms = m.vms
  cameUp : m'.cameUp = m.cameUp
  cfgdb : m'.cfgdb = m.cfgdb
  stored : forall name, m.stored name ≠ [] -> m'.stored name = m.stored name

theorem Prepares.refl (m : Machine) : Prepares m m where
  setupComplete := rfl
  vms := rfl
  cameUp := rfl
  cfgdb := rfl
  stored := fun _ _ => rfl

theorem Prepares.trans {m m' m'' : Machine} (h : Prepares m m') (h' : Prepares m' m'') :
    Prepares m m'' where
  setupComplete := h'.setupComplete.trans h.setupComplete
  vms := h'.vms.trans h.vms
  cameUp := h'.cameUp.trans h.cameUp
  cfgdb := h'.cfgdb.trans h.cfgdb
  stored := by
    intro name hname
    have hkept := h.stored name hname
    rw [h'.stored name (by rw [hkept]; exact hname), hkept]

theorem Meets.prepares {α : Type} {p : Program Machine α} {m m' : Machine}
    (h : Prepares m m') (hp : Meets p m' (Prepares m') fun _ => Prepares m') :
    Meets p m' (Prepares m) fun _ => Prepares m :=
  hp.mono (fun _ => h.trans) fun _ _ => h.trans

theorem generateSshKeys_prepares (env : Env) (m : Machine) :
    Meets (generateSshKeys env) m (Prepares m) fun _ => Prepares m := by
  have hsame : forall {m' : Machine}, m'.setupComplete = m.setupComplete ->
      m'.vms = m.vms -> m'.cameUp = m.cameUp -> m'.cfgdb = m.cfgdb ->
      m'.passwords = m.passwords -> Prepares m m' := by
    intro m' hsetup hvms hup hcfgdb hpasswords
    exact ⟨hsetup, hvms, hup, hcfgdb, fun name _ => by rw [Machine.stored, hpasswords]; rfl⟩
  refine Meets.read_bind ?_
  split
  · exact Meets.pure (Prepares.refl m)
  · refine Meets.write_bind (hsame rfl rfl rfl rfl rfl) ?_
    refine Meets.write_bind (hsame rfl rfl rfl rfl rfl) ?_
    exact Meets.write (hsame rfl rfl rfl rfl rfl) (hsame rfl rfl rfl rfl rfl)

theorem rootAuthorizedKeys_prepares (m : Machine) :
    Meets rootAuthorizedKeys m (Prepares m) fun _ => Prepares m := by
  refine Meets.read_bind ?_
  split
  · exact Meets.pure (Prepares.refl m)
  · exact Meets.fatal _ _

theorem generateSvcSslCert_prepares (env : Env) (m : Machine) :
    Meets (generateSvcSslCert env) m (Prepares m) fun _ => Prepares m := by
  have hsame : forall key cert file, Prepares m
      { m with svcKeyTmpfile := key, svcCertTmpfile := cert, svcCertFile := file } :=
    fun _ _ _ => ⟨rfl, rfl, rfl, rfl, fun _ _ => rfl⟩
  refine Meets.read_bind ?_
  split
  · exact Meets.pure (Prepares.refl m)
  · refine Meets.write_bind (hsame _ _ _) ?_
    refine Meets.write_bind (hsame _ _ _) ?_
    refine Meets.write_bind (hsame _ _ _) ?_
    refine Meets.write_bind (hsame _ _ _) ?_
    split
    · exact Meets.fatal _ _
    · exact Meets.write_bind (hsame _ _ _) (Meets.pure (hsame _ _ _))

theorem configureErigonesd_prepares (m : Machine) :
    Meets configureErigonesd m (Prepares m) fun _ => Prepares m := by
  refine Meets.read_bind ?_
  split
  · exact Meets.pure (Prepares.refl m)
  · exact Meets.fatal _ _

/-!
## Passwords
-/

/-- No password that is missing in the store comes out empty. -/
def Draws (m : Machine) (env : Env) : Prop :=
  forall name, m.stored name = [] -> env.randomString name ≠ []

theorem Draws.of_prepares {m m' : Machine} {env : Env} (h : Draws m env)
    (hprepares : Prepares m m') : Draws m' env := by
  intro name hname
  apply h name
  by_contra hstored
  rw [hprepares.stored name hstored] at hname
  exact hstored hname

theorem getPassword_prepares (env : Env) (name : Password) (m : Machine) :
    Meets (getPassword env name) m (Prepares m) fun pwdval m' =>
      Prepares m m' ∧ pwdval = m'.stored name ∧ (Draws m env -> pwdval ≠ []) := by
  refine Meets.read_bind ?_
  split
  next hstored => exact Meets.pure ⟨Prepares.refl m, rfl, fun _ => hstored⟩
  next hstored =>
    have hempty : m.stored name = [] := by simpa using hstored
    have hprepares : Prepares m { m with
        passwords := some (Function.update m.stored name (env.randomString name)) } := by
      refine ⟨rfl, rfl, rfl, rfl, ?_⟩
      intro other hother
      apply Function.update_of_ne
      intro heq
      subst heq
      exact hother hempty
    refine Meets.write_bind hprepares (Meets.pure ⟨hprepares, ?_, fun hdraws => hdraws name hempty⟩)
    exact (Function.update_self name (env.randomString name) m.stored).symm

/-- The passwords of a run are those in the store. -/
def FromStore (names : List Password) (passwords : Password -> List Char) (m : Machine) :
    Prop :=
  forall name, name ∈ names -> passwords name = m.stored name ∧ m.stored name ≠ []

theorem getPasswords_prepares (env : Env) (names : List Password) (m : Machine) :
    Meets (getPasswords env names) m (Prepares m) fun passwords m' =>
      Prepares m m' ∧ (Draws m env -> FromStore names passwords m') := by
  induction names generalizing m with
  | nil => exact Meets.pure ⟨Prepares.refl m, fun _ => nofun⟩
  | cons name names ih =>
      refine (getPassword_prepares env name m).bind ?_
      intro pwdval m' h
      rcases h with ⟨hprepares, hpwdval, hdrawn⟩
      refine Meets.bind ((ih m').mono (fun _ => hprepares.trans) (fun _ _ => id)) ?_
      intro others m'' h
      rcases h with ⟨hprepares', hothers⟩
      refine Meets.pure ⟨hprepares.trans hprepares', ?_⟩
      intro hdraws other hother
      by_cases hname : other = name
      · subst hname
        have hstored : m'.stored other ≠ [] := by
          rw [← hpwdval]
          exact hdrawn hdraws
        rw [Function.update_self, hprepares'.stored other hstored]
        exact ⟨hpwdval, hstored⟩
      · rw [Function.update_of_ne hname]
        apply hothers (hdraws.of_prepares hprepares)
        exact (List.mem_cons.mp hother).resolve_left hname

theorem mem_passwordList (name : Password) : name ∈ passwordList := by
  cases name <;> decide

theorem FromStore.of_prepares {names : List Password} {passwords : Password -> List Char}
    {m m' : Machine} (h : FromStore names passwords m) (hprepares : Prepares m m') :
    FromStore names passwords m' := by
  intro name hname
  rcases h name hname with ⟨hpassword, hstored⟩
  rw [hprepares.stored name hstored]
  exact ⟨hpassword, hstored⟩

def ManifestVars.password (vars : ManifestVars) : Password -> List Char
  | .rabbitmq => vars.rabbitmqPassword
  | .redis => vars.redisPassword
  | .pgsqlEsdc => vars.pgsqlEsdcPassword
  | .pgsqlPdns => vars.pgsqlPdnsPassword
  | .pgsqlMgmtMon => vars.pgsqlMgmtMonPassword
  | .zabbixEsdc => vars.zabbixEsdcPassword
  | .zabbixAdmin => vars.zabbixAdminPassword

theorem password_manifestVars (node : Node) (env : Env) (rootKeys : List Char)
    (passwords : Password -> List Char) (cert key : List Char) (name : Password) :
    (node.manifestVars env rootKeys passwords cert key).password name = passwords name := by
  cases name <;> rfl

/-!
## The loop over the VMs
-/

theorem not_mem_wantedVms {node : Node} (h : node.deploysOpnsense = false) :
    .opnsense ∉ node.wantedVms := by
  simp [Node.wantedVms, h]

/-- All VMs exist that the headnode is to have. -/
def Created (node : Node) (m : Machine) : Prop :=
  forall vm, vm ∈ node.wantedVms -> (m.vms vm).isSome = true

/-- A new VM with its manifest, and whether it was seen to come up. -/
def Machine.addVm (m : Machine) (vm : Vm) (vars : ManifestVars) (up : Bool) : Machine :=
  { m with
    vms := Function.update m.vms vm (some vars)
    cameUp := if up then Function.update m.cameUp vm true else m.cameUp }

theorem addVm_vms (m : Machine) (vm : Vm) (vars : ManifestVars) (up : Bool) :
    (m.addVm vm vars up).vms = Function.update m.vms vm (some vars) :=
  rfl

theorem addVm_vms_self {m : Machine} {vm : Vm} {vars : ManifestVars} {up : Bool} :
    (m.addVm vm vars up).vms vm = some vars := by
  rw [addVm_vms, Function.update_self]

theorem addVm_vms_of_ne {m : Machine} {vm vm' : Vm} {vars : ManifestVars} {up : Bool}
    (h : vm' ≠ vm) : (m.addVm vm vars up).vms vm' = m.vms vm' := by
  rw [addVm_vms, Function.update_of_ne h]

/-- What the rounds of the loop keep, and what holds of a VM that was just created. -/
structure RoundsKeep (node : Node) (env : Env) (vars : ManifestVars)
    (inv mid : Machine -> Prop) : Prop where
  visited : forall m, mid m -> inv m
  manifest : forall m vmmanifest, mid m -> mid { m with vmmanifest := vmmanifest }
  created : forall m vm, mid m -> m.vms vm = none -> inv (m.addVm vm vars false)
  up : forall m vm, mid m -> m.vms vm = none -> node.waitFor vm (env.poll vm) = .up ->
    mid (m.addVm vm vars true)
  waived : forall m vm, mid m -> m.vms vm = none ->
    node.waitFor vm (env.poll vm) = .waived -> mid (m.addVm vm vars false)

/-- Behind some rounds of the loop. -/
structure Rounds (node : Node) (mid : Machine -> Prop) (before : List Vm) (m : Machine) :
    Prop where
  holds : mid m
  created : forall vm, vm ∈ before -> vm ∈ node.wantedVms -> (m.vms vm).isSome = true

theorem Rounds.append {node : Node} {mid : Machine -> Prop} {before : List Vm} {vm : Vm}
    {m m' : Machine} (h : Rounds node mid before m) (hmid : mid m')
    (hkept : forall vm', (m.vms vm').isSome = true -> (m'.vms vm').isSome = true)
    (hvm : vm ∈ node.wantedVms -> (m'.vms vm).isSome = true) :
    Rounds node mid (before ++ [vm]) m' where
  holds := hmid
  created := by
    intro vm' hvm' hwanted
    rcases List.mem_append.mp hvm' with hbefore | hlast
    · exact hkept vm' (h.created vm' hbefore hwanted)
    · rw [List.mem_singleton.mp hlast] at hwanted ⊢
      exact hvm hwanted

theorem Rounds.addVm {node : Node} {mid : Machine -> Prop} {before : List Vm} {vm : Vm}
    {vars : ManifestVars} {up : Bool} {m : Machine} (h : Rounds node mid before m)
    (hmid : mid (m.addVm vm vars up)) :
    Rounds node mid (before ++ [vm]) (m.addVm vm vars up) := by
  apply h.append hmid
  · intro vm' hvm'
    by_cases heq : vm' = vm
    · rw [heq, addVm_vms_self]
      rfl
    · rw [addVm_vms_of_ne heq]
      exact hvm'
  · intro _
    rw [addVm_vms_self]
    rfl

section Rounds

variable {node : Node} {env : Env} {vars : ManifestVars} {m : Machine}
variable {inv mid : Machine -> Prop} {before : List Vm}

/-- The wait ends with a VM that came up or that is not looked at, or it ends the script. -/
theorem awaitVm_rounds (hkeep : RoundsKeep node env vars inv mid) {vm : Vm}
    (h : Rounds node mid before m) (hnone : m.vms vm = none) :
    Meets (awaitVm node env vm) (m.addVm vm vars false) inv fun _ =>
      Rounds node mid (before ++ [vm]) := by
  rw [awaitVm]
  split
  next hwaited =>
    have hup := hkeep.up m vm h.holds hnone hwaited
    exact Meets.write (hkeep.visited _ hup) (h.addVm hup)
  next hwaited => exact Meets.pure (h.addVm (hkeep.waived m vm h.holds hnone hwaited))
  · exact Meets.fatal _ _
  · exact Meets.fatal _ _

theorem createVm_rounds (hkeep : RoundsKeep node env vars inv mid) (vm : Vm)
    (h : Rounds node mid before m) :
    Meets (createVm node env vars vm) m inv fun _ => Rounds node mid (before ++ [vm]) := by
  rw [createVm]
  split
  next hskipped =>
    rcases hskipped with ⟨rfl, hdeploy⟩
    exact Meets.pure (h.append h.holds (fun _ => id)
      fun hwanted => absurd hwanted (not_mem_wantedVms hdeploy))
  next =>
    have hmid := hkeep.manifest m (Function.update m.vmmanifest vm (some vars)) h.holds
    have hrounds : Rounds node mid before
        { m with vmmanifest := Function.update m.vmmanifest vm (some vars) } :=
      ⟨hmid, h.created⟩
    refine Meets.write_bind (hkeep.visited _ hmid) (Meets.read_bind ?_)
    split
    next hfound => exact Meets.pure (hrounds.append hmid (fun _ => id) fun _ => hfound)
    next hfound =>
      have hnone : m.vms vm = none := Option.not_isSome_iff_eq_none.mp hfound
      refine Meets.write_bind ?_ ?_
      · simp only [Function.update_self]
        exact hkeep.created _ vm hmid hnone
      · simp only [Function.update_self]
        exact awaitVm_rounds hkeep hrounds hnone

theorem createVms_meets (hkeep : RoundsKeep node env vars inv mid) (h : mid m) :
    Meets (each (createVm node env vars) usbVms) m inv fun _ m' =>
      mid m' ∧ Created node m' := by
  have hloop : Meets (each (createVm node env vars) usbVms) m inv fun _ =>
      Rounds node mid usbVms := by
    refine Meets.each (Rounds node mid) ⟨h, nofun⟩ ?_
    intro before vm after m' _ hrounds
    exact createVm_rounds hkeep vm hrounds
  refine hloop.mono (fun _ => id) ?_
  intro _ m' hrounds
  refine ⟨hrounds.holds, ?_⟩
  intro vm hwanted
  exact hrounds.created vm (by cases vm <;> decide) hwanted

end Rounds

/-!
## The whole setup
-/

/-- Manifests have the passwords of the store and the keys that this run has drawn. -/
structure BuiltFrom (env : Env) (vars : ManifestVars) (m : Machine) : Prop where
  apiKey : vars.opnsenseApiKey = env.opnsenseApiKey
  apiSecret : vars.opnsenseApiSecret = env.opnsenseApiSecret
  passwords : forall name, vars.password name = m.stored name ∧ m.stored name ≠ []

theorem BuiltFrom.of_stored {env : Env} {vars : ManifestVars} {m m' : Machine}
    (h : BuiltFrom env vars m) (hpasswords : m'.passwords = m.passwords) :
    BuiltFrom env vars m' := by
  refine ⟨h.apiKey, h.apiSecret, ?_⟩
  intro name
  have hstored : m'.stored name = m.stored name := by
    rw [Machine.stored, hpasswords]
    rfl
  rw [hstored]
  exact h.passwords name

/-- A run of the setup, from what holds of its VMs, of the database and at its end. -/
theorem setup_meets {node : Node} {env : Env} {m : Machine} {inv : Machine -> Prop}
    (mid : ManifestVars -> Machine -> Prop) (fin : Machine -> Prop)
    (hprepares : forall m', Prepares m m' -> inv m')
    (hvms : forall vars m', Prepares m m' -> (Draws m env -> BuiltFrom env vars m') ->
      Meets (each (createVm node env vars) usbVms) m' inv fun _ => mid vars)
    (hcfgdb : forall vars m', mid vars m' ->
      Meets (configureCfgdb node env vars) m' inv fun _ => fin)
    (hdone : forall m' key cert passwords, fin m' -> inv { m' with
      setupComplete := true, svcKeyTmpfile := key, svcCertTmpfile := cert,
      passwords := passwords }) :
    Meets (setup node env) m inv fun _ _ => True := by
  refine Meets.bind ((generateSshKeys_prepares env m).mono hprepares fun _ _ => id) ?_
  intro _ m1 h1
  have hroot := Meets.prepares h1 (rootAuthorizedKeys_prepares m1)
  refine Meets.bind (hroot.mono hprepares fun _ _ => id) ?_
  intro rootKeys m2 h2
  have hpasswords := getPasswords_prepares env passwordList m2
  refine Meets.bind (hpasswords.mono (fun _ h => hprepares _ (h2.trans h)) fun _ _ => id) ?_
  intro passwords m3 hparts
  rcases hparts with ⟨h3, hdrawn⟩
  have hcert := generateSvcSslCert_prepares env m3
  refine Meets.bind
    (hcert.mono (fun _ h => hprepares _ ((h2.trans h3).trans h)) fun _ _ => id) ?_
  intro certAndKey m4 h4
  have herigonesd := configureErigonesd_prepares m4
  refine Meets.bind
    (herigonesd.mono (fun _ h => hprepares _ (((h2.trans h3).trans h4).trans h)) fun _ _ => id) ?_
  intro _ m5 h5
  refine Meets.bind (hvms _ m5 (((h2.trans h3).trans h4).trans h5) ?_) ?_
  · intro hdraws
    refine ⟨rfl, rfl, ?_⟩
    intro name
    rw [password_manifestVars]
    have hstore := (hdrawn (hdraws.of_prepares h2)).of_prepares (h4.trans h5)
    exact hstore name (mem_passwordList name)
  · intro _ m6 h6
    refine Meets.bind (hcfgdb _ m6 h6) ?_
    intro _ m7 h7
    have hend := fun key cert passwords => hdone m7 key cert passwords h7
    refine Meets.write_bind (hend _ _ _) ?_
    refine Meets.write_bind (hend _ _ _) ?_
    refine Meets.write_bind (hend _ _ _) ?_
    exact Meets.write (hend _ _ _) trivial

/-- A run of the script is a run of the setup or leaves all as it is. -/
theorem headnode_meets {node : Node} {env : Env} {m : Machine} {inv : Machine -> Prop}
    (h : m.setupComplete = false -> Meets (setup node env) m inv fun _ _ => True) :
    Meets (headnode node env) m inv fun _ _ => True := by
  rw [headnode]
  split
  · exact Meets.pure trivial
  · refine Meets.read_bind ?_
    split
    · exact Meets.pure trivial
    next hcomplete =>
      split
      · exact Meets.fatal _ _
      · exact h (Bool.eq_false_iff.mpr hcomplete)

/-!
## The database
-/

theorem creater_eq_none_iff {path p : Path} {value : List Char}
    {cfgdb : Path -> Option (List Char)} :
    creater path value cfgdb p = none <-> cfgdb p = none ∧ ¬ p <+: path := by
  rw [creater]
  split
  next heq => simp [heq]
  next =>
    split
    next habove => simp [habove.1]
    next habove =>
      rw [Option.isNone_iff_eq_none] at habove
      constructor
      · intro h
        exact ⟨h, fun hpath => habove ⟨hpath, h⟩⟩
      · exact And.left

/-- The database is filled node by node, and nothing else changes. -/
theorem configureCfgdb_meets {node : Node} {env : Env} {vars : ManifestVars} {m : Machine}
    {inv mid : Machine -> Prop} (hinv : forall m', mid m' -> inv m')
    (hstore : forall entry m', entry ∈ cfgdbEntries node env vars m -> mid m' ->
      mid { m' with cfgdb := creater entry.1 entry.2 m'.cfgdb }) (h : mid m) :
    Meets (configureCfgdb node env vars) m inv fun _ => mid := by
  refine Meets.read_bind (Meets.each (fun _ => mid) h ?_)
  intro before entry after m' hentries hm'
  refine Meets.read_bind ?_
  split
  · exact Meets.fatal _ _
  · have hentry : entry ∈ cfgdbEntries node env vars m := by
      rw [hentries]
      exact List.mem_append_right before List.mem_cons_self
    have hstored := hstore entry m' hentry hm'
    exact Meets.write (hinv _ hstored) hstored

/-!
## A headnode with a router
-/

def plainNode : Node where
  config :=
    [.bare "admin_netmask" "255.255.255.0",
      .bare "admin_gateway" "10.0.0.1",
      .bare "headnode_default_gateway" "10.0.0.1",
      .bare "mgmt_admin_ip" "10.0.0.11",
      .bare "mon_admin_ip" "10.0.0.12",
      .bare "dns_admin_ip" "10.0.0.13",
      .bare "img_admin_ip" "10.0.0.14",
      .bare "cfgdb_admin_ip" "10.0.0.15",
      .quoted "esdc_install_password" "secret",
      .bare "opnsense_deploy" "true"]
  esdcMgmt := fun _ => []
  uuid := "node01"
  hostname := "node01".toList
  brand := fun vm => if vm = .opnsense then .kvm else .joyent

/-- All VMs come up at once. -/
def plainEnv : Env where
  sshPublicKey := "ssh-rsa AAAA".toList
  randomString := fun _ => "random".toList
  opnsenseApiKey := "key".toList
  opnsenseApiSecret := "secret".toList
  svcKey := "KEY".toList
  svcCert := "CERTIFICATE".toList
  opnsenseConfigXml := "<opnsense/>".toList
  poll := fun _ _ => ⟨true, false, false, true⟩
  vmJson := fun vm => ⟨vm.name.toList, vm.name.toList, "10.0.0.20".toList⟩

end Headnode
end EsdcFactory
