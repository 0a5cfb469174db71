import EsdcFactory.Headnode.SetupFacts

/-!
# Running the setup again

A run that was interrupted leaves files and nodes of the configuration database behind.
A later run takes them for the work of a run that came to its end.
-/

namespace EsdcFactory
namespace Headnode

open Installer Interrupt

/-!
## Steps that find work of an earlier run
-/

/-- What the certificate and the database need to be the same. -/
structure SameFiles (m m' : Machine) : Prop where
  svcCertFile : m'.svcCertFile = m.svcCertFile
  svcCertTmpfile : m'.svcCertTmpfile = m.svcCertTmpfile
  svcKeyTmpfile : m'.svcKeyTmpfile = m.svcKeyTmpfile
  cfgdb : m'.cfgdb = m.cfgdb

theorem SameFiles.trans {m m' m'' : Machine} (h : SameFiles m m') (h' : SameFiles m' m'') :
    SameFiles m m'' where
  svcCertFile := h'.svcCertFile.trans h.svcCertFile
  svcCertTmpfile := h'.svcCertTmpfile.trans h.svcCertTmpfile
  svcKeyTmpfile := h'.svcKeyTmpfile.trans h.svcKeyTmpfile
  cfgdb := h'.cfgdb.trans h.cfgdb

theorem getElem_one_of_prefix {p q : Path} {kind : String} (h : q <+: p)
    (hkind : q[1]? = some kind) : p[1]? = some kind := by
  rcases h with ⟨rest, rfl⟩
  rw [List.getElem?_append_left]
  · exact hkind
  · exact (List.getElem?_eq_some_iff.mp hkind).1

/-- No node is at or above one that is made before it. -/
def InOrder (entries : List (Path × List Char)) : Prop :=
  entries.Pairwise fun earlier later => ¬ later.1 <+: earlier.1

theorem second_settingsEntries {node : Node} {vars : ManifestVars} {svcCert : List Char}
    {entry : Path × List Char} (h : entry ∈ settingsEntries node vars svcCert) :
    entry.1[1]? = some "settings" := by
  have hall : forall entry, entry ∈ settingsEntries node vars svcCert ->
      entry.1[1]? = some "settings" := by
    simp [settingsEntries, setting]
  exact hall entry h

theorem second_nodeEntries {node : Node} {entry : Path × List Char}
    (h : entry ∈ nodeEntries node) : entry.1[1]? = some "nodes" := by
  have hall : forall entry, entry ∈ nodeEntries node -> entry.1[1]? = some "nodes" := by
    simp [nodeEntries]
  exact hall entry h

theorem second_vmEntries {node : Node} {env : Env} {vars : ManifestVars} {vm : Vm}
    {entry : Path × List Char} (h : entry ∈ vmEntries node env vars vm) :
    entry.1[1]? = some "vms" ∧ entry.1[2]? = some vm.name := by
  have hall : forall entry, entry ∈ vmEntries node env vars vm ->
      entry.1[1]? = some "vms" ∧ entry.1[2]? = some vm.name := by
    cases vm <;> simp [vmEntries]
  exact hall entry h

theorem inOrder_iff (entries : List (Path × List Char)) :
    InOrder entries <->
      (entries.map Prod.fst).Pairwise fun earlier later => ¬ later <+: earlier := by
  rw [InOrder, List.pairwise_map]

theorem settingsEntries_inOrder (node : Node) (vars : ManifestVars) (svcCert : List Char) :
    InOrder (settingsEntries node vars svcCert) := by
  have hpaths : (settingsEntries node vars svcCert).map Prod.fst =
      (settingsEntries plainNode (plainNode.manifestVars plainEnv [] (fun _ => []) [] [])
        []).map Prod.fst := rfl
  rw [inOrder_iff, hpaths]
  decide +kernel

theorem vmEntries_inOrder (node : Node) (env : Env) (vars : ManifestVars) (vm : Vm) :
    InOrder (vmEntries node env vars vm) := by
  have hpaths : (vmEntries node env vars vm).map Prod.fst =
      (vmEntries plainNode plainEnv
        (plainNode.manifestVars plainEnv [] (fun _ => []) [] []) vm).map Prod.fst := by
    cases vm <;> rfl
  rw [inOrder_iff, hpaths]
  cases vm <;> decide +kernel

theorem nodeEntries_inOrder (node : Node) : InOrder (nodeEntries node) := by
  simp [InOrder, nodeEntries, List.cons_prefix_cons]

theorem name_injective {vm vm' : Vm} (h : vm.name = vm'.name) : vm = vm' := by
  cases vm <;> cases vm' <;> first | rfl | simp [Vm.name] at h

theorem wantedVms_nodup (node : Node) : node.wantedVms.Nodup :=
  List.Pairwise.filter _ (by decide : usbVms.Nodup)

theorem cfgdbEntries_inOrder (node : Node) (env : Env) (vars : ManifestVars) (m : Machine) :
    InOrder (cfgdbEntries node env vars m) := by
  refine List.pairwise_append.mpr ⟨List.pairwise_append.mpr
    ⟨settingsEntries_inOrder node vars _, nodeEntries_inOrder node, ?_⟩, ?_, ?_⟩
  · intro earlier hearlier later hlater hpath
    have hkind := getElem_one_of_prefix hpath (second_nodeEntries hlater)
    rw [second_settingsEntries hearlier] at hkind
    exact absurd hkind (by decide)
  · refine List.pairwise_flatMap.mpr ⟨fun vm _ => vmEntries_inOrder node env vars vm, ?_⟩
    refine (List.Pairwise.filter _ (wantedVms_nodup node)).imp ?_
    intro vm vm' hne earlier hearlier later hlater hpath
    apply hne
    apply name_injective
    rcases hpath with ⟨rest, hrest⟩
    have hname := (second_vmEntries hearlier).2
    have hname' := (second_vmEntries hlater).2
    rw [← hrest, List.getElem?_append_left (List.getElem?_eq_some_iff.mp hname').1, hname']
      at hname
    exact (Option.some.inj hname).symm
  · intro earlier hearlier later hlater hpath
    rcases List.mem_flatMap.mp hlater with ⟨vm, _, hvm⟩
    have hkind := getElem_one_of_prefix hpath (second_vmEntries hvm).1
    rcases List.mem_append.mp hearlier with hearlier | hearlier
    · rw [second_settingsEntries hearlier] at hkind
      exact absurd hkind (by decide)
    · rw [second_nodeEntries hearlier] at hkind
      exact absurd hkind (by decide)

/-!
## All runs
-/

/-- The config is accepted, and the setup is not kept back. -/
def Node.Accepted (node : Node) : Prop :=
  node.var "stop_before_setup" ≠ "true" ∧ validateConfig node.config = .ok ()

section Setup

variable {node : Node} {env : Env} {m : Machine}

end Setup

end Headnode
end EsdcFactory
