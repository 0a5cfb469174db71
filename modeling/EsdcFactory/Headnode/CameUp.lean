import EsdcFactory.Headnode.SetupFacts

/-!
# Service VMs that came up

The setup is complete when all service VMs are in place.  A run waits for each VM that
it creates and fails when the VM does not come up, but it does not wait for a VM that it
finds.
-/

namespace EsdcFactory
namespace Headnode

open Installer Interrupt

/-!
## The wait for a VM
-/

/-- A look at a VM that came up. -/
def Node.Succeeds (node : Node) (vm : Vm) (poll : Poll) : Prop :=
  (node.brand vm = .joyent ∧ poll.provisionSuccess = true ∧ poll.maintenance = false) ∨
    (node.brand vm = .kvm ∧ poll.installed = true)

/-- The VMs that the script does not look at. -/
def Node.Waives (node : Node) (vm : Vm) : Prop :=
  node.brand vm = .unknown ∨
    (node.brand vm = .kvm ∧ vm = .opnsense ∧ node.var "coal" = "true")

theorem look_up {node : Node} {vm : Vm} {poll : Poll} (h : node.look vm poll = some .up) :
    node.Succeeds vm poll := by
  unfold Node.look at h
  split at h
  next hbrand =>
    split at h
    next hsuccess =>
      split at h
      · cases h
      next hclear => exact Or.inl ⟨hbrand, hsuccess, Bool.eq_false_iff.mpr hclear⟩
    next => split at h <;> cases h
  next hbrand =>
    split at h
    · cases h
    · split at h
      next hinstalled => exact Or.inr ⟨hbrand, hinstalled⟩
      · cases h
  · cases h

theorem look_waived {node : Node} {vm : Vm} {poll : Poll}
    (h : node.look vm poll = some .waived) : node.Waives vm := by
  unfold Node.look at h
  split at h
  next =>
    split at h
    · split at h <;> cases h
    · split at h <;> cases h
  next hbrand =>
    split at h
    next hcoal => exact Or.inr ⟨hbrand, hcoal⟩
    next => split at h <;> cases h
  next hbrand => exact Or.inl hbrand

theorem wait_look {node : Node} {vm : Vm} {poll : Nat -> Poll} {waited : Waited}
    (hwaited : waited ≠ .timeout) {looks seconds : Nat}
    (h : node.wait vm poll looks seconds = waited) :
    exists later, node.look vm (poll later) = some waited := by
  induction looks generalizing seconds with
  | zero => exact absurd h.symm hwaited
  | succ looks ih =>
      rw [Node.wait] at h
      split at h
      next seen hlook =>
        exists seconds
        rw [hlook, h]
      next =>
        split at h
        · exact absurd h.symm hwaited
        · exact ih h

theorem waitFor_up {node : Node} {vm : Vm} {poll : Nat -> Poll}
    (h : node.waitFor vm poll = .up) : exists seconds, node.Succeeds vm (poll seconds) := by
  have hup : Waited.up ≠ .timeout := nofun
  rcases wait_look hup h with ⟨seconds, hlook⟩
  exact ⟨seconds, look_up hlook⟩

theorem waitFor_waived {node : Node} {vm : Vm} {poll : Nat -> Poll}
    (h : node.waitFor vm poll = .waived) : node.Waives vm := by
  have hwaived : Waited.waived ≠ .timeout := nofun
  rcases wait_look hwaived h with ⟨_, hlook⟩
  exact look_waived hlook

/-!
## All runs
-/

/-- The setup is marked as complete only when all VMs came up. -/
def CompleteIsUp (node : Node) (m : Machine) : Prop :=
  m.setupComplete = true -> forall vm, vm ∈ node.wantedVms ->
    m.cameUp vm = true ∨ node.Waives vm

theorem CompleteIsUp.of_incomplete {node : Node} {m : Machine}
    (h : m.setupComplete = false) : CompleteIsUp node m := by
  intro hcomplete
  rw [h] at hcomplete
  cases hcomplete

/-- Each VM that exists came up. -/
def AllUp (node : Node) (m : Machine) : Prop :=
  forall vm, (m.vms vm).isSome = true -> m.cameUp vm = true ∨ node.Waives vm

theorem AllUp.addVm {node : Node} {m : Machine} {vm : Vm} {vars : ManifestVars} {up : Bool}
    (h : AllUp node m) (hup : up = true ∨ node.Waives vm) :
    AllUp node (m.addVm vm vars up) := by
  have hkept : forall vm', m.cameUp vm' = true -> (m.addVm vm vars up).cameUp vm' = true := by
    intro vm' hvm'
    unfold Machine.addVm
    cases up with
    | false => exact hvm'
    | true =>
        show Function.update m.cameUp vm true vm' = true
        rw [Function.update_apply]
        split
        · rfl
        · exact hvm'
  intro vm' hvm'
  by_cases heq : vm' = vm
  · subst heq
    refine hup.imp ?_ id
    intro hsame
    subst hsame
    exact Function.update_self vm' true m.cameUp
  · rw [addVm_vms_of_ne heq] at hvm'
    exact (h vm' hvm').imp (hkept vm') id

/-- What holds while a run creates VMs and fills the database. -/
structure Waiting (node : Node) (m : Machine) : Prop where
  setupComplete : m.setupComplete = false
  allUp : AllUp node m

theorem createVms_waiting {node : Node} {env : Env} {vars : ManifestVars} {m : Machine}
    (h : Waiting node m) :
    Meets (each (createVm node env vars) usbVms) m (CompleteIsUp node) fun _ m' =>
      Waiting node m' ∧ Created node m' := by
  have hkeep : RoundsKeep node env vars (CompleteIsUp node) (Waiting node) := by
    refine ⟨fun m hm => .of_incomplete hm.setupComplete, ?_, ?_, ?_, ?_⟩
    · intro m vmmanifest hm
      exact ⟨hm.setupComplete, hm.allUp⟩
    · intro m vm hm _
      exact CompleteIsUp.of_incomplete hm.setupComplete
    · intro m vm hm _ _
      exact ⟨hm.setupComplete, hm.allUp.addVm (Or.inl rfl)⟩
    · intro m vm hm _ hwaived
      exact ⟨hm.setupComplete, hm.allUp.addVm (Or.inr (waitFor_waived hwaived))⟩
  exact createVms_meets hkeep h

/-- A run that finds the setup incomplete finds no VM that did not come up. -/
def FindsAllUp (node : Node) (m : Machine) (_env : Env) : Prop :=
  m.setupComplete = false -> AllUp node m

theorem headnode_completeIsUp {node : Node} {env : Env} {m : Machine}
    (h : FindsAllUp node m env) :
    Meets (headnode node env) m (CompleteIsUp node) fun _ _ => True := by
  apply headnode_meets
  intro hsetup
  refine setup_meets (fun _ m' => Waiting node m' ∧ Created node m')
    (fun m' => Waiting node m' ∧ Created node m') ?_ ?_ ?_ ?_
  · intro m' hprepares
    exact CompleteIsUp.of_incomplete (hprepares.setupComplete.trans hsetup)
  · intro vars m' hprepares _
    have hall : AllUp node m' := by
      rw [AllUp, hprepares.vms, hprepares.cameUp]
      exact h hsetup
    exact createVms_waiting ⟨hprepares.setupComplete.trans hsetup, hall⟩
  · intro vars m' hm'
    refine configureCfgdb_meets (fun _ h' => .of_incomplete h'.1.setupComplete) ?_ hm'
    intro entry m'' _ h'
    exact ⟨⟨h'.1.setupComplete, h'.1.allUp⟩, h'.2⟩
  · intro m' key cert passwords hm' _ vm hwanted
    exact hm'.1.allUp vm (hm'.2 vm hwanted)

/-- In runs that find only VMs that came up, the setup is complete when all came up. -/
theorem complete_is_up (node : Node) (m : Machine) (h : Leaves node (FindsAllUp node) m) :
    CompleteIsUp node m := by
  refine Reached.keeps (CompleteIsUp.of_incomplete rfl) ?_ h
  intro m env hm hfinds
  exact headnode_completeIsUp hfinds

/-- All is done in the first run. -/
def firstRun : Machine :=
  (headnode plainNode plainEnv {}).cut {} 108

theorem complete_is_up_first_run : CompleteIsUp plainNode firstRun := by
  apply complete_is_up plainNode firstRun
  apply Reached.start.cut plainEnv
  intro _ vm hvm
  cases hvm

/-- The router never comes up. -/
def stuckRouter : Env :=
  { plainEnv with poll := fun vm _ => ⟨vm ≠ .opnsense, false, false, false⟩ }

def timedOut : Machine :=
  (headnode plainNode stuckRouter {}).cut {} 17

/-- The next run, which skips the router. -/
def skipped : Machine :=
  (headnode plainNode stuckRouter timedOut).cut timedOut 91

theorem skipped_router_is_complete : exists m, Leaves plainNode (fun _ _ => True) m ∧
    ¬ CompleteIsUp plainNode m := by
  have hrun : skipped.setupComplete = true ∧ skipped.cameUp .opnsense = false := by
    decide +kernel
  have hleaves : Leaves plainNode (fun _ _ => True) skipped :=
    (Reached.start.cut stuckRouter trivial 17).cut stuckRouter trivial 91
  refine ⟨skipped, hleaves, ?_⟩
  intro hup
  rcases hup hrun.1 .opnsense (by decide +kernel) with hcameUp | hwaived
  · rw [hrun.2] at hcameUp
    cases hcameUp
  · rcases hwaived with hbrand | hcoal
    · cases hbrand
    · exact absurd hcoal.2.2 (by decide +kernel)

end Headnode
end EsdcFactory
