import EsdcFactory.Cfgdb.RestServer

/-!
# What the access check of the cfgdb server confines

`ESDCZKRESTRequestHandler` compares the raw request target with the prefix
`/esdc`, while the node that is passed to `zookeepercli` comes from `urlparse`.
The two views agree only on targets whose path part is the node `/esdc` itself
or lies below it, and that `urlparse` leaves untouched.
-/

namespace EsdcFactory
namespace Cfgdb

open Text Urllib

/-- The path part of a request target: everything before the question mark. -/
def targetPath (target : String) : List Char :=
  before '?' target.toList

/-- The node `/esdc` or one below it. -/
def Confined (node : List Char) : Prop :=
  node = "/esdc".toList ∨ "/esdc/".toList <+: node

/-- A process started for a request names a listed command and the addressed node. -/
def GateHolds (loads : List UInt8 -> Option Json)
    (zookeepercli : ZkCall -> Option ZkResult) (req : Request) : Prop :=
  forall call, (serve loads zookeepercli req).ran = some call ->
    call.command ∈ zkCommands ∧
      call.node.toList = targetPath req.path ∧ Confined call.node.toList

/--
The targets on which the prefix check and the URL parser agree: the path part
is confined, holds no fragment mark, and has no parameters in its last segment.
-/
def PlainTarget (target : String) : Prop :=
  Confined (targetPath target) ∧ '#' ∉ targetPath target ∧
    ';' ∉ afterLast '/' (targetPath target)

/-- The deployed server starts a process exactly for the admitted requests. -/
theorem serve_ran_iff {loads : List UInt8 -> Option Json}
    {zookeepercli : ZkCall -> Option ZkResult} {req : Request} :
    (exists call, (serve loads zookeepercli req).ran = some call) <->
      Admitted loads req := by
  constructor
  · intro hparts
    rcases hparts with ⟨call, h⟩
    have hgate : req.method ∈ [Method.get, .post, .put, .delete] ∧
        (esdcHandleRequest loads zookeepercli req).ran = some call := by
      unfold serve at h
      cases hm : req.method <;> simp only [hm] at h
      case head => split at h <;> cases h
      case other => cases h
      all_goals exact ⟨by simp, h⟩
    obtain ⟨hmethod, hesdc⟩ := hgate
    unfold esdcHandleRequest at hesdc
    split at hesdc
    · rename_i hpath
      obtain ⟨command, data, hcmd, hlisted, hdata, hrun⟩ :=
        handleRequest_ran hesdc
      obtain ⟨⟨hu, hp, hn, hd⟩, _⟩ := runZkCmd_ok_iff.mp hrun
      exact ⟨hmethod, hpath, ⟨command, hcmd, hlisted⟩, data, hdata, hu, hp,
        by simpa using hn, hd⟩
    · cases hesdc
  · rintro ⟨hmethod, hpath, ⟨command, hcmd, hlisted⟩, data, hdata, hu, hp,
      hn, hd⟩
    have hrun := runZkCmd_ok_iff.mpr
      ⟨⟨hu, hp, (by simpa using hn :
          (String.ofList (urlparse req.path.toList).path).length ≤
            defaultStringMaxLength), hd⟩,
        (rfl : _ = ZkCall.mk (Json.get data "force").truthy req.zkUsername
          req.zkPassword command _ _)⟩
    have hran := handleRequest_ran_of_checks zookeepercli hcmd hlisted hdata hrun
    have hserve : serve loads zookeepercli req =
        handleRequest loads zookeepercli req := by
      unfold serve esdcHandleRequest
      cases hm : req.method <;> simp_all
    exact ⟨_, by rw [hserve]; exact hran⟩

theorem serve_ran_call {loads : List UInt8 -> Option Json}
    {zookeepercli : ZkCall -> Option ZkResult} {req : Request} {call : ZkCall}
    (h : (serve loads zookeepercli req).ran = some call) :
    call.command ∈ zkCommands ∧
      call.node.toList = (urlparse req.path.toList).path := by
  have hbase : (handleRequest loads zookeepercli req).ran = some call := by
    unfold serve at h
    cases hm : req.method <;> simp only [hm] at h
    case head => split at h <;> cases h
    case other => cases h
    all_goals
      unfold esdcHandleRequest at h
      split at h
      · exact h
      · cases h
  obtain ⟨command, data, _, hlisted, _, hrun⟩ := handleRequest_ran hbase
  obtain ⟨_, rfl⟩ := runZkCmd_ok_iff.mp hrun
  exact ⟨hlisted, by simp⟩

theorem path_eq_targetPath_iff {target : String}
    (h : esdcPrefix.toList <+: target.toList) :
    (urlparse target.toList).path = targetPath target <->
      '#' ∉ targetPath target ∧ ';' ∉ afterLast '/' (targetPath target) := by
  obtain ⟨rest, hrest⟩ := h
  have hrooted : target.toList = '/' :: 'e' :: ("sdc".toList ++ rest) := by
    rw [← hrest]
    rfl
  unfold targetPath
  rw [hrooted]
  exact urlparse_path_eq_before_iff _ (by decide)

/--
A request meets the gate's contract exactly when the server refuses it or its
target is plain.
-/
theorem gateHolds_iff_plainTarget (loads : List UInt8 -> Option Json)
    (zookeepercli : ZkCall -> Option ZkResult) (req : Request) :
    GateHolds loads zookeepercli req <->
      (Admitted loads req -> PlainTarget req.path) := by
  constructor
  · intro hgate hadmitted
    have hruns : exists call, (serve loads zookeepercli req).ran = some call :=
      serve_ran_iff.mpr hadmitted
    rcases hruns with ⟨call, hran⟩
    obtain ⟨_, hnode, hconfined⟩ := hgate call hran
    have hpath := (serve_ran_call hran).right
    rw [hnode] at hconfined
    have hplain := (path_eq_targetPath_iff hadmitted.right.left).mp
      (hpath.symm.trans hnode)
    exact ⟨hconfined, hplain⟩
  · intro hplain call hran
    have hadmitted := serve_ran_iff.mp ⟨call, hran⟩
    obtain ⟨hconfined, hmarks⟩ := hplain hadmitted
    obtain ⟨hlisted, hpath⟩ := serve_ran_call hran
    have hnode : call.node.toList = targetPath req.path :=
      hpath.trans ((path_eq_targetPath_iff hadmitted.right.left).mpr hmarks)
    exact ⟨hlisted, hnode, hnode ▸ hconfined⟩

/-- A `GET` for the sibling node `/esdcfoo`, without headers or body. -/
def siblingRequest : Request where
  method := .get
  path := "/esdcfoo"
  content := some []
  zkUsername := none
  zkPassword := none

/-- The prefix check lets a sibling of `/esdc` through. -/
theorem gate_passes_sibling_node :
    ¬ GateHolds (fun _ => none) (fun _ => some ⟨0, "", ""⟩) siblingRequest := by
  intro h
  have hran : (serve (fun _ => none) (fun _ => some ⟨0, "", ""⟩)
      siblingRequest).ran =
        some ⟨false, none, none, "get", "/esdcfoo", none⟩ := by
    decide
  have hconfined := (h _ hran).right.right
  revert hconfined
  unfold Confined
  decide

end Cfgdb
end EsdcFactory
