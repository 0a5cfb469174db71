import EsdcFactory.Cfgdb.RestServer

/-!
# The status of a finished command

The cfgdb server answers with a status that is to tell why `zookeepercli` failed.  It
looks for the reason in the first character of what the program printed.
-/

namespace EsdcFactory
namespace Cfgdb

open Urllib

/-!
## What the program leaves behind
-/

/-- The characters that `bytes.strip` removes. -/
def isAsciiSpace (c : Char) : Bool :=
  c = ' ' || c = '\t' || c = '\n' || c = '\r' || c = '\x0b' || c = '\x0c'

/-- `strip` -/
def strip (text : String) : String :=
  String.ofList ((text.toList.dropWhile isAsciiSpace).reverse.dropWhile isAsciiSpace).reverse

/-- The result that `run_zk_cmd` makes of an exit code and two texts. -/
def zkResult (returncode : Int) (stdout stderr : String) : ZkResult :=
  ⟨returncode, strip stdout, strip stderr⟩

/-- The status that tells how a command ended. -/
def outcomeStatus (returncode : Int) (stderr : String) : Nat :=
  if returncode = 0 then 200
  else if "node does not exist".toList <:+: stderr.toList then 404
  else if "node already exists".toList <:+: stderr.toList then 406
  else 400

theorem strip_eq_empty_iff (text : String) :
    strip text = "" <-> text.toList.all isAsciiSpace = true := by
  unfold strip
  rw [← String.toList_eq_nil_iff, String.toList_ofList, List.reverse_eq_nil_iff,
    List.dropWhile_eq_nil_iff, List.all_eq_true]
  constructor
  · intro h
    by_contra hnot
    have hne : text.toList.dropWhile isAsciiSpace ≠ [] := by
      intro hnil
      exact hnot (List.dropWhile_eq_nil_iff.mp hnil)
    -- the first character that is kept is in the list and is no space
    have hhead := List.head_dropWhile_not isAsciiSpace hne
    have hspace := h _ (List.mem_reverse.mpr (List.head_mem hne))
    rw [hhead] at hspace
    cases hspace
  · intro h c hc
    exact h c ((List.dropWhile_suffix isAsciiSpace).subset (List.mem_reverse.mp hc))

theorem not_infix_singleton {phrase : List Char} (h : 1 < phrase.length) (c : Char) :
    ¬ phrase <:+: [c] := by
  intro hinfix
  have hle := hinfix.length_le
  rw [List.length_singleton] at hle
  omega

theorem zkStatus_failed {res : ZkResult} (h : res.returncode ≠ 0) :
    zkStatus res = if res.stderr = "" then none else some 400 := by
  unfold zkStatus
  rw [if_neg h]
  cases htext : res.stderr.toList with
  | nil => rw [if_pos (String.toList_eq_nil_iff.mp htext)]
  | cons first rest =>
      have hne : res.stderr ≠ "" := by
        intro hempty
        rw [hempty] at htext
        cases htext
      rw [if_neg hne]
      simp only [if_neg (not_infix_singleton (by decide : 1 <
        "node does not exist".toList.length) first), if_neg (not_infix_singleton
        (by decide : 1 < "node already exists".toList.length) first)]

/-!
## Replies to a command that was run
-/

/-- The reply behind the process. -/
def replyTo (zookeepercli : ZkCall -> Option ZkResult) (call : ZkCall) : Reply :=
  match zookeepercli call with
  | none => .failed call
  | some res =>
      match zkStatus res with
      | none => .failed call
      | some status => .result call res status

theorem handleRequest_of_ran {loads : List UInt8 -> Option Json}
    {zookeepercli : ZkCall -> Option ZkResult} {req : Request} {call : ZkCall}
    (h : (handleRequest loads zookeepercli req).ran = some call) :
    handleRequest loads zookeepercli req = replyTo zookeepercli call := by
  rcases handleRequest_ran h with ⟨command, data, hcmd, hlisted, hdata, hrun⟩
  unfold handleRequest replyTo
  cases hres : zookeepercli call with
  | none => simp only [hcmd, hlisted, not_true_eq_false, if_false, hdata, hrun, hres]
  | some res =>
      cases hstatus : zkStatus res with
      | none =>
          simp only [hcmd, hlisted, not_true_eq_false, if_false, hdata, hrun, hres, hstatus]
      | some status =>
          simp only [hcmd, hlisted, not_true_eq_false, if_false, hdata, hrun, hres, hstatus]

theorem replyTo_result {zookeepercli : ZkCall -> Option ZkResult} {call : ZkCall}
    {res : ZkResult} {status : Nat} (hres : zookeepercli call = some res)
    (h : zkStatus res = some status) :
    replyTo zookeepercli call = .result call res status := by
  simp [replyTo, hres, h]

theorem replyTo_failed {zookeepercli : ZkCall -> Option ZkResult} {call : ZkCall}
    {res : ZkResult} (hres : zookeepercli call = some res) (h : zkStatus res = none) :
    replyTo zookeepercli call = .failed call := by
  simp [replyTo, hres, h]

theorem serve_of_ran {loads : List UInt8 -> Option Json}
    {zookeepercli : ZkCall -> Option ZkResult} {req : Request} {call : ZkCall}
    (h : (serve loads zookeepercli req).ran = some call) :
    serve loads zookeepercli req = replyTo zookeepercli call := by
  have hgate : forall method, method = req.method -> method ≠ .head -> method ≠ .other ->
      serve loads zookeepercli req = esdcHandleRequest loads zookeepercli req := by
    intro method hmethod hhead hother
    unfold serve
    rw [← hmethod]
    cases method <;> first | rfl | exact absurd rfl hhead | exact absurd rfl hother
  have hhead : req.method ≠ .head := by
    intro hmethod
    unfold serve at h
    rw [hmethod] at h
    simp only at h
    split at h <;> cases h
  have hother : req.method ≠ .other := by
    intro hmethod
    unfold serve at h
    rw [hmethod] at h
    cases h
  rw [hgate _ rfl hhead hother] at h ⊢
  unfold esdcHandleRequest at h ⊢
  split at h
  next hpath =>
    rw [if_pos hpath]
    exact handleRequest_of_ran h
  next => cases h

/--
The status tells how a command ended exactly when the command succeeded, or when it
printed something that holds neither of the two reasons.
-/
theorem status_tells_outcome_iff (loads : List UInt8 -> Option Json) (req : Request)
    (call : ZkCall) (returncode : Int) (stdout stderr : String)
    (h : (serve loads (fun _ => some (zkResult returncode stdout stderr)) req).ran =
      some call) :
    serve loads (fun _ => some (zkResult returncode stdout stderr)) req =
        .result call (zkResult returncode stdout stderr) (outcomeStatus returncode stderr) <->
      returncode = 0 ∨ (stderr.toList.all isAsciiSpace = false ∧
        ¬ "node does not exist".toList <:+: stderr.toList ∧
        ¬ "node already exists".toList <:+: stderr.toList) := by
  rw [serve_of_ran h]
  by_cases hcode : returncode = 0
  · have hstatus : zkStatus (zkResult returncode stdout stderr) = some 200 := if_pos hcode
    rw [replyTo_result rfl hstatus, outcomeStatus, if_pos hcode]
    exact iff_of_true rfl (Or.inl hcode)
  · have hstatus : zkStatus (zkResult returncode stdout stderr) =
        if strip stderr = "" then none else some 400 := zkStatus_failed hcode
    by_cases hblank : strip stderr = ""
    · rw [if_pos hblank] at hstatus
      rw [replyTo_failed rfl hstatus]
      have hspaces := (strip_eq_empty_iff stderr).mp hblank
      refine iff_of_false nofun ?_
      intro hparts
      rcases hparts with hzero | ⟨hprinted, _⟩
      · exact hcode hzero
      · rw [hspaces] at hprinted
        cases hprinted
    · rw [if_neg hblank] at hstatus
      rw [replyTo_result rfl hstatus]
      have hprinted : stderr.toList.all isAsciiSpace = false := by
        rw [Bool.eq_false_iff]
        exact fun hspaces => hblank ((strip_eq_empty_iff stderr).mpr hspaces)
      have hreason : (400 = outcomeStatus returncode stderr) <->
          ¬ "node does not exist".toList <:+: stderr.toList ∧
          ¬ "node already exists".toList <:+: stderr.toList := by
        unfold outcomeStatus
        rw [if_neg hcode]
        split
        next hmissing => exact iff_of_false (by decide) fun hnone => hnone.1 hmissing
        next hmissing =>
          split
          next hexists => exact iff_of_false (by decide) fun hnone => hnone.2 hexists
          next hexists => exact iff_of_true rfl ⟨hmissing, hexists⟩
      constructor
      · intro hsame
        have hreply : (400 : Nat) = outcomeStatus returncode stderr := by
          injection hsame
        exact Or.inr ⟨hprinted, hreason.mp hreply⟩
      · intro hparts
        rcases hparts with hzero | ⟨_, hnone⟩
        · exact absurd hzero hcode
        · rw [← hreason.mpr hnone]

/-- A `GET` below `/esdc`, without headers or body. -/
def nodeRequest : Request where
  method := .get
  path := "/esdc/settings"
  content := some []
  zkUsername := none
  zkPassword := none

def nodeCall : ZkCall :=
  ⟨false, none, none, "get", "/esdc/settings", none⟩

theorem status_tells_outcome_iff_success :
    serve (fun _ => none) (fun _ => some (zkResult 0 "42" "")) nodeRequest =
        .result nodeCall (zkResult 0 "42" "") (outcomeStatus 0 "") <->
      (0 : Int) = 0 ∨ ("".toList.all isAsciiSpace = false ∧
        ¬ "node does not exist".toList <:+: "".toList ∧
        ¬ "node already exists".toList <:+: "".toList) :=
  status_tells_outcome_iff (fun _ => none) nodeRequest nodeCall 0 "42" "" (by decide +kernel)

/-- A node that does not exist is reported as a bad request. -/
theorem missing_node_is_bad_request :
    serve (fun _ => none) (fun _ => some (zkResult 1 "" "node does not exist")) nodeRequest =
        .result nodeCall (zkResult 1 "" "node does not exist") 400 ∧
      outcomeStatus 1 "node does not exist" = 404 := by
  constructor
  · have hran : (serve (fun _ => none)
        (fun _ => some (zkResult 1 "" "node does not exist")) nodeRequest).ran =
          some nodeCall := by
      decide +kernel
    rw [serve_of_ran hran]
    exact replyTo_result rfl (by decide +kernel)
  · decide +kernel

end Cfgdb
end EsdcFactory
