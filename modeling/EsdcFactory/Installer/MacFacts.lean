import EsdcFactory.Installer.ConfigFacts
import EsdcFactory.Installer.RunFacts

/-!
# Pairs of addresses in the config

The marks of network tags, and of the router, are joined by semicolons in the
config, and a mark that stands for a change of addresses is a pair with a comma.
No address and no name of an etherstub holds one of the two.
-/

namespace EsdcFactory
namespace Installer

open BashArith Function Text

/-!
## Words without separators
-/

/-- Neither of the two separators is in a word. -/
structure PlainWord (word : String) : Prop where
  comma : ',' ∉ word.toList
  semicolon : ';' ∉ word.toList

theorem plainWord_empty : PlainWord "" := by
  constructor <;> simp

theorem hexPairs_chars {n : Nat} {cs : List Char} (h : hexPairs n cs = true) :
    forall c, c ∈ cs -> isHexDigit c = true ∨ c = ':' := by
  induction n, cs using hexPairs.induct with
  | case1 a b =>
      simp only [hexPairs, Bool.and_eq_true] at h
      simp only [List.mem_cons, List.not_mem_nil, or_false]
      intro c hparts
      rcases hparts with rfl | rfl
      · exact Or.inl h.left
      · exact Or.inl h.right
  | case2 n a b rest ih =>
      simp only [hexPairs, Bool.and_eq_true] at h
      simp only [List.mem_cons]
      intro c hparts
      rcases hparts with rfl | rfl | rfl | hc
      · exact Or.inl h.left.left
      · exact Or.inl h.left.right
      · exact Or.inr rfl
      · exact ih h.right c hc
  | case3 n cs h1 h2 =>
      rw [hexPairs] at h
      · cases h
      · exact h1
      · exact h2

theorem plainWord_of_isMac {mac : String} (h : isMac mac = true) : PlainWord mac := by
  have hchar : forall c, c ∈ mac.toList ->
      isHexDigit c.toLower = true ∨ c.toLower = ':' := by
    intro c hc
    exact hexPairs_chars h c.toLower (List.mem_map_of_mem hc)
  constructor
  · intro hmem
    rcases hchar ',' hmem with hhex | hcolon
    · revert hhex
      decide
    · revert hcolon
      decide
  · intro hmem
    rcases hchar ';' hmem with hhex | hcolon
    · revert hhex
      decide
    · revert hcolon
      decide

theorem NicChoice.val_plainWord (choice : NicChoice) : PlainWord choice.val := by
  cases choice with
  | physical nic => exact plainWord_of_isMac nic.mac_isMac
  | etherstub name valid =>
      simp only [validStubName, Bool.and_eq_true, List.all_eq_true] at valid
      have hchar := valid.left.right
      constructor
      · intro hmem
        have hcomma := hchar ',' hmem
        revert hcomma
        decide
      · intro hmem
        have hsemicolon := hchar ';' hmem
        revert hsemicolon
        decide

/-!
## Pairs
-/

/-- An address and the one it is changed to. -/
def macPair (m n : String) : String :=
  m ++ "," ++ n

theorem macPair_toList (m n : String) :
    (macPair m n).toList = m.toList ++ ',' :: n.toList := by
  simp [macPair]

theorem pairFirst_macPair {m : String} (n : String) (hm : ',' ∉ m.toList) :
    pairFirst (macPair m n) = m := by
  unfold pairFirst
  rw [macPair_toList, before_append_cons _ hm, String.ofList_toList]

theorem pairSecond_macPair {m : String} (n : String) (hm : ',' ∉ m.toList) :
    pairSecond (macPair m n) = n := by
  have hmem : ',' ∈ (macPair m n).toList := by
    rw [macPair_toList]
    simp
  unfold pairSecond
  rw [if_pos hmem, macPair_toList, after_append_cons _ hm, String.ofList_toList]

theorem macPair_ne (m n : String) : macPair m n ≠ "" := by
  intro h
  have hlist := congrArg String.toList h
  rw [macPair_toList] at hlist
  simp at hlist

theorem written_of_pair {s : Globals} {m n : String} (hm : PlainWord m)
    (hmark : s.nictagPreserveMac .opnsense = some (macPair m n)) :
    (s.written.nictags = fun ntag =>
      if (s.nictags ntag).ip.isSome ∧ valueOf (s.nictags ntag).mac = m then
        { s.nictags ntag with mac := some n }
      else s.nictags ntag) ∧
    s.written.admin.nic = if s.admin.nic = m then n else s.admin.nic := by
  rcases coreZones_mgmt s with ⟨numbers, zones, ipAddr, _, hcore⟩
  have hswap : s.written = { coreZones s with
      nictags := fun ntag =>
        if (s.nictags ntag).ip.isSome ∧ valueOf (s.nictags ntag).mac = m then
          { s.nictags ntag with mac := some n }
        else s.nictags ntag
      admin.nic := if s.admin.nic = m then n else s.admin.nic } := by
    unfold Globals.written swapOpnsense
    rw [hcore]
    simp only [hmark, valueOf, Option.getD_some, ne_eq, macPair_ne, not_false_eq_true,
      if_true, pairFirst_macPair n hm.comma, pairSecond_macPair n hm.comma]
    rfl
  rw [hswap]
  exact ⟨rfl, rfl⟩

/-- A mark can be told apart in the list of all marks. -/
def GoodMark (mark : String) : Prop :=
  ';' ∉ mark.toList ∧ mark ≠ ""

theorem goodMark_one : GoodMark "1" := by
  constructor
  · decide
  · decide

theorem goodMark_macPair {m n : String} (hm : PlainWord m) (hn : PlainWord n) :
    GoodMark (macPair m n) := by
  constructor
  · rw [macPair_toList]
    simp only [List.mem_append, List.mem_cons, not_or]
    exact ⟨hm.semicolon, by decide, hn.semicolon⟩
  · exact macPair_ne m n

/-- All marks can be told apart, and the addresses of tags are plain words. -/
structure Globals.GoodMarks (s : Globals) : Prop where
  marks : forall key mark, s.nictagPreserveMac key = some mark -> GoodMark mark
  macs : forall ntag, PlainWord (valueOf (s.nictags ntag).mac)

/-- The entries of `change_mac` in the config. -/
def changeMacEntries (lines : List ConfigLine) : List String :=
  match configValue lines "change_mac" with
  | some entries => (splitFields ';' entries.toList).map String.ofList
  | none => []

theorem preserved_written (s : Globals) : (coreZones s).preserved = s.preserved := by
  rcases coreZones_mgmt s with ⟨numbers, zones, ipAddr, _, hcore⟩
  rw [hcore]
  rfl

theorem configValue_changeMac (sys : System) (s : Globals) :
    configValue (configFile sys s) "change_mac" =
      if s.preserved ≠ [] then some (";".intercalate s.preserved) else none := by
  rw [configValue_head sys s (by decide +kernel)]
  unfold headLines
  simp only [configValue_append, preserved_written]
  have hfirst : configValue [ConfigLine.comment "",
      .comment " This file was auto-generated and must be source-able by bash.",
      .comment "", .blank] "change_mac" = none := rfl
  have hvmware : configValue (linesIf (sys.isVMware = true) [.bare "coal" "true"])
      "change_mac" = none := by
    unfold linesIf
    split <;> rfl
  have hstub : configValue (linesIf ((coreZones s).etherstubs ≠ [])
      [.bare "etherstub" (",".intercalate (coreZones s).etherstubs)])
      "change_mac" = none := by
    unfold linesIf
    split <;> rfl
  rw [hfirst, hvmware, hstub]
  unfold linesIf
  split <;> rfl

theorem changeMacEntries_eq {s : Globals} (hs : s.GoodMarks) (sys : System) :
    changeMacEntries (configFile sys s) = s.preserved := by
  unfold changeMacEntries
  rw [configValue_changeMac]
  by_cases hempty : s.preserved = []
  · rw [if_neg (not_not_intro hempty), hempty]
  · rw [if_pos hempty]
    apply splitFields_intercalate
    intro mark hmark
    rcases List.mem_filterMap.mp hmark with ⟨key, _, hkey⟩
    exact hs.marks key mark hkey

/-!
## Marks over a run
-/

theorem finished_nictagPreserveMac (dladmAddress : String -> String) (a : Answers)
    (numbers : Numbers) (ipAddr : String) (s : Globals) :
    (finished dladmAddress a numbers ipAddr s).nictagPreserveMac =
      (nicsup dladmAddress a s).nictagPreserveMac := by
  rcases systemStage_eq a (nicsup dladmAddress a s) with ⟨system, hsystem⟩
  unfold finished
  rw [hsystem]
  rfl

theorem finished_nictags (dladmAddress : String -> String) (a : Answers)
    (numbers : Numbers) (ipAddr : String) (s : Globals) :
    (finished dladmAddress a numbers ipAddr s).nictags = s.nictags := by
  rcases finished_eq dladmAddress a numbers ipAddr s with ⟨_, _, _, _, heq, _⟩
  rw [heq]

/-- What a pass takes from the system are addresses. -/
structure SystemMacs (dladmAddress : String -> String) (a : Answers) : Prop where
  dladm : forall link, isMac (dladmAddress link) = true
  newMac : forall key, isMac (a.newMac key) = true

theorem plainDladm_systemMacs {a : Answers} (h : a.Accepted) : SystemMacs plainDladm a where
  dladm := by
    intro link
    unfold plainDladm
    split
    · exact firstNic.mac_isMac
    · exact secondNic.mac_isMac
  newMac := h.newMac

theorem update_goodMark {marks : MacKey -> Option String} {key : MacKey}
    {mark : Option String}
    (hmarks : forall key mark, marks key = some mark -> GoodMark mark)
    (hmark : forall m, mark = some m -> GoodMark m) :
    forall k m, update marks key mark k = some m -> GoodMark m := by
  intro k m h
  by_cases hk : k = key
  · rw [hk, update_self] at h
    exact hmark m h
  · rw [update_of_ne hk] at h
    exact hmarks k m h

theorem tagAfter_mac (advanced : Bool) (a : TagAnswers) (tag : TagVars) :
    PlainWord (valueOf (tagAfter advanced a tag).mac) := by
  unfold tagAfter
  by_cases hadd : a.addNictag = true
  · rw [if_pos hadd]
    have hval : PlainWord (valueOf (some a.nic.val)) := a.nic.val_plainWord
    simp only
    split
    · split
      · exact hval
      · exact hval
    · exact hval
  · rw [if_neg hadd]
    exact plainWord_empty

theorem tagged_goodMarks {a : Answers} {s : Globals} (hs : s.GoodMarks)
    (ip netmask vlan : String) (etherstubs : List String) (numbers : Numbers) :
    (tagged a ip netmask vlan etherstubs numbers s).GoodMarks where
  marks := by
    intro key mark h
    have hold := hs.marks key mark
    have h' : preserveMacAfter a s key = some mark := h
    cases key with
    | opnsense => exact hold h'
    | tag ntag =>
        simp only [preserveMacAfter, markAfter] at h'
        split at h'
        · split at h'
          · split at h'
            · split at h'
              · cases h'
                exact goodMark_one
              · cases h'
            · exact hold h'
          · cases h'
        · exact hold h'
  macs := by
    intro ntag
    show PlainWord (valueOf (nictagAfter a s ntag).mac)
    unfold nictagAfter
    split
    · exact tagAfter_mac _ _ _
    · exact hs.macs ntag

theorem routerMarks_goodMark {dladmAddress : String -> String} {a : Answers}
    {s : Globals} (hs : s.GoodMarks) (ha : SystemMacs dladmAddress a) :
    forall key mark, routerMarks a s key = some mark -> GoodMark mark := by
  unfold routerMarks
  split
  · apply update_goodMark
    · apply update_goodMark hs.marks
      intro m h
      cases h
    · intro m h
      cases h
      exact goodMark_macPair (hs.macs .external)
        (plainWord_of_isMac (ha.newMac .opnsense))
  · exact hs.marks

theorem nicsup_goodMarks {dladmAddress : String -> String} {a : Answers}
    {s : Globals} (hs : s.GoodMarks) (ha : SystemMacs dladmAddress a) :
    (nicsup dladmAddress a s).GoodMarks := by
  have htag : forall (s : Globals) (ntag : NicTag), s.GoodMarks ->
      (nicsupTag dladmAddress a s ntag).GoodMarks := by
    intro s ntag hs
    unfold nicsupTag
    split
    · refine ⟨update_goodMark hs.marks ?_, hs.macs⟩
      intro m h
      cases h
      exact goodMark_macPair (plainWord_of_isMac (ha.dladm _))
        (plainWord_of_isMac (ha.newMac _))
    · exact hs
  unfold nicsup
  split
  · exact hs
  · have hfold := htag _ .storage (htag _ .internal (htag s .external hs))
    exact ⟨hfold.marks, hfold.macs⟩

theorem pass_goodMarks {dladmAddress : String -> String} {a : Answers}
    {s s' : Globals} (ha : SystemMacs dladmAddress a) (hready : s.Ready)
    (hs : s.GoodMarks) (h : pass dladmAddress a s = .done s') : s'.GoodMarks := by
  rcases pass_done h with
    ⟨t, vlan, etherstubs, numbers, routed, numbers', ipAddr, _, _, _, _, hrouting, rfl⟩
  have htagged := tagged_goodMarks (a := a) hs t.ip t.netmask vlan etherstubs numbers
  have hrouted : routed.GoodMarks := by
    rcases routingStage_done (by exact hready.opnsense) hrouting with
      ⟨_, _, _, _, _, _, rfl, _⟩ | ⟨_, _, _, rfl, _⟩
    · exact ⟨routerMarks_goodMark htagged ha, htagged.macs⟩
    · exact ⟨htagged.marks, htagged.macs⟩
  have hup := nicsup_goodMarks hrouted ha
  constructor
  · rw [finished_nictagPreserveMac]
    exact hup.marks
  · rw [finished_nictags]
    exact hrouted.macs

theorem initial_goodMarks (advanced : Bool) : (Globals.initial advanced).GoodMarks where
  marks := by
    intro key mark h
    cases h
  macs := fun _ => plainWord_empty

/-- The marks at the end of a run can be told apart. -/
theorem mainLoop_goodMarks {dladmAddress : String -> String} {passes : List Answers}
    {advanced : Bool} {s : Globals}
    (ha : forall a, a ∈ passes -> SystemMacs dladmAddress a)
    (h : mainLoop dladmAddress passes (Globals.initial advanced) = .done s) :
    s.GoodMarks := by
  have hboth := mainLoop_keeps (P := fun s => s.Ready ∧ s.GoodMarks)
    (fun a hmem _ _ hs hpass =>
      ⟨pass_ready hs.left hpass, pass_goodMarks (ha a hmem) hs.left hs.right hpass⟩)
    ⟨initial_ready advanced, initial_goodMarks advanced⟩ h
  exact hboth.right

end Installer
end EsdcFactory
