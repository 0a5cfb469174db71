import EsdcFactory.Computenode.Registration

/-!
# Clusters of compute nodes

Each compute node works below its own UUID, where no other one does, so the order in
which they take turns makes no difference to what they leave behind.
-/

namespace EsdcFactory
namespace Computenode

open Installer Interleave
open Headnode (Path creater creater_eq_none_iff)

/-!
## Reads
-/

theorem zkNoerror_congr {cfgdb cfgdb' : Cfgdb} {path : String}
    (h : cfgdb path = cfgdb' path) : zkNoerror cfgdb path = zkNoerror cfgdb' path := by
  rw [zkNoerror, zkNoerror, h]

theorem orZk_congr {cfgdb cfgdb' : Cfgdb} {path : String} (h : cfgdb path = cfgdb' path)
    (value : List Char) : orZk cfgdb value path = orZk cfgdb' value path := by
  rw [orZk, orZk, zk, zk, h]

theorem optionalHost_congr {cfgdb cfgdb' : Cfgdb} {hostname service : String}
    (hnode : cfgdb s!"/esdc/settings/node/{hostname}/{service}/host" =
      cfgdb' s!"/esdc/settings/node/{hostname}/{service}/host")
    (hremote : cfgdb s!"/esdc/settings/remote/{service}/host" =
      cfgdb' s!"/esdc/settings/remote/{service}/host") (remoteNode : Bool)
    (cfgdbIp : List Char) :
    optionalHost cfgdb hostname remoteNode cfgdbIp service =
      optionalHost cfgdb' hostname remoteNode cfgdbIp service := by
  rw [optionalHost, optionalHost, zkNoerror_congr hnode, zkNoerror_congr hremote]

theorem pullCfgdbData_congr {cfgdb cfgdb' : Cfgdb} {hostname : String}
    (h : forall path, path ∈ reads hostname -> cfgdb path = cfgdb' path) (remoteNode : Bool)
    (cfgdbIp : List Char) :
    pullCfgdbData cfgdb hostname remoteNode cfgdbIp =
      pullCfgdbData cfgdb' hostname remoteNode cfgdbIp := by
  simp only [reads, List.map_cons, List.map_nil, List.cons_append, List.nil_append,
    List.forall_mem_cons] at h
  rcases h with ⟨h1, h2, h3, h4, h5, h6, h7, h8, h9, h10, h11, h12, h13, _⟩
  rw [pullCfgdbData, pullCfgdbData, optionalHost_congr h1 h6, optionalHost_congr h2 h7,
    optionalHost_congr h3 h8, zkNoerror_congr h4, zkNoerror_congr h5]
  simp only [orZk_congr h9, orZk_congr h10, orZk_congr h11, orZk_congr h12, orZk_congr h13]

/-- A value that was read for each path is the one of the database. -/
theorem viewed_eq {view : List (String × Option (List Char))} {found : Store}
    (h : forall entry, entry ∈ view -> entry.2 = cfgdbOf found entry.1) {path : String}
    (hpath : path ∈ view.map Prod.fst) : viewed view path = cfgdbOf found path := by
  rcases List.mem_map.mp hpath with ⟨entry, hentry, heq⟩
  cases hfound : view.find? fun entry => entry.1 = path with
  | none =>
      exact absurd (decide_eq_true heq) (List.find?_eq_none.mp hfound entry hentry)
  | some other =>
      have hsame := List.find?_some hfound
      rw [decide_eq_true_iff] at hsame
      rw [viewed, hfound, Option.bind_some, h other (List.mem_of_find?_eq_some hfound), hsame]

theorem components_append {word : String} (h : '/' ∉ word.toList) (rest : List Char) :
    (BashArith.splitFields '/' (word.toList ++ '/' :: rest)).map String.ofList =
      word :: (BashArith.splitFields '/' rest).map String.ofList := by
  rw [BashArith.splitFields_append_sep h, List.map_cons, String.ofList_toList]

/-- All that the script asks for is a setting. -/
theorem settingsRoot_prefix_reads (hostname : String) :
    forall path, path ∈ reads hostname -> settingsRoot <+: components path := by
  have hsettings : forall path : String, "/esdc/settings/".toList <+: path.toList ->
      settingsRoot <+: components path := by
    intro path hpath
    rcases hpath with ⟨text, htext⟩
    have hdrop : path.toList.drop 1 =
        "esdc".toList ++ '/' :: ("settings".toList ++ '/' :: text) := by
      rw [← htext]
      rfl
    rw [components, hdrop, components_append (by decide), components_append (by decide)]
    exact ⟨_, rfl⟩
  have hreads : forall path, path ∈ reads hostname ->
      "/esdc/settings/".toList <+: path.toList := by
    unfold reads nodeHostPath remoteHostPath
    simp [toString, List.cons_prefix_cons]
  intro path hpath
  exact hsettings path (hreads path hpath)

/-!
## Nodes of the database
-/

theorem not_settingsRoot_prefix (node : ComputeNode) (path : Path) :
    ¬ (settingsRoot <+: path ∧ node.root <+: path) := by
  intro h
  rcases h with ⟨⟨rest, hrest⟩, ⟨rest', hrest'⟩⟩
  rw [← hrest'] at hrest
  simp [settingsRoot, ComputeNode.root] at hrest

theorem root_inj {node node' : ComputeNode} {path : Path} (h : node.root <+: path)
    (h' : node'.root <+: path) : node.uuid = node'.uuid := by
  rcases h with ⟨rest, hrest⟩
  rcases h' with ⟨rest', hrest'⟩
  rw [← hrest'] at hrest
  simp only [ComputeNode.root, List.cons_append, List.cons.injEq, true_and] at hrest
  exact hrest.1

/-- A node is made below a path where its parents are there. -/
theorem Holds.creater {root path : Path} {value : List Char}
    {entries : List (Path × List Char)} {store : Store} (h : Holds root entries store)
    (hnew : path ∉ entries.map Prod.fst)
    (habove : forall p, root <+: p -> p <+: path -> p ≠ path -> p ∈ entries.map Prod.fst) :
    Holds root (entries ++ [(path, value)]) (Headnode.creater path value store) := by
  intro p hp
  rw [List.find?_append, Headnode.creater]
  by_cases hpath : p = path
  · have hnone : entries.find? (fun entry => entry.1 = p) = none := by
      rw [List.find?_eq_none]
      intro entry hentry hsame
      rw [hpath, decide_eq_true_iff] at hsame
      exact hnew (hsame ▸ List.mem_map_of_mem hentry)
    simp [hpath]
    simp [← hpath, hnone]
  · have hlast : List.find? (fun entry => entry.1 = p) [(path, value)] = none := by
      simp [Ne.symm hpath]
    rw [if_neg hpath, hlast, Option.or_none, ← h p hp]
    apply if_neg
    intro hparent
    rcases List.mem_map.mp (habove p hp hparent.1 hpath) with ⟨entry, hentry, hsame⟩
    have hthere := hparent.2
    rw [Option.isNone_iff_eq_none, h p hp, Option.map_eq_none_iff,
      List.find?_eq_none] at hthere
    exact hthere entry hentry (decide_eq_true hsame)

theorem holds_rmr (root : Path) (store : Store) : Holds root [] (rmr root store) := by
  intro p hp
  exact if_pos hp

theorem Holds.congr {root : Path} {entries : List (Path × List Char)} {store store' : Store}
    (h : Holds root entries store) (hsame : forall p, root <+: p -> store' p = store p) :
    Holds root entries store' := by
  intro p hp
  rw [hsame p hp]
  exact h p hp

theorem creater_of_not_prefix {path p : Path} (h : ¬ p <+: path) (value : List Char)
    (store : Store) : creater path value store p = store p := by
  have hne : p ≠ path := by
    intro heq
    exact h (heq ▸ List.prefix_rfl)
  rw [creater, if_neg hne, if_neg fun hparent => h hparent.1]

theorem nodup_entries (node : ComputeNode) : (node.entries.map Prod.fst).Nodup := by
  simp [ComputeNode.entries]

/-- The nodes of an entry's path that are not its own stand before it. -/
theorem entries_inPlace (node : ComputeNode) {before after : List (Path × List Char)}
    {entry : Path × List Char} (h : node.entries = before ++ entry :: after) :
    node.root <+: entry.1 ∧ forall p, node.root <+: p -> p <+: entry.1 -> p ≠ entry.1 ->
      p ∈ before.map Prod.fst := by
  have hroot : entry.1 = node.root ∨ exists name, entry.1 = node.root ++ [name] := by
    have hmem : entry ∈ node.entries := by
      rw [h]
      simp
    simp only [ComputeNode.entries, List.mem_cons, List.not_mem_nil, or_false] at hmem
    rcases hmem with rfl | rfl | rfl | rfl
    · exact Or.inl rfl
    · exact Or.inr ⟨_, rfl⟩
    · exact Or.inr ⟨_, rfl⟩
    · exact Or.inr ⟨_, rfl⟩
  rcases hroot with heq | ⟨name, heq⟩
  · rw [heq]
    refine ⟨List.prefix_rfl, ?_⟩
    intro p hp hpath hne
    exact absurd (hpath.eq_of_length_le hp.length_le) hne
  · rw [heq]
    refine ⟨List.prefix_append _ _, ?_⟩
    intro p hp hpath hne
    have hpeq : p = node.root := by
      rcases List.prefix_concat_iff.mp hpath with hfull | hshort
      · exact absurd hfull hne
      · exact hshort.eq_of_length_le hp.length_le
    cases before with
    | nil =>
        rw [ComputeNode.entries, List.nil_append] at h
        have hfirst := congrArg Prod.fst (List.cons.inj h).1
        rw [heq] at hfirst
        exact absurd (congrArg List.length hfirst) (by simp)
    | cons first before =>
        have hfirst := congrArg Prod.fst (List.cons.inj h).1
        rw [hpeq, List.map_cons, ← hfirst]
        exact List.mem_cons_self

/-!
## Steps
-/

theorem reads_viewed {node : ComputeNode} {found : Store}
    {view : List (String × Option (List Char))}
    (h : forall entry, entry ∈ view -> entry.2 = cfgdbOf found entry.1)
    (hall : view.map Prod.fst = reads node.hostname) :
    pullCfgdbData (viewed view) node.hostname node.isRemote node.cfgdbIp =
      node.settings found := by
  apply pullCfgdbData_congr
  intro path hpath
  rw [← hall] at hpath
  exact viewed_eq h hpath

/-- Nothing but what is below its own UUID changes by an action of a node. -/
theorem act_same {node : ComputeNode} {found store : Store} {script : Script}
    (h : node.Reached found store script) (a : Action) {p : Path} (hp : ¬ node.root <+: p)
    (hparent : ¬ p <+: node.root) : (node.act store script a).1 p = store p := by
  have hpath : forall path, node.root <+: path -> p <+: path -> False := by
    intro path hroot habove
    rcases List.prefix_or_prefix_of_prefix hroot habove with hbelow | habove
    · exact hp hbelow
    · exact hparent habove
  cases script with
  | reading view left =>
      cases a with
      | reboot gone => rfl
      | step =>
          cases left with
          | cons path left => rfl
          | nil =>
              rw [ComputeNode.act, ComputeNode.step]
              split
              · rfl
              · rfl
  | registered settings => cases a <;> rfl
  | aborted => cases a <;> rfl
  | registering settings left =>
      rcases h with ⟨_, rfl | ⟨before, after, hentries, rfl, _⟩⟩
      · cases a with
        | step => exact if_neg hp
        | reboot gone => exact if_neg fun hgone => hp hgone.1
      · cases after with
        | nil => cases a <;> rfl
        | cons entry after =>
            cases a with
            | reboot gone => rfl
            | step =>
                rw [ComputeNode.act, List.map_cons, ComputeNode.step]
                split
                · rfl
                · apply creater_of_not_prefix
                  exact hpath entry.1 (entries_inPlace node hentries).1

theorem settingsRoot_not_prefix_root (node : ComputeNode) {p : Path}
    (h : settingsRoot <+: p) : ¬ node.root <+: p ∧ ¬ p <+: node.root := by
  constructor
  · intro hroot
    exact not_settingsRoot_prefix node p ⟨h, hroot⟩
  · intro hroot
    exact not_settingsRoot_prefix node node.root ⟨h.trans hroot, List.prefix_rfl⟩

theorem reached_start (node : ComputeNode) (found store : Store) :
    node.Reached found store node.start :=
  ⟨fun _ hentry => absurd hentry List.not_mem_nil, rfl⟩

theorem reached_step {node : ComputeNode} {found store : Store} {script : Script}
    (h : node.Inv found store script) :
    node.Reached found (node.step store script).1 (node.step store script).2 := by
  rcases h with ⟨hsettings, hreached⟩
  cases script with
  | reading view left =>
      rcases hreached with ⟨hview, hall⟩
      cases left with
      | cons path left =>
          constructor
          · intro entry hentry
            rcases List.mem_append.mp hentry with hold | hnew
            · exact hview entry hold
            · rw [List.mem_singleton.mp hnew]
              apply hsettings
              apply settingsRoot_prefix_reads node.hostname
              rw [← hall]
              simp
          · rw [List.map_append, List.append_assoc]
            exact hall
      | nil =>
          rw [List.append_nil] at hall
          rw [ComputeNode.step, reads_viewed hview hall]
          split
          · next settings hsome => exact ⟨hsome, Or.inl rfl⟩
          · next hnone => exact hnone
  | registering settings left =>
      rcases hreached with ⟨hsome, rfl | ⟨before, after, hentries, rfl, hholds⟩⟩
      · exact ⟨hsome, Or.inr ⟨[], node.entries, rfl, rfl, holds_rmr node.root store⟩⟩
      · cases after with
        | nil =>
            rw [List.append_nil] at hentries
            exact ⟨hsome, hentries ▸ hholds⟩
        | cons entry after =>
            rcases entries_inPlace node hentries with ⟨hroot, habove⟩
            have hnew : entry.1 ∉ before.map Prod.fst := by
              have hnodup := nodup_entries node
              rw [hentries, List.map_append, List.map_cons] at hnodup
              intro hmem
              exact (List.nodup_append.mp hnodup).2.2 _ hmem _ List.mem_cons_self rfl
            have hmissing : ¬ (store entry.1).isSome := by
              rw [hholds entry.1 hroot, Option.isSome_map]
              intro hfound
              rw [List.find?_isSome] at hfound
              rcases hfound with ⟨other, hother, hsame⟩
              exact hnew (of_decide_eq_true hsame ▸ List.mem_map_of_mem hother)
            rw [List.map_cons, ComputeNode.step, if_neg hmissing]
            refine ⟨hsome, Or.inr ⟨before ++ [entry], after, ?_, rfl, ?_⟩⟩
            · rw [hentries, List.append_assoc]
              rfl
            · exact hholds.creater hnew habove
  | registered settings => exact hreached
  | aborted => exact hreached

/-!
## The cluster
-/

theorem Reached.congr {node : ComputeNode} {found store store' : Store} {script : Script}
    (h : node.Reached found store script)
    (hsame : forall p, node.root <+: p -> store' p = store p) :
    node.Reached found store' script := by
  cases script with
  | reading view left => exact h
  | registering settings left =>
      rcases h with ⟨hsome, hleft | ⟨before, after, hentries, hleft, hholds⟩⟩
      · exact ⟨hsome, Or.inl hleft⟩
      · exact ⟨hsome, Or.inr ⟨before, after, hentries, hleft, hholds.congr hsame⟩⟩
  | registered settings => exact ⟨h.1, h.2.congr hsame⟩
  | aborted => exact h

/-- Two nodes that differ in their UUIDs do not work on the same part of the database. -/
theorem apart {node node' : ComputeNode} (h : node.uuid ≠ node'.uuid) {p : Path}
    (hp : node'.root <+: p) : ¬ node.root <+: p ∧ ¬ p <+: node.root := by
  constructor
  · intro hroot
    exact h (root_inj hroot hp)
  · intro hroot
    exact h (root_inj List.prefix_rfl (hp.trans hroot))

theorem cluster_keeps {party : Type} {node : party -> ComputeNode}
    (huuid : forall i j, i ≠ j -> (node i).uuid ≠ (node j).uuid) (found : Store) :
    (cluster node).Keeps (IsElsewhere node) fun i => (node i).Inv found where
  own := by
    intro i a store script h
    constructor
    · intro p hp
      rcases settingsRoot_not_prefix_root (node i) hp with ⟨hbelow, habove⟩
      exact (act_same h.reached a hbelow habove).trans (h.settings p hp)
    · cases a with
      | step => exact reached_step h
      | reboot gone => exact reached_start (node i) found _
  others := by
    intro i j a store script script' hij h h'
    constructor
    · intro p hp
      rcases settingsRoot_not_prefix_root (node i) hp with ⟨hbelow, habove⟩
      exact (act_same h.reached a hbelow habove).trans (h'.settings p hp)
    · apply Reached.congr h'.reached
      intro p hp
      rcases apart (huuid i j hij) hp with ⟨hbelow, habove⟩
      exact act_same h.reached a hbelow habove
  outside := by
    intro c hc j store script h
    have hsame : forall p, p ≠ c.path -> c.apply store p = store p := fun p hp => if_neg hp
    constructor
    · intro p hp
      exact (hsame p fun heq => hc.1 (heq ▸ hp)).trans (h.settings p hp)
    · apply Reached.congr h.reached
      intro p hp
      exact hsame p fun heq => hc.2 j (heq ▸ hp)

theorem inv_beginning {party : Type} (node : party -> ComputeNode) (found : Store)
    (i : party) : (node i).Inv found (beginning node found).shared
      ((beginning node found).own i) where
  settings := fun _ _ => rfl
  reached := reached_start (node i) found found

/-!
## Progress
-/

/-- The steps that are left at most. -/
def Script.left : Script -> Nat
  | .reading _ left => left.length + 7
  | .registering _ left => left.length + 1
  | .registered _ => 0
  | .aborted => 0

theorem left_step (node : ComputeNode) (store : Store) (script : Script) :
    (node.step store script).2.left ≤ script.left - 1 := by
  cases script with
  | registered settings => exact Nat.le_refl 0
  | aborted => exact Nat.le_refl 0
  | reading view left =>
      cases left with
      | cons path left => exact Nat.le_refl _
      | nil =>
          rw [ComputeNode.step]
          split
          · exact Nat.le_refl _
          · exact Nat.zero_le _
  | registering settings left =>
      cases left with
      | nil => exact Nat.le_refl _
      | cons query left =>
          cases query with
          | rmr path => exact Nat.le_refl _
          | creater path value =>
              rw [ComputeNode.step]
              split
              · exact Nat.zero_le _
              · exact Nat.le_refl _

theorem left_le {node : ComputeNode} {found store : Store} {script : Script}
    (h : node.Reached found store script) : script.left ≤ 20 := by
  cases script with
  | registered settings => exact Nat.zero_le _
  | aborted => exact Nat.zero_le _
  | reading view left =>
      have hlength := congrArg List.length h.2
      rw [List.length_append] at hlength
      change _ = 13 at hlength
      rw [Script.left]
      omega
  | registering settings left =>
      rcases h with ⟨_, rfl | ⟨before, after, hentries, rfl, _⟩⟩
      · exact (by decide : 6 ≤ 20)
      · have hlength := congrArg List.length hentries
        rw [List.length_append] at hlength
        change 4 = _ at hlength
        rw [Script.left, List.length_map]
        omega

variable {party : Type} [DecidableEq party]

theorem registered_of_left {node : party -> ComputeNode}
    (huuid : forall i j, i ≠ j -> (node i).uuid ≠ (node j).uuid) {found : Store} {i : party}
    {settings : Settings} (hfound : (node i).settings found = some settings) (n : Nat)
    {s : State party Store Script}
    (hinv : forall j, (node j).Inv found s.shared (s.own j)) (hleft : (s.own i).left ≤ n) :
    ((cluster node).run s (List.replicate n (.act i .step))).own i = .registered settings := by
  induction n generalizing s with
  | zero =>
      have hreached := (hinv i).reached
      change s.own i = .registered settings
      cases hown : s.own i with
      | reading view left =>
          rw [hown] at hleft
          cases hleft
      | registering got left =>
          rw [hown] at hleft
          cases hleft
      | registered got =>
          rw [hown] at hreached
          rw [Option.some.inj (hreached.1.symm.trans hfound)]
      | aborted =>
          rw [hown] at hreached
          cases hreached.symm.trans hfound
  | succ n ih =>
      have hstep : forall j, (node j).Inv found ((cluster node).step s (.act i .step)).shared
          (((cluster node).step s (.act i .step)).own j) :=
        (cluster_keeps huuid found).step hinv nofun
      apply ih hstep
      have hless := left_step (node i) s.shared (s.own i)
      have hown : (((cluster node).step s (.act i .step)).own i) =
          ((node i).step s.shared (s.own i)).2 := Function.update_self ..
      rw [hown]
      omega

/--
However the compute nodes take turns and are rebooted, none of them comes to an end
without its settings.  One that is done has the settings that were found, and the
database has its entries and nothing else below its UUID.  One that is not done yet, or
was rebooted, is done after a few more steps of its own.
-/
theorem compute_nodes_register (node : party -> ComputeNode)
    (huuid : forall i j, i ≠ j -> (node i).uuid ≠ (node j).uuid) (found : Store)
    (turns : List (Turn party Action Change)) (hturns : Allowed (IsElsewhere node) turns)
    (i : party) (settings : Settings) (hfound : (node i).settings found = some settings) :
    ((cluster node).run (beginning node found) turns).own i ≠ .aborted ∧
    (forall got, ((cluster node).run (beginning node found) turns).own i = .registered got ->
      got = settings ∧ Holds (node i).root (node i).entries
        ((cluster node).run (beginning node found) turns).shared) ∧
    ((cluster node).run (beginning node found)
      (turns ++ List.replicate 20 (.act i .step))).own i = .registered settings := by
  have hinv := (cluster_keeps huuid found).run (inv_beginning node found) hturns
  have hreached := (hinv i).reached
  refine ⟨?_, ?_, ?_⟩
  · intro haborted
    rw [haborted] at hreached
    cases hreached.symm.trans hfound
  · intro got hgot
    rw [hgot] at hreached
    exact ⟨Option.some.inj (hreached.1.symm.trans hfound), hreached.2⟩
  · rw [run_append]
    exact registered_of_left huuid hfound 20 hinv (left_le hreached)

/-- A database with the settings that each node takes. -/
def common : Store := fun p =>
  if p ∈ ["rabbitmq", "redis", "zabbix"].map (["esdc", "settings", ·, "host"]) ∨
      p ∈ ["rabbitmq", "redis"].map (["esdc", "settings", ·, "password"]) then
    some ['1']
  else none

/-- Two nodes of the same name. -/
def pair (first : Bool) : ComputeNode where
  uuid := if first then "a" else "b"
  hostname := "node"
  noSlash := by decide
  remoteNode := []
  cfgdbIp := ['2']

theorem settings_pair (first : Bool) :
    (pair first).settings common = some ⟨['1'], ['1'], ['1'], ['1'], ['1']⟩ := by
  have htrue : (pair true).settings common = some ⟨['1'], ['1'], ['1'], ['1'], ['1']⟩ := by
    decide
  cases first with
  | true => exact htrue
  | false => exact htrue

theorem uuid_pair : forall i j, i ≠ j -> (pair i).uuid ≠ (pair j).uuid := by
  decide

/-- The first node is rebooted while the second one reads. -/
def crossedTurns : List (Turn Bool Action Change) :=
  [.act true .step, .act false .step, .act true (.reboot fun _ => true),
    .outside ⟨["esdc", "vms"], some []⟩, .act false .step]

theorem allowed_crossedTurns : Allowed (IsElsewhere pair) crossedTurns := by
  intro c hc
  have hchange : c = ⟨["esdc", "vms"], some []⟩ := by
    simpa [crossedTurns] using hc
  rw [hchange]
  constructor
  · decide
  · decide

theorem compute_nodes_register_pair :
    ((cluster pair).run (beginning pair common) crossedTurns).own true ≠ .aborted ∧
    (forall got, ((cluster pair).run (beginning pair common) crossedTurns).own true =
        .registered got ->
      got = ⟨['1'], ['1'], ['1'], ['1'], ['1']⟩ ∧ Holds (pair true).root (pair true).entries
        ((cluster pair).run (beginning pair common) crossedTurns).shared) ∧
    ((cluster pair).run (beginning pair common)
      (crossedTurns ++ List.replicate 20 (.act true .step))).own true =
        .registered ⟨['1'], ['1'], ['1'], ['1'], ['1']⟩ :=
  compute_nodes_register pair uuid_pair common crossedTurns allowed_crossedTurns true _
    (settings_pair true)

end Computenode
end EsdcFactory
