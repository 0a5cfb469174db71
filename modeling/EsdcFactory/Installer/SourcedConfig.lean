import EsdcFactory.Installer.RunFacts
import EsdcFactory.Installer.ConfigFacts
import EsdcFactory.Lib.BashSource

/-!
# Sourcing the config file

The config file is meant to be read by bash as a list of assignments.  The writer
puts some values between single quotes and others behind the equals sign as they
are, and it escapes none of them.
-/

namespace EsdcFactory
namespace Installer

open BashSource

/-!
## The text of the file
-/

/-- What `echo` appends to the file. -/
def ConfigLine.render : ConfigLine -> List Char
  | .comment text => '#' :: (text.toList ++ ['\n'])
  | .blank => ['\n']
  | .bare key value => key.toList ++ '=' :: (value.toList ++ ['\n'])
  | .quoted key value => key.toList ++ '=' :: '\'' :: (value.toList ++ ['\'', '\n'])

def renderLines (lines : List ConfigLine) : List Char :=
  lines.flatMap ConfigLine.render

/-- The assignment that a line is meant to be. -/
def ConfigLine.entry : ConfigLine -> Option (List Char × List Char)
  | .bare key value => some (key.toList, value.toList)
  | .quoted key value => some (key.toList, value.toList)
  | .comment _ => none
  | .blank => none

/-- Sourcing the file assigns the written values to their keys and does nothing else. -/
def SourcesFaithfully (sys : System) (s : Globals) : Prop :=
  source (renderLines (configFile sys s)) =
    some ((configFile sys s).filterMap ConfigLine.entry)

instance (sys : System) (s : Globals) : Decidable (SourcesFaithfully sys s) :=
  inferInstanceAs (Decidable (_ = _))

/-- A line whose value bash reads as it stands. -/
def ConfigLine.isPlain : ConfigLine -> Bool
  | .bare _ value => isBare true value.toList
  | .quoted _ value => !value.toList.contains '\''
  | .comment _ => true
  | .blank => true

/-- A line that assigns to a variable or is a comment of one line. -/
def ConfigLine.isWellFormed : ConfigLine -> Bool
  | .bare key _ => isName key.toList
  | .quoted key _ => isName key.toList
  | .comment text => !text.toList.contains '\n'
  | .blank => true

/-!
## Reading the lines back
-/

theorem isShielded_name {name : List Char} (h : isName name = true) (rest : List Char) :
    isShielded (name ++ rest) = true := by
  cases name with
  | nil => cases h
  | cons c cs =>
      rcases startsName_spec (Bool.and_eq_true_iff.mp h).left with ⟨_, hline, _, hmark⟩
      simp [isShielded, isOrdinary, hline, hmark]

theorem isShielded_renderLines {lines : List ConfigLine}
    (h : forall line, line ∈ lines -> line.isWellFormed = true) :
    isShielded (renderLines lines) = true := by
  induction lines with
  | nil => rfl
  | cons line lines ih =>
      have hline := h line List.mem_cons_self
      have hrest := ih fun x hx => h x (List.mem_cons_of_mem _ hx)
      rw [renderLines, List.flatMap_cons]
      cases line with
      | comment text => rfl
      | blank => exact hrest
      | bare key value =>
          rw [ConfigLine.render, List.append_assoc]
          exact isShielded_name hline _
      | quoted key value =>
          rw [ConfigLine.render, List.append_assoc]
          exact isShielded_name hline _

/-- The lines are read as they are meant exactly when all of them are plain. -/
theorem assignments_renderLines_iff {lines : List ConfigLine} {n : Nat}
    (hn : (renderLines lines).length < n)
    (h : forall line, line ∈ lines -> line.isWellFormed = true) :
    assignments n (renderLines lines) = some (lines.filterMap ConfigLine.entry) <->
      forall line, line ∈ lines -> line.isPlain = true := by
  induction lines generalizing n with
  | nil =>
      cases n with
      | zero => cases hn
      | succ n => exact iff_of_true rfl nofun
  | cons line lines ih =>
      have hline := h line List.mem_cons_self
      have hlines : forall x, x ∈ lines -> x.isWellFormed = true :=
        fun x hx => h x (List.mem_cons_of_mem _ hx)
      have hshield := isShielded_renderLines hlines
      have hcons : renderLines (line :: lines) = line.render ++ renderLines lines :=
        List.flatMap_cons
      rw [hcons, List.length_append] at hn
      rw [hcons, List.forall_mem_cons]
      cases line with
      | blank =>
          have hfuel : n = n - 1 + 1 := by omega
          rw [hfuel]
          simp only [ConfigLine.render, List.length_cons, List.length_nil] at hn
          have hrest := ih (n := n - 1) (by omega) hlines
          rw [ConfigLine.render, List.singleton_append, assignments_newline,
            List.filterMap_cons_none rfl]
          exact hrest.trans (and_iff_right rfl).symm
      | comment text =>
          have hfuel : n = n - 2 + 2 := by
            simp only [ConfigLine.render, List.length_cons, List.length_append] at hn
            omega
          rw [hfuel]
          simp only [ConfigLine.render, List.length_cons, List.length_append] at hn
          have hrest := ih (n := n - 2) (by omega) hlines
          have htext : '\n' ∉ text.toList := by
            simpa [ConfigLine.isWellFormed] using hline
          rw [ConfigLine.render, List.cons_append, List.append_assoc, List.singleton_append,
            assignments_comment _ _ htext, List.filterMap_cons_none rfl]
          exact hrest.trans (and_iff_right rfl).symm
      | bare key value =>
          have hfuel : n = n - 2 + 2 := by
            simp only [ConfigLine.render, List.length_append, List.length_cons] at hn
            omega
          rw [hfuel]
          simp only [ConfigLine.render, List.length_append, List.length_cons] at hn
          have hrest := ih (n := n - 2) (by omega) hlines
          rw [ConfigLine.render, List.append_assoc, List.cons_append, List.append_assoc,
            List.singleton_append, ← hrest]
          exact assignments_assign_iff hline fun behind => readWord_bare_iff hshield
      | quoted key value =>
          have hfuel : n = n - 2 + 2 := by
            simp only [ConfigLine.render, List.length_append, List.length_cons] at hn
            omega
          rw [hfuel]
          simp only [ConfigLine.render, List.length_append, List.length_cons] at hn
          have hrest := ih (n := n - 2) (by omega) hlines
          rw [ConfigLine.render, List.append_assoc, List.cons_append, List.cons_append,
            List.append_assoc, ← hrest]
          have hquoted : ConfigLine.isPlain (.quoted key value) = true <->
              '\'' ∉ value.toList := by
            simp [ConfigLine.isPlain]
          rw [hquoted]
          exact assignments_assign_iff hline fun behind => readWord_quoted_iff hshield

/-!
## The lines of the config file
-/

/-- The lines that are written from what the prompts for texts return. -/
def promptedLines (s : Globals) : List ConfigLine :=
  [.bare "dns_resolvers" (s.system.dnsResolver1 ++ "," ++ s.system.dnsResolver2),
    .bare "dns_domain" s.system.dnsDomain, .bare "ntp_hosts" s.system.ntpHosts,
    .bare "hostname" s.system.hostname, .quoted "datacenter_name" s.system.datacenterName,
    .quoted "admin_email" s.system.adminEmail,
    .quoted "esdc_install_password" s.system.esdcInstallPassword]

theorem configFile_eq (sys : System) (s : Globals) :
    configFile sys s = headLines sys (coreZones s) ++ nodeLines s.written ++
      nictagList.flatMap (nictagLines s.written) ++ serviceLines s.written ++
      opnsenseLines sys s.written ++ tailLines s.written :=
  rfl

theorem promptedLines_subset (sys : System) (s : Globals) :
    promptedLines s ⊆ configFile sys s := by
  have hsystem : s.written.system = s.system := by
    rcases written_keeps s with ⟨_, _, _, _, _, _, heq⟩
    rw [heq]
  have hnode : forall line, line ∈ nodeLines s.written -> line ∈ configFile sys s := by
    intro line hline
    simp only [configFile_eq, List.mem_append]
    tauto
  have hservice : forall line, line ∈ serviceLines s.written -> line ∈ configFile sys s := by
    intro line hline
    simp only [configFile_eq, List.mem_append]
    tauto
  intro line hline
  simp only [promptedLines, List.mem_cons, List.not_mem_nil, or_false] at hline
  rcases hline with rfl | rfl | rfl | rfl | rfl | rfl | rfl
  · exact hnode _ (by simp [nodeLines, hsystem])
  · exact hnode _ (by simp [nodeLines, hsystem])
  · exact hnode _ (by simp [nodeLines, hsystem])
  · exact hnode _ (by simp [nodeLines, hsystem])
  · exact hservice _ (by simp [serviceLines, hsystem])
  · exact hservice _ (by simp [serviceLines, hsystem])
  · exact hservice _ (by simp [serviceLines, hsystem])

def commentsOf (lines : List ConfigLine) : List String :=
  lines.filterMap fun line =>
    match line with
    | .comment text => some text
    | _ => none

/-- The comments that the writer makes. -/
def configComments : List String :=
  ["", " This file was auto-generated and must be source-able by bash.",
    " Danube Cloud settings"]

theorem commentsOf_append (xs ys : List ConfigLine) :
    commentsOf (xs ++ ys) = commentsOf xs ++ commentsOf ys :=
  List.filterMap_append

theorem commentsOf_linesIf {p : Prop} [Decidable p] {lines : List ConfigLine}
    (h : commentsOf lines = []) : commentsOf (linesIf p lines) = [] := by
  unfold linesIf
  split
  · exact h
  · rfl

theorem commentsOf_headLines (sys : System) (s : Globals) :
    commentsOf (headLines sys s) ⊆ configComments := by
  simp only [headLines, commentsOf_append, List.append_subset]
  refine ⟨⟨⟨?_, ?_⟩, ?_⟩, ?_⟩
  · simp [commentsOf, configComments]
  · rw [commentsOf_linesIf rfl]
    exact List.nil_subset _
  · rw [commentsOf_linesIf rfl]
    exact List.nil_subset _
  · rw [commentsOf_linesIf rfl]
    exact List.nil_subset _

theorem commentsOf_nodeLines (s : Globals) : commentsOf (nodeLines s) = [] := by
  have hnetwork : commentsOf (adminNetworkLines s) = [] := by
    unfold adminNetworkLines
    split <;> rfl
  simp only [nodeLines, commentsOf_append, List.append_eq_nil_iff]
  refine ⟨⟨⟨rfl, commentsOf_linesIf ?_⟩, commentsOf_linesIf rfl⟩, rfl⟩
  exact hnetwork

theorem commentsOf_nictagLines (s : Globals) (ntag : NicTag) :
    commentsOf (nictagLines s ntag) = [] := by
  unfold nictagLines
  simp only
  split
  · rfl
  · rw [commentsOf_append, List.append_eq_nil_iff]
    constructor
    · split <;> rfl
    · apply commentsOf_linesIf
      rw [commentsOf_append, commentsOf_linesIf rfl]
      rfl

theorem commentsOf_opnsenseLines (sys : System) (s : Globals) :
    commentsOf (opnsenseLines sys s) = [] := by
  unfold opnsenseLines
  split
  · simp only [commentsOf_append, List.append_eq_nil_iff]
    exact ⟨⟨⟨rfl, commentsOf_linesIf rfl⟩, commentsOf_linesIf rfl⟩, rfl⟩
  · rfl

theorem commentsOf_configFile (sys : System) (s : Globals) :
    commentsOf (configFile sys s) ⊆ configComments := by
  have htags : commentsOf (nictagList.flatMap (nictagLines s.written)) = [] := by
    simp [nictagList, commentsOf_append, commentsOf_nictagLines]
  simp only [configFile_eq, commentsOf_append, htags, commentsOf_nodeLines,
    commentsOf_opnsenseLines, List.append_subset]
  refine ⟨⟨⟨⟨⟨commentsOf_headLines _ _, List.nil_subset _⟩, List.nil_subset _⟩, ?_⟩,
    List.nil_subset _⟩, ?_⟩
  · simp [serviceLines, commentsOf, configComments]
  · simp [tailLines, commentsOf]

theorem isName_configFile (sys : System) (s : Globals) :
    forall key, key ∈ keysOf (configFile sys s) -> isName key.toList = true := by
  have hnames : forall key, key ∈ headKeys ++ nodeKeys ++ nictagKeys ++ serviceKeys ++
      routerKeys ++ tailKeys -> isName key.toList = true := by
    decide +kernel
  intro key hkey
  apply hnames
  simp only [configFile_eq, keysOf_append, List.mem_append] at hkey ⊢
  rcases hkey with ((((hkey | hkey) | hkey) | hkey) | hkey) | hkey
  · exact Or.inl (Or.inl (Or.inl (Or.inl (Or.inl (keysOf_headLines _ _ hkey)))))
  · exact Or.inl (Or.inl (Or.inl (Or.inl (Or.inr (keysOf_nodeLines _ hkey)))))
  · exact Or.inl (Or.inl (Or.inl (Or.inr (keysOf_allNictagLines _ hkey))))
  · exact Or.inl (Or.inl (Or.inr (keysOf_serviceLines _ hkey)))
  · exact Or.inl (Or.inr (keysOf_opnsenseLines _ _ hkey))
  · exact Or.inr (keysOf_tailLines _ hkey)

theorem isWellFormed_configFile (sys : System) (s : Globals) :
    forall line, line ∈ configFile sys s -> line.isWellFormed = true := by
  have hcomments : forall text, text ∈ configComments ->
      ConfigLine.isWellFormed (.comment text) = true := by
    decide +kernel
  intro line hline
  cases line with
  | blank => rfl
  | comment text =>
      exact hcomments text (commentsOf_configFile sys s
        (List.mem_filterMap.mpr ⟨_, hline, rfl⟩))
  | bare key value =>
      exact isName_configFile sys s key (List.mem_filterMap.mpr ⟨_, hline, rfl⟩)
  | quoted key value =>
      exact isName_configFile sys s key (List.mem_filterMap.mpr ⟨_, hline, rfl⟩)

/-!
## Values that are written faithfully
-/

/-- The values that bash reads as they were entered. -/
structure IsSourceable (sys : System) (s : Globals) : Prop where
  /-- no single quotes in what is written between them -/
  datacenterName : '\'' ∉ s.system.datacenterName.toList
  adminEmail : '\'' ∉ s.system.adminEmail.toList
  esdcInstallPassword : '\'' ∉ s.system.esdcInstallPassword.toList
  /-- nothing that bash splits, expands or unquotes in what is written bare -/
  dnsResolvers :
    isBare true (s.system.dnsResolver1 ++ "," ++ s.system.dnsResolver2).toList = true
  dnsDomain : isBare true s.system.dnsDomain.toList = true
  ntpHosts : isBare true s.system.ntpHosts.toList = true
  hostname : isBare true s.system.hostname.toList = true
  /-- the same for the lines about addresses, VLANs, interfaces and the router -/
  others : forall line, line ∈ configFile sys s -> line ∉ promptedLines s ->
    line.isPlain = true

theorem isPlain_promptedLines_iff (s : Globals) :
    (forall line, line ∈ promptedLines s -> line.isPlain = true) <->
      isBare true (s.system.dnsResolver1 ++ "," ++ s.system.dnsResolver2).toList = true ∧
        isBare true s.system.dnsDomain.toList = true ∧
        isBare true s.system.ntpHosts.toList = true ∧
        isBare true s.system.hostname.toList = true ∧
        '\'' ∉ s.system.datacenterName.toList ∧ '\'' ∉ s.system.adminEmail.toList ∧
        '\'' ∉ s.system.esdcInstallPassword.toList := by
  simp [promptedLines, ConfigLine.isPlain]

/-- Sourcing the config file is faithful exactly for values without special characters. -/
theorem sourcesFaithfully_iff (sys : System) (s : Globals) :
    SourcesFaithfully sys s <-> IsSourceable sys s := by
  have hplain : SourcesFaithfully sys s <->
      forall line, line ∈ configFile sys s -> line.isPlain = true :=
    assignments_renderLines_iff (Nat.lt_succ_self _) (isWellFormed_configFile sys s)
  rw [hplain]
  constructor
  · intro h
    have hprompted := (isPlain_promptedLines_iff s).mp fun line hline =>
      h line (promptedLines_subset sys s hline)
    rcases hprompted with
      ⟨hresolvers, hdomain, hntp, hhostname, hname, hemail, hpassword⟩
    exact ⟨hname, hemail, hpassword, hresolvers, hdomain, hntp, hhostname,
      fun line hline _ => h line hline⟩
  · intro h line hline
    by_cases hprompted : line ∈ promptedLines s
    · refine (isPlain_promptedLines_iff s).mpr ?_ line hprompted
      exact ⟨h.dnsResolvers, h.dnsDomain, h.ntpHosts, h.hostname, h.datacenterName,
        h.adminEmail, h.esdcInstallPassword⟩
    · exact h.others line hline hprompted

/-- A password with an apostrophe. -/
def apostropheAnswers : Answers :=
  { plainAnswers with esdcInstallPassword := "it's me" }

/-- The prompt returns the password, and bash does not read it back. -/
theorem apostrophe_is_not_sourced :
    promptpw true "" "" ["it's me", "it's me"] = some apostropheAnswers.esdcInstallPassword ∧
      exists s, mainLoop plainDladm [apostropheAnswers] (Globals.initial false) = .done s ∧
        source (renderLines (configFile plainSystem s)) = none ∧
        ¬ SourcesFaithfully plainSystem s := by
  have hrun : (mainLoop plainDladm [apostropheAnswers] (Globals.initial false)).passes
      (fun s => source (renderLines (configFile plainSystem s)) = none) = true := by
    decide +kernel
  rcases Outcome.passes_iff.mp hrun with ⟨s, hs, hnone⟩
  have hsource : source (renderLines (configFile plainSystem s)) = none := by
    simpa using hnone
  refine ⟨by decide +kernel, s, hs, hsource, ?_⟩
  intro h
  rw [SourcesFaithfully, hsource] at h
  cases h

end Installer
end EsdcFactory
