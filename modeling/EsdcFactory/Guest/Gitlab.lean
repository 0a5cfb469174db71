import EsdcFactory.Installer.AnswersFile
import EsdcFactory.Lib.Sed
import EsdcFactory.Lib.WordSearch

/-!
# The external URL of GitLab

At each boot `configure_gitlab` brings the URL of the metadata into a file of settings,
with a search for the line that is there and a substitution of `sed`.  The URL stands in
the script of `sed` as it is.
-/

namespace EsdcFactory
namespace Guest
namespace Gitlab

open Installer

/-!
## The file
-/

abbrev Line := List Char

/-- `grep -q "^external_url"` -/
def isUrlLine (line : Line) : Bool :=
  "external_url".toList.isPrefixOf line

/-- `grep -q` for a word -/
def mentions (word : List Char) (line : Line) : Bool :=
  decide (word <:+: line)

def redirectWord : List Char :=
  "redirect_http_to_https".toList

def certificateWord : List Char :=
  "ssl_certificate".toList

/-- `echo`, of a text that may have several lines -/
def echoLines (text : List Char) : List Line :=
  text.splitOn '\n'

def urlLine (url : List Char) : Line :=
  "external_url \"".toList ++ url ++ ['"']

def certificateLines : List Line :=
  ["nginx['ssl_certificate'] = \"/etc/pki/tls/certs/server.crt\"".toList,
    "nginx['ssl_certificate_key'] = \"/etc/pki/tls/certs/server.key\"".toList]

def redirectLine : Line :=
  "nginx['redirect_http_to_https'] = true".toList

/-- The file when it is new. -/
def newFile : List Line :=
  ["# Custom GitLab configuration - updated automatically according to VM metadata".toList]

/-!
## Substitutions
-/

/-- What a piece puts in for a line that was found as a whole. -/
def put (line : Line) : Sed.Piece -> List Char
  | .char c => [c]
  | .matched => line
  | .escaped c => [c]

/-- `s#^external_url.*#...#`, on all lines -/
def substituteUrl (pieces : List Sed.Piece) (file : List Line) : List Line :=
  file.flatMap fun line =>
    if isUrlLine line then echoLines (pieces.flatMap (put line)) else [line]

/--
`sed` on a file: what it makes of a pattern, a replacement and what stands behind that,
if it takes them.
-/
structure SedProgram where
  run : List Char -> List Sed.Piece -> List Char -> Option (List Line -> List Line)
  run_url : forall pieces, (forall c, .escaped c ∉ pieces) ->
    run "^external_url.*".toList pieces [] = some (substituteUrl pieces)

/-- The script `s`, of which the replacement and all behind it is given. -/
def SedProgram.script (sed : SedProgram) (delimiter : Char) (pattern rest : List Char) :
    Option (List Line -> List Line) := do
  let (pieces, flags) <- Sed.replacementTo delimiter rest
  sed.run pattern pieces flags

/-- `sed -i.bak`, which leaves the file alone when it does not take the script. -/
def SedProgram.edit (sed : SedProgram) (delimiter : Char) (pattern rest : List Char)
    (file : List Line) : List Line :=
  match sed.script delimiter pattern rest with
  | none => file
  | some run => run file

/-!
## The function
-/

/-- `GL_external_url`, for which a first boot has a default. -/
def externalUrl (hostname : List Char) (init : Bool) (metadata : Option (List Char)) :
    List Char :=
  let default := if init then "https://".toList ++ substituted hostname else []
  substituted (match metadata with
    | some value => value ++ ['\n']
    | none => echo default)

def urlScript (url : List Char) : List Char :=
  urlLine url ++ ['#']

def setUrl (sed : SedProgram) (url : List Char) (file : List Line) : List Line :=
  if file.any isUrlLine then sed.edit '#' "^external_url.*".toList (urlScript url) file
  else file ++ echoLines (urlLine url)

/-- `[[ "${GL_external_url:0:6}" == "https:" ]]` -/
def isHttps (url : List Char) : Bool :=
  url.take 6 = "https:".toList

def addCertificate (file : List Line) : List Line :=
  if file.any (mentions certificateWord) then file else file ++ certificateLines

def addRedirect (file : List Line) : List Line :=
  if file.any (mentions redirectWord) then file else file ++ [redirectLine]

def setScheme (sed : SedProgram) (url : List Char) (file : List Line) : List Line :=
  if isHttps url then addRedirect (addCertificate file)
  else if file.any (mentions redirectWord) then
    sed.edit '/' "^nginx['redirect_http_to_https'].*".toList ['d'] file
  else file

def configureGitlab (sed : SedProgram) (hostname : List Char) (init : Bool)
    (metadata : Option (List Char)) (file : List Line) : List Line :=
  let url := externalUrl hostname init metadata
  if url = [] then file else setScheme sed url (setUrl sed url file)

/-- The file after some boots with URLs in the metadata, of which the first one creates it. -/
def boots (sed : SedProgram) (hostname : List Char) : List (List Char) -> List Line
  | [] => newFile
  | value :: values =>
      values.foldl (fun file value => configureGitlab sed hostname false (some value) file)
        (configureGitlab sed hostname true (some value) newFile)

/-!
## What is asked of it
-/

/-- The file says what the value in the metadata says. -/
structure Follows (sed : SedProgram) (hostname value : List Char) (file : List Line) :
    Prop where
  url : file.filter isUrlLine = [urlLine value]
  redirect : file.any (mentions redirectWord) = true <-> "https:".toList <+: value
  again : configureGitlab sed hostname false (some value) file = file

/-- The value can be set after those that were set earlier. -/
structure Settable (sed : SedProgram) (earlier : List (List Char)) (value : List Char) :
    Prop where
  oneLine : '\n' ∉ value
  nulFree : '\x00' ∉ value
  /-- nothing of the redirect is in the file, neither in the URL nor from an earlier one -/
  scheme : isHttps value = false -> mentions redirectWord value = false ∧
    forall other, other ∈ earlier -> isHttps other = true -> mentions redirectWord other = true
  /-- `sed` finds nothing special in the value, or does not take it and need not -/
  literal : (forall c, c ∈ value -> c ∉ ['&', '\\', '#']) ∨
    sed.script '#' "^external_url.*".toList (urlScript value) = none ∧
      (earlier = [] ∨ earlier.getLast? = some value)

/-!
## The URL of the metadata
-/

theorem externalUrl_some (hostname : List Char) (init : Bool) {value : List Char}
    (hline : '\n' ∉ value) (hnul : '\x00' ∉ value) :
    externalUrl hostname init (some value) = value := by
  rw [externalUrl, substituted_newline, substituted_line hline hnul]

theorem configureGitlab_some (sed : SedProgram) (hostname : List Char) (init : Bool)
    {value : List Char} (hne : value ≠ []) (hline : '\n' ∉ value) (hnul : '\x00' ∉ value)
    (file : List Line) :
    configureGitlab sed hostname init (some value) file =
      setScheme sed value (setUrl sed value file) := by
  simp only [configureGitlab, externalUrl_some hostname init hline hnul, if_neg hne]

theorem isHttps_iff (url : List Char) : isHttps url = true <-> "https:".toList <+: url := by
  rw [isHttps, decide_eq_true_iff, List.prefix_iff_eq_take]
  exact eq_comm

theorem echoLines_line {text : List Char} (h : '\n' ∉ text) : echoLines text = [text] :=
  List.splitOn_eq_singleton h

theorem of_mem_urlLine {p : Char -> Bool} {url : List Char}
    (hmarks : ("external_url \"".toList ++ ['"']).all p = true)
    (h : forall c, c ∈ url -> p c = true) : forall c, c ∈ urlLine url -> p c = true := by
  rw [List.all_append, Bool.and_eq_true, List.all_eq_true, List.all_eq_true] at hmarks
  intro c hc
  rcases List.mem_append.mp hc with hfront | hquote
  · rcases List.mem_append.mp hfront with hname | hurl
    · exact hmarks.left c hname
    · exact h c hurl
  · exact hmarks.right c hquote

theorem newline_notMem_urlLine {url : List Char} (h : '\n' ∉ url) : '\n' ∉ urlLine url := by
  have hall : forall c, c ∈ urlLine url -> decide (c ≠ '\n') = true :=
    of_mem_urlLine (by decide) fun c hc => decide_eq_true fun heq => h (heq ▸ hc)
  intro hmem
  simpa using hall '\n' hmem

theorem urlLine_eq (url : List Char) :
    urlLine url = "external_url \"".toList ++ url ++ ['"'] := rfl

theorem isUrlLine_urlLine (url : List Char) : isUrlLine (urlLine url) = true := by
  have hname : "external_url \"".toList = "external_url".toList ++ " \"".toList := by decide
  rw [isUrlLine, urlLine_eq, hname, List.append_assoc, List.append_assoc]
  exact List.isPrefixOf_iff_prefix.mpr (List.prefix_append _ _)

theorem mentions_urlLine (url : List Char) :
    mentions redirectWord (urlLine url) = mentions redirectWord url := by
  have hquote : '"' ∉ redirectWord := by decide
  have hfront : ¬ redirectWord <:+: "external_url ".toList := by decide
  have hnil : ¬ redirectWord <:+: [] := by decide
  have hname : "external_url \"".toList = "external_url ".toList ++ ['"'] := by decide
  rw [mentions, mentions, decide_eq_decide, urlLine_eq, hname, List.append_assoc,
    List.append_assoc, List.singleton_append, WordSearch.infix_append_sep hquote,
    WordSearch.infix_append_sep hquote]
  simp only [hfront, hnil, false_or, or_false]

/-!
## Substitutions of a URL
-/

/-- The lines that are not for the URL. -/
def others (file : List Line) : List Line :=
  file.filter fun line => !isUrlLine line

/-- The file with another URL. -/
def withUrl (url : List Char) (file : List Line) : List Line :=
  file.map fun line => if isUrlLine line then urlLine url else line

theorem urls_withUrl (url : List Char) (file : List Line) :
    (withUrl url file).filter isUrlLine = (file.filter isUrlLine).map fun _ => urlLine url := by
  induction file with
  | nil => rfl
  | cons line file ih =>
      rw [withUrl] at ih ⊢
      by_cases hline : isUrlLine line = true
      · rw [List.map_cons, if_pos hline, List.filter_cons_of_pos (isUrlLine_urlLine url),
          List.filter_cons_of_pos hline, List.map_cons, ih]
      · rw [List.map_cons, if_neg hline, List.filter_cons_of_neg hline,
          List.filter_cons_of_neg hline, ih]

theorem others_withUrl (url : List Char) (file : List Line) :
    others (withUrl url file) = others file := by
  induction file with
  | nil => rfl
  | cons line file ih =>
      rw [withUrl, others, others] at ih ⊢
      by_cases hline : isUrlLine line = true
      · rw [List.map_cons, if_pos hline, List.filter_cons_of_neg (by simp [isUrlLine_urlLine]),
          List.filter_cons_of_neg (by simp [hline]), ih]
      · rw [List.map_cons, if_neg hline, List.filter_cons_of_pos (by simp [hline]),
          List.filter_cons_of_pos (by simp [hline]), ih]

theorem withUrl_of_urls {url : List Char} {file : List Line}
    (h : forall line, line ∈ file.filter isUrlLine -> line = urlLine url) :
    withUrl url file = file := by
  rw [withUrl]
  conv_rhs => rw [← List.map_id file]
  apply List.map_congr_left
  intro line hmem
  by_cases hline : isUrlLine line = true
  · rw [if_pos hline, h line (List.mem_filter.mpr ⟨hmem, hline⟩), id]
  · rw [if_neg hline, id]

theorem substituteUrl_chars {url : List Char} (h : '\n' ∉ url) (file : List Line) :
    substituteUrl ((urlLine url).map .char) file = withUrl url file := by
  have hput : forall line, ((urlLine url).map Sed.Piece.char).flatMap (put line) =
      urlLine url := by
    intro line
    rw [List.flatMap_map]
    exact List.flatMap_singleton' _
  simp only [substituteUrl, hput, echoLines_line (newline_notMem_urlLine h)]
  rw [withUrl, List.map_eq_flatMap]
  congr
  funext line
  split <;> rfl

theorem script_plain (sed : SedProgram) {url : List Char} (hline : '\n' ∉ url)
    (h : forall c, c ∈ url -> c ∉ ['&', '\\', '#']) :
    sed.script '#' "^external_url.*".toList (urlScript url) =
      some (substituteUrl ((urlLine url).map .char)) := by
  have hspecial : forall c, c ∈ urlLine url -> (!Sed.isSpecialTo '#' c) = true := by
    apply of_mem_urlLine (by decide)
    intro c hc
    have hmarks := h c hc
    have hnewline : c ≠ '\n' := fun heq => hline (heq ▸ hc)
    simp only [List.mem_cons, List.not_mem_nil, or_false, not_or] at hmarks
    simp [Sed.isSpecialTo, hmarks, hnewline]
  have hrun := sed.run_url ((urlLine url).map .char) (by simp)
  rw [SedProgram.script, urlScript, Sed.replacementTo_chars (by decide) fun c hc => by
    simpa using hspecial c hc]
  exact hrun

/-- A script that is not taken, or one with the URL as it is. -/
theorem edit_cases (sed : SedProgram) {earlier : List (List Char)} {value : List Char}
    (h : Settable sed earlier value) (file : List Line) :
    sed.edit '#' "^external_url.*".toList (urlScript value) file = withUrl value file ∨
      sed.edit '#' "^external_url.*".toList (urlScript value) file = file ∧
        (earlier = [] ∨ earlier.getLast? = some value) := by
  rcases h.literal with hplain | ⟨hnone, hearlier⟩
  · rw [SedProgram.edit, script_plain sed h.oneLine hplain]
    exact Or.inl (substituteUrl_chars h.oneLine file)
  · rw [SedProgram.edit, hnone]
    exact Or.inr ⟨rfl, hearlier⟩

/-!
## A boot
-/

/-- The file after the boots with some values. -/
structure Holds (values : List (List Char)) (file : List Line) : Prop where
  urls : file.filter isUrlLine = (values.getLast?.map urlLine).toList
  /-- the redirect is set by a URL that does not bring the word with it -/
  redirect : (others file).any (mentions redirectWord) = true <->
    exists value, value ∈ values ∧ isHttps value = true ∧ mentions redirectWord value = false

theorem any_isUrlLine (file : List Line) :
    file.any isUrlLine = true <-> file.filter isUrlLine ≠ [] := by
  rw [List.any_eq_true, Ne, List.filter_eq_nil_iff]
  simp

theorem urls_setUrl {sed : SedProgram} {values : List (List Char)} {value : List Char}
    {file : List Line} (h : Settable sed values value)
    (hurls : file.filter isUrlLine = (values.getLast?.map urlLine).toList) :
    (setUrl sed value file).filter isUrlLine = [urlLine value] ∧
      others (setUrl sed value file) = others file := by
  have hvalue := isUrlLine_urlLine value
  cases hlast : values.getLast? with
  | none =>
      rw [hlast] at hurls
      have hnone : ¬ file.any isUrlLine = true := by
        rw [any_isUrlLine, hurls]
        simp
      rw [setUrl, if_neg hnone, echoLines_line (newline_notMem_urlLine h.oneLine), others,
        List.filter_append, List.filter_append, hurls]
      constructor
      · simp [hvalue]
      · simp [hvalue, others]
  | some last =>
      rw [hlast] at hurls
      have hsome : file.any isUrlLine = true := by
        rw [any_isUrlLine, hurls]
        simp
      rw [setUrl, if_pos hsome]
      rcases edit_cases sed h file with hedit | ⟨hedit, hearlier⟩
      · rw [hedit, urls_withUrl, hurls, others_withUrl]
        exact ⟨rfl, rfl⟩
      · rw [hedit, hurls]
        rcases hearlier with hempty | hsame
        · rw [hempty] at hlast
          cases hlast
        · rw [hlast] at hsame
          cases hsame
          exact ⟨rfl, rfl⟩

theorem setUrl_again {sed : SedProgram} {values : List (List Char)} {value : List Char}
    {file : List Line} (h : Settable sed values value)
    (hurls : file.filter isUrlLine = [urlLine value]) : setUrl sed value file = file := by
  have hsome : file.any isUrlLine = true := by
    rw [any_isUrlLine, hurls]
    exact List.cons_ne_nil _ _
  rw [setUrl, if_pos hsome]
  rcases edit_cases sed h file with hedit | ⟨hedit, _⟩
  · rw [hedit]
    apply withUrl_of_urls
    intro line hline
    rw [hurls] at hline
    exact List.mem_singleton.mp hline
  · exact hedit

/-- The command that should take the redirect away is not ended. -/
theorem setScheme_http (sed : SedProgram) {url : List Char} (h : isHttps url = false)
    (file : List Line) : setScheme sed url file = file := by
  have hscript : sed.script '/' "^nginx['redirect_http_to_https'].*".toList ['d'] = none := rfl
  rw [setScheme, if_neg (by simp [h]), SedProgram.edit, hscript, ite_self]

theorem setScheme_https (sed : SedProgram) {url : List Char} (h : isHttps url = true)
    (file : List Line) : setScheme sed url file = addRedirect (addCertificate file) := by
  rw [setScheme, if_pos h]

/-- Lines that are added unless a word is in the file already, seen through a filter. -/
theorem filter_unlessMentioned {select : Line -> Bool} {lines : List Line}
    (h : lines.filter select = []) (word : List Char) (file : List Line) :
    (if file.any (mentions word) then file else file ++ lines).filter select =
      file.filter select := by
  split
  · rfl
  · rw [List.filter_append, h, List.append_nil]

theorem any_unlessMentioned {word : List Char} {lines : List Line}
    (h : lines.any (mentions word) = true) (file : List Line) :
    (if file.any (mentions word) then file else file ++ lines).any (mentions word) = true := by
  split
  next hfile => exact hfile
  next => rw [List.any_append, h, Bool.or_true]

theorem urls_addCertificate (file : List Line) :
    (addCertificate file).filter isUrlLine = file.filter isUrlLine :=
  filter_unlessMentioned (by decide) certificateWord file

theorem redirect_addCertificate (file : List Line) :
    (others (addCertificate file)).any (mentions redirectWord) =
      (others file).any (mentions redirectWord) := by
  rw [addCertificate]
  split
  · rfl
  · have hnone : (others certificateLines).any (mentions redirectWord) = false := by decide
    rw [others, List.filter_append, List.any_append, ← others, ← others, hnone, Bool.or_false]

theorem urls_addRedirect (file : List Line) :
    (addRedirect file).filter isUrlLine = file.filter isUrlLine :=
  filter_unlessMentioned (by decide) redirectWord file

theorem any_addRedirect (file : List Line) :
    (addRedirect file).any (mentions redirectWord) = true :=
  any_unlessMentioned (by decide) file

theorem any_certificate (file : List Line) :
    (addRedirect (addCertificate file)).any (mentions certificateWord) = true := by
  have hadded : (addCertificate file).any (mentions certificateWord) = true :=
    any_unlessMentioned (by decide) file
  rw [addRedirect]
  split
  · exact hadded
  · rw [List.any_append, hadded, Bool.true_or]

/-- A word is in the file with the URL or in another line. -/
theorem any_redirect {url : List Char} {file : List Line}
    (h : file.filter isUrlLine = [urlLine url]) :
    file.any (mentions redirectWord) = true <->
      mentions redirectWord url = true ∨ (others file).any (mentions redirectWord) = true := by
  have hperm := List.filter_append_perm isUrlLine file
  rw [h] at hperm
  rw [List.any_eq_true, ← mentions_urlLine url, List.any_eq_true]
  constructor
  · intro hany
    rcases hany with ⟨line, hline, hword⟩
    rcases List.mem_append.mp (hperm.mem_iff.mpr hline) with hurl | hother
    · rw [List.mem_singleton.mp hurl] at hword
      exact Or.inl hword
    · exact Or.inr ⟨line, hother, hword⟩
  · intro hany
    rcases hany with hurl | ⟨line, hother, hword⟩
    · exact ⟨urlLine url, hperm.mem_iff.mp List.mem_cons_self, hurl⟩
    · exact ⟨line, hperm.mem_iff.mp (List.mem_append_right _ hother), hword⟩

theorem redirect_addRedirect {url : List Char} {file : List Line}
    (h : file.filter isUrlLine = [urlLine url]) :
    (others (addRedirect file)).any (mentions redirectWord) = true <->
      (others file).any (mentions redirectWord) = true ∨ mentions redirectWord url = false := by
  have hany := any_redirect h
  rw [addRedirect]
  split
  next hfile =>
    rcases hany.mp hfile with hurl | hother
    · simp [hurl]
    · simp [hother]
  next hfile =>
    rw [hany, not_or] at hfile
    have hline : (others [redirectLine]).any (mentions redirectWord) = true := by decide
    rw [others, List.filter_append, List.any_append, ← others, ← others, hline, Bool.or_true]
    simpa using Or.inr hfile.left

theorem urls_setScheme {sed : SedProgram} (url : List Char) (file : List Line) :
    (setScheme sed url file).filter isUrlLine = file.filter isUrlLine := by
  cases hhttps : isHttps url with
  | false => rw [setScheme_http sed hhttps]
  | true => rw [setScheme_https sed hhttps, urls_addRedirect, urls_addCertificate]

theorem setScheme_again {sed : SedProgram} (url : List Char) (file : List Line) :
    setScheme sed url (setScheme sed url file) = setScheme sed url file := by
  cases hhttps : isHttps url with
  | false => rw [setScheme_http sed hhttps]
  | true =>
      rw [setScheme_https sed hhttps, setScheme_https sed hhttps]
      rw [addCertificate, if_pos (any_certificate file), addRedirect,
        if_pos (any_addRedirect (addCertificate file))]

/-- What a boot keeps. -/
theorem holds_boot {sed : SedProgram} {values : List (List Char)} {value : List Char}
    {file : List Line} (h : Settable sed values value) (hfile : Holds values file) :
    Holds (values ++ [value]) (setScheme sed value (setUrl sed value file)) := by
  rcases urls_setUrl h hfile.urls with ⟨hurls, hothers⟩
  constructor
  · rw [urls_setScheme, hurls, List.getLast?_concat]
    rfl
  · simp only [List.mem_append, List.mem_singleton, or_and_right, exists_or, exists_eq_left]
    cases hhttps : isHttps value with
    | false =>
        rw [setScheme_http sed hhttps, hothers, hfile.redirect]
        simp
    | true =>
        have hadded := urls_addCertificate (setUrl sed value file)
        rw [hurls] at hadded
        rw [setScheme_https sed hhttps, redirect_addRedirect hadded, redirect_addCertificate,
          hothers, hfile.redirect]
        simp

theorem follows_boot {sed : SedProgram} {values : List (List Char)} {value : List Char}
    {file : List Line} (hostname : List Char) (hne : value ≠ [])
    (h : Settable sed values value) (hfile : Holds values file) :
    Follows sed hostname value (setScheme sed value (setUrl sed value file)) := by
  have hboot := holds_boot h hfile
  have hurls : (setScheme sed value (setUrl sed value file)).filter isUrlLine =
      [urlLine value] := by
    rw [urls_setScheme]
    exact (urls_setUrl h hfile.urls).left
  constructor
  · exact hurls
  · rw [← isHttps_iff]
    cases hhttps : isHttps value with
    | true =>
        rw [setScheme_https sed hhttps]
        exact iff_of_true (any_addRedirect _) rfl
    | false =>
        rcases h.scheme hhttps with ⟨hword, hearlier⟩
        apply iff_of_false
        · rw [any_redirect hurls, hboot.redirect, hword]
          intro hany
          rcases hany with hfalse | ⟨other, hother, hsecure, hfree⟩
          · cases hfalse
          · rcases List.mem_append.mp hother with hold | hnew
            · rw [hearlier other hold hsecure] at hfree
              cases hfree
            · rw [List.mem_singleton.mp hnew, hhttps] at hsecure
              cases hsecure
        · exact Bool.false_ne_true
  · rw [configureGitlab_some sed hostname false hne h.oneLine h.nulFree,
      setUrl_again h hurls, setScheme_again]

/-!
## Boots
-/

theorem boots_concat (sed : SedProgram) (hostname : List Char) (values : List (List Char))
    (value : List Char) :
    exists init, boots sed hostname (values ++ [value]) =
      configureGitlab sed hostname init (some value) (boots sed hostname values) := by
  cases values with
  | nil => exact ⟨true, rfl⟩
  | cons first values => exact ⟨false, by simp [boots]⟩

theorem holds_newFile : Holds [] newFile := by
  constructor
  · decide +kernel
  · have hnone : (others newFile).any (mentions redirectWord) = false := by decide +kernel
    simp [hnone]

/-- As long as each value can be set, the file says what the last one says. -/
theorem boots_follow (sed : SedProgram) (hostname : List Char) (values : List (List Char))
    (hvalues : [] ∉ values)
    (h : forall i, (hi : i < values.length) -> Settable sed (values.take i) values[i]) :
    forall i, (hi : i < values.length) ->
      Follows sed hostname values[i] (boots sed hostname (values.take (i + 1))) := by
  have hholds : forall i, i ≤ values.length ->
      Holds (values.take i) (boots sed hostname (values.take i)) := by
    intro i
    induction i with
    | zero => exact fun _ => holds_newFile
    | succ i ih =>
        intro hi
        have hvalue := h i hi
        have hne : values[i] ≠ [] := fun heq => hvalues (heq ▸ List.getElem_mem hi)
        rcases boots_concat sed hostname (values.take i) values[i] with ⟨init, hboots⟩
        rw [← List.take_append_getElem hi, hboots,
          configureGitlab_some sed hostname init hne hvalue.oneLine hvalue.nulFree]
        exact holds_boot hvalue (ih (Nat.le_of_lt hi))
  intro i hi
  have hvalue := h i hi
  have hne : values[i] ≠ [] := fun heq => hvalues (heq ▸ List.getElem_mem hi)
  rcases boots_concat sed hostname (values.take i) values[i] with ⟨init, hboots⟩
  rw [← List.take_append_getElem hi, hboots,
    configureGitlab_some sed hostname init hne hvalue.oneLine hvalue.nulFree]
  exact follows_boot hostname hne hvalue (hholds i (Nat.le_of_lt hi))

/-- `sed` on scripts without other commands. -/
def plainSed : SedProgram where
  run _ pieces flags := if flags = [] then some (substituteUrl pieces) else none
  run_url _ _ := if_pos rfl

theorem settable_http : Settable plainSed [] "http://a".toList :=
  ⟨by decide, by decide, by decide, Or.inl (by decide)⟩

theorem settable_https : Settable plainSed ["http://a".toList] "https://b".toList :=
  ⟨by decide, by decide, by decide, Or.inl (by decide)⟩

/-- A URL for HTTPS can follow one that is not. -/
theorem boots_follow_upgrade :
    Follows plainSed [] "https://b".toList
      (boots plainSed [] ["http://a".toList, "https://b".toList]) := by
  apply boots_follow plainSed [] ["http://a".toList, "https://b".toList] (by decide) _ 1
    (by decide)
  intro i hi
  match i, hi with
  | 0, _ => exact settable_http
  | 1, _ => exact settable_https

/-- The redirect is still there when the URL is not for HTTPS any more. -/
theorem redirect_stays :
    ¬ Follows plainSed [] "http://a".toList
      (boots plainSed [] ["https://a".toList, "http://a".toList]) := by
  intro h
  have hany : (boots plainSed [] ["https://a".toList, "http://a".toList]).any
      (mentions redirectWord) = true := by decide +kernel
  exact absurd (h.redirect.mp hany) (by decide)

end Gitlab
end Guest
end EsdcFactory
