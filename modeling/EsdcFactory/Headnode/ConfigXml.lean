import EsdcFactory.Headnode.RouterTemplate
import Mathlib.Data.List.Nodup

/-!
# The configuration of the router

The configuration of the router is a file that ends up in a string of its
manifest.  It passes `escape_newlines`, one `sed` for the quotes and another one
that puts it into the template, and then the JSON reader of `vmadm`.
-/

namespace EsdcFactory
namespace Headnode

open Sed

/-- The lines of a file. -/
def unlines (lines : List (List Char)) : List Char :=
  lines.flatMap fun line => line ++ ['\n']

/-- The manifest is valid JSON with the configuration in its metadata. -/
def Survives (dialect : Dialect) (values : RouterValues) (configXml : List Char) : Prop :=
  exists lines json,
    buildVmmanifest dialect .opnsense (values.manifestVars configXml)
      (vmmanifestTemplate values.imageUuid) = some lines ∧
    Json.read (unlines lines) = some json ∧
    json.follow ["customer_metadata".toList, "config.xml".toList] = some (.str configXml)

/-- A text that has no character with a meaning for `sed` and no control character. -/
def IsPlainXml (configXml : List Char) : Prop :=
  forall c, c ∈ configXml -> c ≠ '&' ∧ c ≠ '|' ∧ c ≠ '\\' ∧ (Json.isControl c = true -> c = '\n')

/-!
## Running the expressions
-/

/-- The expressions before the one of the configuration. -/
def RouterValues.expressions (values : RouterValues) : List Expression :=
  (Headnode.expressions .opnsense (values.manifestVars [])).dropLast

/-- The expression of the configuration. -/
def configExpression (configXml : List Char) : Expression :=
  ofFile "CONFIG_XML" .quotedLines configXml

theorem expressions_eq (values : RouterValues) (configXml : List Char) :
    expressions .opnsense (values.manifestVars configXml) =
      values.expressions ++ [configExpression configXml] := rfl

theorem PlainText.special (value : PlainText) (c : Char) (hc : c ∈ value.text) :
    isSpecial c = false ∧ c ≠ '@' := by
  have hordinary := value.ordinary c hc
  simp only [isOrdinary, Bool.and_eq_true, Bool.not_eq_true', bne_iff_ne] at hordinary
  exact ⟨hordinary.left.right, hordinary.right⟩

theorem special_macPlaceholder (values : RouterValues) (c : Char)
    (hc : c ∈ opnsenseExternalMacPlaceholder values.externalMac.text) :
    isSpecial c = false ∧ c ≠ '@' := by
  have hbefore : forall c, c ∈ "\"mac\": \"".toList -> isSpecial c = false ∧ c ≠ '@' := by
    rw [String.toList_ofList]
    decide
  have hbehind : forall c, c ∈ "\",".toList -> isSpecial c = false ∧ c ≠ '@' := by
    rw [String.toList_ofList]
    decide
  unfold opnsenseExternalMacPlaceholder at hc
  split at hc
  · cases hc
  · rcases List.mem_append.mp hc with hc | hc
    · rcases List.mem_append.mp hc with hc | hc
      · exact hbefore c hc
      · exact values.externalMac.special c hc
    · exact hbehind c hc

theorem expressions_list (values : RouterValues) : values.expressions =
    [ofVar "MON_IP" values.monIp.text,
      ofVar "ADMIN_IP" values.adminIp.text,
      ofVar "ADMIN_NETMASK" values.adminNetmask.text,
      ofVar "ADMIN_VLAN_ID" values.adminVlanId.text,
      ofVar "EXTERNAL_IP" values.externalIp.text,
      ofVar "EXTERNAL_NETMASK" values.externalNetmask.text,
      ofVar "EXTERNAL_MAC_PLACEHOLDER"
        (opnsenseExternalMacPlaceholder values.externalMac.text),
      ofVar "EXTERNAL_GATEWAY" values.externalGateway.text,
      ofVar "EXTERNAL_VLAN_ID" values.externalVlanId.text,
      ofVar "OPNSENSE_API_KEY" values.apiKey.text,
      ofVar "OPNSENSE_API_SECRET" values.apiSecret.text] := rfl

/-- The values before the configuration mean nothing to `sed`. -/
theorem mem_expressions (values : RouterValues) {e : Expression}
    (h : e ∈ values.expressions) :
    e.encoding = .plain ∧ forall c, c ∈ e.value -> isSpecial c = false ∧ c ≠ '@' := by
  rw [expressions_list] at h
  simp only [List.mem_cons, List.not_mem_nil, or_false] at h
  rcases h with rfl | rfl | rfl | rfl | rfl | rfl | rfl | rfl | rfl | rfl | rfl
  all_goals refine ⟨rfl, ?_⟩
  · exact values.monIp.special
  · exact values.adminIp.special
  · exact values.adminNetmask.special
  · exact values.adminVlanId.special
  · exact values.externalIp.special
  · exact values.externalNetmask.special
  · exact special_macPlaceholder values
  · exact values.externalGateway.special
  · exact values.externalVlanId.special
  · exact values.apiKey.special
  · exact values.apiSecret.special

theorem inserted_of_plain {e : Expression} (h : e.encoding = .plain) : e.inserted = e.value := by
  have hletters : e.letters = fun _ => none := by
    funext c
    rw [Expression.letters, h]
    rfl
  rw [Expression.inserted, hletters]
  exact List.flatMap_singleton' _

/-- What is left of a line when its placeholder is not the one of the configuration. -/
theorem at_not_mem_replacedLine (values : RouterValues) {slot : Slot}
    {e : Expression} (hfind : values.expressions.find? (fun e => e.name = slot.name) = some e) :
    '@' ∉ replacedLine values.expressions (.slot slot) := by
  rcases mem_expressions values (List.mem_of_find?_eq_some hfind) with ⟨hplain, hvalue⟩
  rw [replacedLine, hfind]
  simp only [Slot.filled, inserted_of_plain hplain, List.mem_append, not_or]
  exact ⟨slot.pre_free, fun hmem => (hvalue _ hmem).right rfl, slot.post_free⟩

def TemplateLine.name : TemplateLine -> Option (List Char)
  | .text _ _ => none
  | .slot place => some place.name

theorem map_name_values (values : RouterValues) :
    values.expressions.map Expression.name = (names .opnsense).dropLast := rfl

/-- Each placeholder of the template has an expression. -/
theorem name_template (imageUuid : PlainText) :
    forall name, name ∈ (templateHead imageUuid ++ templateTail).filterMap TemplateLine.name ->
      name ∈ (names .opnsense).dropLast := by
  have hnames : (templateHead imageUuid ++ templateTail).filterMap TemplateLine.name =
      ["EXTERNAL_MAC_PLACEHOLDER".toList, "EXTERNAL_GATEWAY".toList, "EXTERNAL_IP".toList,
        "EXTERNAL_NETMASK".toList, "EXTERNAL_VLAN_ID".toList, "ADMIN_IP".toList,
        "ADMIN_NETMASK".toList, "ADMIN_VLAN_ID".toList, "OPNSENSE_API_KEY".toList,
        "OPNSENSE_API_SECRET".toList, "MON_IP".toList] := rfl
  rw [hnames]
  decide +kernel

theorem find_isSome {values : RouterValues} {slot : Slot}
    (h : .slot slot ∈ templateHead values.imageUuid ++ templateTail) :
    exists e, values.expressions.find? (fun e => e.name = slot.name) = some e := by
  have hname := name_template values.imageUuid slot.name
    (List.mem_filterMap.mpr ⟨.slot slot, h, rfl⟩)
  rw [← map_name_values values] at hname
  rcases List.mem_map.mp hname with ⟨e, he, heq⟩
  apply Option.isSome_iff_exists.mp
  rw [List.find?_isSome]
  exact ⟨e, he, by simpa using heq⟩

theorem foldl_plain (values : RouterValues) (line : TemplateLine) :
    values.expressions.foldl
        (fun text e => replaceFirst (placeholder e.name) e.inserted text) line.render =
      replacedLine values.expressions line := by
  cases line with
  | text line h =>
      apply foldl_eq_self
      intro e _ hin
      exact h (hin.subset List.mem_cons_self)
  | slot slot =>
      apply foldl_slot
      · intro e he
        have hmem : e ∈ expressions .opnsense (values.manifestVars []) :=
          List.dropLast_subset _ he
        exact at_not_mem_name hmem
      · apply List.pairwise_of_forall_mem_list
        intro earlier hearlier later _ _ hin
        rcases mem_expressions values hearlier with ⟨hplain, hvalue⟩
        rw [placeholder_infix_filled_iff, inserted_of_plain hplain] at hin
        exact (hvalue _ (hin.subset List.mem_cons_self)).right rfl

theorem replaceFirst_other {values : RouterValues} {line : TemplateLine} (text : List Char)
    (h : line ∈ templateHead values.imageUuid ++ templateTail) :
    replaceFirst (placeholder "CONFIG_XML".toList) text
        (replacedLine values.expressions line) =
      replacedLine values.expressions line := by
  apply replaceFirst_eq_self
  intro hin
  have hat : '@' ∈ replacedLine values.expressions line := hin.subset List.mem_cons_self
  cases line with
  | text line hfree => exact hfree hat
  | slot slot =>
      rcases find_isSome h with ⟨e, he⟩
      exact at_not_mem_replacedLine values he hat

theorem replacedLine_none {exprs : List Expression} {slot : Slot}
    (h : exprs.find? (fun e => e.name = slot.name) = none) :
    replacedLine exprs (.slot slot) = slot.filled (placeholder slot.name) := by
  rw [replacedLine, h]

theorem find_config (values : RouterValues) :
    values.expressions.find? (fun e => e.name = configSlot.name) = none := by
  have hname : configSlot.name ∉ (names .opnsense).dropLast := by decide +kernel
  rw [← map_name_values values] at hname
  rw [List.find?_eq_none]
  intro e he heq
  exact hname (List.mem_map.mpr ⟨e, he, of_decide_eq_true heq⟩)

theorem replaceFirst_config (values : RouterValues) (text : List Char) :
    replaceFirst (placeholder configSlot.name) text
        (replacedLine values.expressions (.slot configSlot)) =
      configSlot.filled text := by
  rw [replacedLine_none (find_config values)]
  exact replaceFirst_found _ text _ configSlot.pre_free

/-- The lines of the manifest with a text for the configuration. -/
def manifestLines (values : RouterValues) (text : List Char) : List (List Char) :=
  (templateHead values.imageUuid).map (replacedLine values.expressions) ++
    configSlot.filled text :: templateTail.map (replacedLine values.expressions)

theorem map_template (values : RouterValues) (text : List Char) :
    ((vmmanifestTemplate values.imageUuid).map fun line =>
      replaceFirst (placeholder configSlot.name) text
        (replacedLine values.expressions line)) = manifestLines values text := by
  have hhead : ((templateHead values.imageUuid).map fun line =>
      replaceFirst (placeholder configSlot.name) text (replacedLine values.expressions line)) =
      (templateHead values.imageUuid).map (replacedLine values.expressions) := by
    apply List.map_congr_left
    intro line hline
    exact replaceFirst_other text (List.mem_append_left _ hline)
  have htail : (templateTail.map fun line =>
      replaceFirst (placeholder configSlot.name) text (replacedLine values.expressions line)) =
      templateTail.map (replacedLine values.expressions) := by
    apply List.map_congr_left
    intro line hline
    exact replaceFirst_other text (List.mem_append_right _ hline)
  rw [vmmanifestTemplate, manifestLines, List.map_append, List.map_cons, replaceFirst_config,
    hhead, htail]

/-- Running the expressions, when the last one puts in a text. -/
theorem buildVmmanifest_eq {dialect : Dialect} (values : RouterValues)
    (configXml text : List Char)
    (h : substitute dialect (placeholder configSlot.name) (configExpression configXml).script =
      some (replaceFirst (placeholder configSlot.name) text)) :
    buildVmmanifest dialect .opnsense (values.manifestVars configXml)
        (vmmanifestTemplate values.imageUuid) =
      some (manifestLines values text) := by
  have hplain : forall e, e ∈ values.expressions -> ReadsLiterally e.letters e.value := by
    intro e he
    exact (readsLiterally_value_iff e).mpr fun c hc _ =>
      ((mem_expressions values he).right c hc).left
  have hlast : substitute dialect (placeholder (configExpression configXml).name)
      (configExpression configXml).script =
      some (replaceFirst (placeholder configSlot.name) text) := h
  have hcommands : ((values.expressions ++ [configExpression configXml]).mapM fun e =>
      substitute dialect (placeholder e.name) e.script) =
      some ((values.expressions.map fun e => replaceFirst (placeholder e.name) e.inserted) ++
        [replaceFirst (placeholder configSlot.name) text]) := by
    rw [List.mapM_append, mapM_substitute dialect hplain, List.mapM_cons, hlast]
    rfl
  rw [buildVmmanifest, sed, expressions_eq, hcommands, ← map_template]
  apply congrArg some
  apply List.map_congr_left
  intro line _
  rw [List.foldl_append, List.foldl_map, foldl_plain]
  rfl

theorem buildVmmanifest_eq_some {dialect : Dialect} {values : RouterValues}
    {configXml : List Char} {lines : List (List Char)}
    (h : buildVmmanifest dialect .opnsense (values.manifestVars configXml)
      (vmmanifestTemplate values.imageUuid) = some lines) :
    exists command, substitute dialect (placeholder configSlot.name)
      (configExpression configXml).script = some command := by
  rw [buildVmmanifest, sed, expressions_eq] at h
  rcases Option.bind_eq_some_iff.mp h with ⟨commands, hcommands, _⟩
  rw [List.mapM_append] at hcommands
  rcases Option.bind_eq_some_iff.mp hcommands with ⟨first, _, hlast⟩
  rcases Option.bind_eq_some_iff.mp hlast with ⟨last, hlast, _⟩
  rw [List.mapM_cons] at hlast
  rcases Option.bind_eq_some_iff.mp hlast with ⟨command, hcommand, _⟩
  exact ⟨command, hcommand⟩

/-!
## Characters of the manifest
-/

/-- The characters of the line that do not come from a value. -/
def TemplateLine.fixed : TemplateLine -> List Char
  | .text line _ => line
  | .slot place => place.pre ++ place.post

def isClean (line : TemplateLine) : Bool :=
  line.fixed.all fun c => c != '\\' && c != '&'

theorem not_mem_of_isClean {line : TemplateLine} (h : isClean line = true) :
    '\\' ∉ line.fixed ∧ '&' ∉ line.fixed := by
  have hchars := List.all_eq_true.mp h
  constructor <;> intro hmem <;> cases hchars _ hmem

theorem isClean_line (text : String) (h : '@' ∉ text.toList) :
    isClean (line text h) = text.toList.all fun c => c != '\\' && c != '&' := by
  rfl

theorem isClean_field (indent key name post : String)
    (h : '@' ∉ indent.toList ∧ '@' ∉ key.toList ∧ '@' ∉ name.toList ∧ '@' ∉ post.toList) :
    isClean (field indent key name post h) =
      (indent.toList ++ '"' :: (key.toList ++ "\": \"".toList) ++ post.toList).all fun c =>
        c != '\\' && c != '&' := by
  rfl

theorem isClean_imageLine (imageUuid : PlainText) : isClean (imageLine imageUuid) = true := by
  have htext : (imageUuid.text.all fun c => c != '\\' && c != '&') = true := by
    rw [List.all_eq_true]
    intro c hc
    have hspecial := (imageUuid.special c hc).left
    simp only [isSpecial, Bool.or_eq_false_iff, decide_eq_false_iff_not] at hspecial
    simp [hspecial]
  rw [isClean, imageLine, TemplateLine.fixed, List.all_append, List.all_append, htext]
  repeat rw [String.toList_ofList]
  rfl

theorem fixed_template (imageUuid : PlainText) :
    forall line, line ∈ templateHead imageUuid ++ templateTail ->
      '\\' ∉ line.fixed ∧ '&' ∉ line.fixed := by
  have hclean : (templateHead imageUuid ++ templateTail).all isClean = true := by
    have hmac : isClean macLine = true := rfl
    simp only [templateHead, templateStart, templateDisk, templateNics, templateExternal,
      templateAdmin, templateVm, templateTail, List.all_append, Bool.and_eq_true]
    -- The characters of a line are compared, without going through its bytes.
    and_intros
    all_goals
      simp only [List.all_cons, List.all_nil, isClean_line, isClean_field, isClean_imageLine, hmac,
        String.toList_append]
      repeat rw [String.toList_ofList]
      rfl
  exact fun line hline => not_mem_of_isClean (List.all_eq_true.mp hclean line hline)

theorem not_mem_replacedLine {values : RouterValues} {line : TemplateLine} {c : Char}
    (h : line ∈ templateHead values.imageUuid ++ templateTail) (hspecial : isSpecial c = true)
    (hc : c ∉ line.fixed) : c ∉ replacedLine values.expressions line := by
  cases line with
  | text line hfree => exact hc
  | slot slot =>
      rcases find_isSome h with ⟨e, he⟩
      rcases mem_expressions values (List.mem_of_find?_eq_some he) with ⟨hplain, hvalue⟩
      have hfree : c ∉ e.value := by
        intro hmem
        rw [(hvalue c hmem).left] at hspecial
        cases hspecial
      rw [TemplateLine.fixed, List.mem_append, not_or] at hc
      rw [replacedLine, he]
      simp only [Slot.filled, inserted_of_plain hplain, List.mem_append, not_or]
      exact ⟨hc.left, hfree, hc.right⟩

theorem unlines_append (xs ys : List (List Char)) :
    unlines (xs ++ ys) = unlines xs ++ unlines ys :=
  List.flatMap_append

theorem not_mem_unlines {lines : List (List Char)} {c : Char} (hc : c ≠ '\n')
    (h : forall line, line ∈ lines -> c ∉ line) : c ∉ unlines lines := by
  intro hmem
  rcases List.mem_flatMap.mp hmem with ⟨line, hline, hin⟩
  rcases List.mem_append.mp hin with hin | hin
  · exact h line hline hin
  · exact hc (List.mem_singleton.mp hin)

/-- The backslashes and ampersands of the manifest are the ones of the configuration. -/
theorem count_manifest (values : RouterValues) (text : List Char) {c : Char}
    (hc : c = '\\' ∨ c = '&') :
    (unlines (manifestLines values text)).count c = text.count c := by
  have hline : c ≠ '\n' := by
    rcases hc with rfl | rfl <;> decide
  have hspecial : isSpecial c = true := by
    rcases hc with rfl | rfl <;> rfl
  have hfixed : forall line, line ∈ templateHead values.imageUuid ++ templateTail ->
      c ∉ line.fixed := by
    intro line hmem
    rcases hc with rfl | rfl
    · exact (fixed_template _ line hmem).left
    · exact (fixed_template _ line hmem).right
  have hslot : c ∉ configSlot.pre ∧ c ∉ configSlot.post := by
    rcases hc with rfl | rfl <;> decide
  have hquiet : forall lines, lines ⊆ templateHead values.imageUuid ++ templateTail ->
      (unlines (lines.map (replacedLine values.expressions))).count c = 0 := by
    intro lines hsub
    apply List.count_eq_zero.mpr
    apply not_mem_unlines hline
    intro line hmem
    rcases List.mem_map.mp hmem with ⟨source, hfrom, rfl⟩
    exact not_mem_replacedLine (hsub hfrom) hspecial (hfixed _ (hsub hfrom))
  rw [manifestLines, unlines_append, List.count_append, hquiet _ (List.subset_append_left _ _),
    ← List.singleton_append, unlines_append, List.count_append,
    hquiet _ (List.subset_append_right _ _)]
  simp [unlines, Slot.filled, List.count_append, List.count_eq_zero.mpr hslot.left,
    List.count_eq_zero.mpr hslot.right, hline.symm]

/-!
## What a manifest that is read says about the configuration
-/

/-- An escaped character that is put in without its backslash adds none. -/
theorem count_expanded {dialect : Dialect} {found : List Char} {pieces : List Piece}
    {texts : List (List Char)} (hfound : '\\' ∉ found ∧ '&' ∉ found)
    (hescaped : forall c, .escaped c ∈ pieces ->
      isSpecial c = false ∧ dialect.escape c = some [c])
    (h : pieces.mapM (dialect.expand found) = some texts) :
    texts.flatten.count '\\' = pieces.count (.char '\\') ∧
      texts.flatten.count '&' = pieces.count (.char '&') := by
  induction pieces generalizing texts with
  | nil =>
      cases h
      exact ⟨rfl, rfl⟩
  | cons piece pieces ih =>
      rw [List.mapM_cons] at h
      rcases Option.bind_eq_some_iff.mp h with ⟨text, htext, htail⟩
      rcases Option.bind_eq_some_iff.mp htail with ⟨more, hmore, heq⟩
      cases heq
      rcases ih (fun c hc => hescaped c (List.mem_cons_of_mem _ hc)) hmore with ⟨hback, hamp⟩
      rw [List.flatten_cons, List.count_append, List.count_append, hback, hamp,
        List.count_cons, List.count_cons]
      cases piece with
      | char c =>
          cases htext
          simp [List.count_cons, Nat.add_comm]
      | matched =>
          cases htext
          simp [List.count_eq_zero.mpr hfound.left, List.count_eq_zero.mpr hfound.right]
      | escaped c =>
          rcases hescaped c List.mem_cons_self with ⟨hplain, hescape⟩
          rw [Dialect.expand, hescape] at htext
          cases htext
          have hne : c ≠ '\\' ∧ c ≠ '&' := by
            constructor <;> intro heq <;> subst heq <;> cases hplain
          simp [hne.left, hne.right]

/-- The characters with an escape, the backslashes and the other control characters. -/
theorem escapes_ge (text : List Char) :
    text.countP (fun c => (Encoding.quotedLines.letters c).isSome) + text.count '\\' +
        text.countP (fun c => Json.isControl c && c != '\n') ≤
      Json.escapes text := by
  induction text with
  | nil => exact Nat.le_refl _
  | cons c text ih =>
      have hone : (if (Encoding.quotedLines.letters c).isSome = true then 1 else 0) +
          (if c = '\\' then 1 else 0) +
          (if (Json.isControl c && c != '\n') = true then 1 else 0) ≤
          if (!Json.isLiteral c) = true then 1 else 0 := by
        by_cases hline : c = '\n'
        · subst hline
          decide
        · by_cases hquote : c = '"'
          · subst hquote
            decide
          · by_cases hback : c = '\\'
            · subst hback
              decide
            · simp [Encoding.letters, Json.isLiteral, hline, hquote, hback]
      simp only [Json.escapes, List.countP_cons, List.count_cons, beq_iff_eq] at ih hone ⊢
      omega

theorem letters_quoted {c letter : Char} (h : Encoding.quotedLines.letters c = some letter) :
    isSpecial letter = false := by
  rcases Encoding.letters_eq_some h with ⟨_, rfl⟩ | ⟨_, rfl⟩ <;> rfl

theorem script_configExpression {configXml : List Char}
    (hline : configXml.getLast? = some '\n') :
    (configExpression configXml).script =
      Sed.script Encoding.quotedLines.letters configXml ++ ['|'] := by
  rw [Expression.script, configExpression, ofFile, records, if_pos (Or.inr hline)]
  rfl

/--
When the whole script is the replacement, a configuration that survives needs all
its escapes for quotes and ends of lines.
-/
theorem isPlainXml_of_replaced {dialect : Dialect} {values : RouterValues}
    {configXml : List Char} {pieces : List Piece}
    (hline : configXml.getLast? = some '\n')
    (hpieces : replacement (configExpression configXml).script = some (pieces, []))
    (hescape : forall c, .escaped c ∈ pieces -> dialect.escape c = some [c])
    (h : Survives dialect values configXml) : IsPlainXml configXml := by
  rcases h with ⟨lines, json, hlines, hread, hfollow⟩
  rcases buildVmmanifest_eq_some hlines with ⟨command, hcommand⟩
  have hrun := hcommand
  simp only [substitute, hpieces, Option.bind_eq_bind, Option.bind_some, dialect.flags_nil]
    at hrun
  rcases Option.bind_eq_some_iff.mp hrun with ⟨texts, htexts, heq⟩
  rw [← Option.some.inj heq] at hcommand
  rw [buildVmmanifest_eq values _ _ hcommand] at hlines
  cases hlines
  rcases Json.spends_of_follow hread hfollow with ⟨raw, hraw, hspends⟩
  have htakes := takes_of_replacement hpieces
  have hfound : '\\' ∉ placeholder configSlot.name ∧ '&' ∉ placeholder configSlot.name := by
    decide
  rcases count_expanded hfound
    (fun c hc => ⟨htakes.escaped c hc, hescape c hc⟩) htexts with ⟨hback, hamp⟩
  have hrecords := script_configExpression hline
  have hbackslashes := htakes.backslashes
  have hdelimiters := htakes.delimiters
  rw [hrecords, List.count_append,
    count_script configXml (fun c letter => letters_quoted) rfl] at hbackslashes
  rw [hrecords, List.count_append,
    count_bar_script configXml (fun c letter => letters_quoted) rfl] at hdelimiters
  -- the string takes its backslashes from what the last expression put in
  have hrawBack : raw.count '\\' ≤ texts.flatten.count '\\' := by
    rw [← count_manifest values texts.flatten (Or.inl rfl)]
    exact hraw.sublist.count_le _
  have hspent := hspends.escapes_le
  have hneeded := escapes_ge configXml
  have hnoBack : ['|'].count '\\' = 0 := by decide
  have hnoBar : ['|'].count '|' = 1 := by decide
  have hzero : configXml.count '\\' = 0 ∧ configXml.count '|' = 0 ∧
      configXml.countP (fun c => Json.isControl c && c != '\n') = 0 ∧
      texts.flatten.count '&' = 0 ∧ Json.escapes configXml = raw.count '\\' := by
    rw [List.count_nil] at hdelimiters
    omega
  rcases hzero with ⟨hzeroBack, hzeroBar, hzeroControl, hzeroAmp, hequal⟩
  intro c hc
  refine ⟨?_, ?_, ?_, ?_⟩
  · intro heq
    subst heq
    have hin : '&' ∈ raw := hspends.literal hequal _ hc (by decide)
    have hmanifest := count_manifest values texts.flatten (Or.inr (Eq.refl '&'))
    rw [hzeroAmp] at hmanifest
    exact List.count_eq_zero.mp hmanifest (hraw.subset hin)
  · intro heq
    subst heq
    exact List.count_eq_zero.mp hzeroBar hc
  · intro heq
    subst heq
    exact List.count_eq_zero.mp hzeroBack hc
  · intro hcontrol
    have hnone := List.countP_eq_zero.mp hzeroControl c hc
    simpa [hcontrol] using hnone

theorem isPlainXml_of_survives {values : RouterValues} {configXml : List Char}
    (hline : configXml.getLast? = some '\n') (h : Survives plainSed values configXml) :
    IsPlainXml configXml := by
  rcases h with ⟨lines, json, hlines, hread, hfollow⟩
  rcases buildVmmanifest_eq_some hlines with ⟨command, hcommand⟩
  rcases Option.bind_eq_some_iff.mp hcommand with ⟨⟨pieces, rest⟩, hpieces, htexts⟩
  rcases Option.bind_eq_some_iff.mp htexts with ⟨texts, _, hflags⟩
  rcases Option.bind_eq_some_iff.mp hflags with ⟨run, hrun, _⟩
  have hnil : rest = [] := (Option.ite_none_right_eq_some.mp hrun).left
  subst hnil
  exact isPlainXml_of_replaced hline hpieces (fun _ _ => rfl)
    ⟨lines, json, hlines, hread, hfollow⟩

/-- Without delimiters and backslashes this holds of every `sed`. -/
theorem isPlainXml_of_survives_free {dialect : Dialect} {values : RouterValues}
    {configXml : List Char} (hline : configXml.getLast? = some '\n')
    (hfree : '|' ∉ configXml ∧ '\\' ∉ configXml) (h : Survives dialect values configXml) :
    IsPlainXml configXml := by
  have hchars : forall c, c ∈ configXml -> Encoding.quotedLines.letters c = none ->
      c ≠ '|' ∧ c ≠ '\\' ∧ c ≠ '\n' := by
    intro c hc hnone
    refine ⟨?_, ?_, ?_⟩ <;> intro heq <;> subst heq
    · exact hfree.left hc
    · exact hfree.right hc
    · cases hnone
  rcases replacement_free (fun c letter => letters_quoted) hchars with ⟨pieces, hpieces, hnone⟩
  rw [← script_configExpression hline] at hpieces
  exact isPlainXml_of_replaced hline hpieces (fun c hc => absurd hc (hnone c)) h

/-!
## The text of the manifest
-/

theorem find_expression {values : RouterValues} {e : Expression} (h : e ∈ values.expressions) :
    values.expressions.find? (fun x => x.name = e.name) = some e := by
  have hnodup : (values.expressions.map Expression.name).Nodup := by
    rw [map_name_values]
    decide +kernel
  have hsome : (values.expressions.find? fun x => x.name = e.name).isSome = true :=
    List.find?_isSome.mpr ⟨e, h, decide_eq_true rfl⟩
  rcases Option.isSome_iff_exists.mp hsome with ⟨found, hfound⟩
  have hname : found.name = e.name := 
    of_decide_eq_true (List.find?_some (p := fun x : Expression => decide (x.name = e.name)) hfound)
  rw [hfound, List.inj_on_of_nodup_map hnodup (List.mem_of_find?_eq_some hfound) h hname]

theorem replacedLine_field {values : RouterValues} {indent key name post : String}
    {h : '@' ∉ indent.toList ∧ '@' ∉ key.toList ∧ '@' ∉ name.toList ∧ '@' ∉ post.toList}
    {value : List Char} (hvalue : ofVar name value ∈ values.expressions) :
    replacedLine values.expressions (field indent key name post h) =
      indent.toList ++ '"' :: (key.toList ++ ("\": \"".toList ++ (value ++ post.toList))) := by
  have hfind : values.expressions.find?
      (fun e => e.name = (fieldSlot indent key name post h).name) = some (ofVar name value) :=
    find_expression hvalue
  have hplain := inserted_of_plain (mem_expressions values hvalue).left
  rw [field, replacedLine, hfind]
  dsimp only
  rw [hplain]
  simp only [Slot.filled, fieldSlot, ofVar, List.append_assoc, List.cons_append]

theorem replacedLine_macLine (values : RouterValues) :
    replacedLine values.expressions macLine =
      "      ".toList ++ opnsenseExternalMacPlaceholder values.externalMac.text := by
  have hmem : ofVar "EXTERNAL_MAC_PLACEHOLDER"
      (opnsenseExternalMacPlaceholder values.externalMac.text) ∈ values.expressions := by
    simp only [expressions_list, List.mem_cons, true_or, or_true]
  have hfind : values.expressions.find? (fun e => e.name = macSlot.name) =
      some (ofVar "EXTERNAL_MAC_PLACEHOLDER"
        (opnsenseExternalMacPlaceholder values.externalMac.text)) :=
    find_expression hmem
  have hplain := inserted_of_plain (mem_expressions values hmem).left
  rw [macLine, replacedLine, hfind]
  dsimp only
  rw [hplain]
  exact congrArg _ (List.append_nil _)

theorem replacedLine_line {values : RouterValues} {text : String} {h : '@' ∉ text.toList} :
    replacedLine values.expressions (line text h) = text.toList := by
  rfl

theorem replacedLine_imageLine (values : RouterValues) :
    replacedLine values.expressions (imageLine values.imageUuid) =
      "      \"image_uuid\": \"".toList ++ (values.imageUuid.text ++ "\",".toList) := by
  rfl

theorem unlines_cons (line : List Char) (lines : List (List Char)) :
    unlines (line :: lines) = line ++ '\n' :: unlines lines := by
  rw [unlines, List.flatMap_cons, List.append_assoc]
  rfl

/-- The text of the lines of a part of the template. -/
def RouterValues.text (values : RouterValues) (lines : List TemplateLine) : List Char :=
  unlines (lines.map (replacedLine values.expressions))

theorem text_append (values : RouterValues) (xs ys : List TemplateLine) :
    values.text (xs ++ ys) = values.text xs ++ values.text ys := by
  rw [RouterValues.text, List.map_append, unlines_append]
  rfl

theorem text_cons (values : RouterValues) (line : TemplateLine) (lines : List TemplateLine) :
    values.text (line :: lines) =
      replacedLine values.expressions line ++ '\n' :: values.text lines :=
  unlines_cons _ _

theorem text_nil (values : RouterValues) : values.text [] = [] := rfl

set_option maxRecDepth 4000 in
theorem text_disk (values : RouterValues) :
    values.text (templateDisk values.imageUuid) =
      "    ".toList ++ ((diskItem values.imageUuid).text ++ ['\n']) := by
  simp only [templateDisk, text_cons, text_nil, replacedLine_line, replacedLine_imageLine,
    diskItem, Json.Printed.object, Json.entriesText, Json.Entry.text, entry,
    PlainText.printed, Json.Printed.string, List.append_assoc, List.cons_append,
    List.nil_append]
  repeat rw [String.toList_ofList]
  rfl

set_option maxRecDepth 4000 in
theorem text_external (values : RouterValues) :
    values.text templateExternal =
      "    ".toList ++ ((externalItem values).text ++ [',', '\n']) := by
  have hgateway : ofVar "EXTERNAL_GATEWAY" values.externalGateway.text ∈ values.expressions := by
    simp only [expressions_list, List.mem_cons, true_or, or_true]
  have hip : ofVar "EXTERNAL_IP" values.externalIp.text ∈ values.expressions := by
    simp only [expressions_list, List.mem_cons, true_or, or_true]
  have hnetmask : ofVar "EXTERNAL_NETMASK" values.externalNetmask.text ∈ values.expressions := by
    simp only [expressions_list, List.mem_cons, true_or, or_true]
  have hvlan : ofVar "EXTERNAL_VLAN_ID" values.externalVlanId.text ∈ values.expressions := by
    simp only [expressions_list, List.mem_cons, true_or, or_true]
  simp only [templateExternal, text_cons, text_nil, replacedLine_line, replacedLine_macLine,
    replacedLine_field hgateway, replacedLine_field hip, replacedLine_field hnetmask,
    replacedLine_field hvlan, opnsenseExternalMacPlaceholder, externalItem]
  split
  · simp only [externalEntries, Json.Printed.object, Json.entriesText, Json.Entry.text, entry,
      PlainText.printed, Json.Printed.string, List.append_assoc, List.cons_append,
      List.nil_append]
    repeat rw [String.toList_ofList]
    rfl
  · simp only [externalEntries, Json.Printed.object, Json.entriesText, Json.Entry.text, entry,
      PlainText.printed, Json.Printed.string, List.append_assoc, List.cons_append,
      List.nil_append]
    repeat rw [String.toList_ofList]
    rfl

set_option maxRecDepth 4000 in
theorem text_admin (values : RouterValues) :
    values.text templateAdmin =
      "    ".toList ++ ((adminItem values).text ++ ['\n']) := by
  have hip : ofVar "ADMIN_IP" values.adminIp.text ∈ values.expressions := by
    simp only [expressions_list, List.mem_cons, true_or, or_true]
  have hnetmask : ofVar "ADMIN_NETMASK" values.adminNetmask.text ∈ values.expressions := by
    simp only [expressions_list, List.mem_cons, true_or, or_true]
  have hvlan : ofVar "ADMIN_VLAN_ID" values.adminVlanId.text ∈ values.expressions := by
    simp only [expressions_list, List.mem_cons, true_or, or_true]
  simp only [templateAdmin, text_cons, text_nil, replacedLine_line, replacedLine_field hip,
    replacedLine_field hnetmask, replacedLine_field hvlan, adminItem, Json.Printed.object,
    Json.entriesText, Json.Entry.text, entry, PlainText.printed, Json.Printed.string,
    List.append_assoc, List.cons_append, List.nil_append]
  repeat rw [String.toList_ofList]
  rfl

theorem text_word (text : String) (h : forall c, c ∈ text.toList -> Json.isLiteral c = true) :
    (word text h).text = '"' :: (text.toList ++ ['"']) := by
  rfl

set_option maxRecDepth 4000 in
theorem text_manifest (values : RouterValues) (text : List Char) (config : Json.Printed)
    (h : config.text = '"' :: (text ++ ['"'])) :
    unlines (manifestLines values text) = (manifestItem values config).text ++ ['\n'] := by
  have hkey : ofVar "OPNSENSE_API_KEY" values.apiKey.text ∈ values.expressions := by
    simp only [expressions_list, List.mem_cons, true_or, or_true]
  have hsecret : ofVar "OPNSENSE_API_SECRET" values.apiSecret.text ∈ values.expressions := by
    simp only [expressions_list, List.mem_cons, true_or, or_true]
  have hmon : ofVar "MON_IP" values.monIp.text ∈ values.expressions := by
    simp only [expressions_list, List.mem_cons, true_or]
  have hlines : unlines (manifestLines values text) =
      values.text (templateHead values.imageUuid) ++
        (configSlot.filled text ++ '\n' :: values.text templateTail) := by
    rw [manifestLines, unlines_append, unlines_cons]
    rfl
  rw [hlines]
  simp only [templateHead, text_append, text_disk, text_external, text_admin]
  simp only [templateStart, templateNics, templateVm, templateTail, text_cons, text_nil,
    replacedLine_line, replacedLine_field hkey, replacedLine_field hsecret,
    replacedLine_field hmon, configSlot, fieldSlot, Slot.filled, h, manifestItem,
    customerMetadata, internalMetadata, Json.Printed.array, Json.itemsText, Json.Item.text,
    Json.Printed.object, Json.entriesText, Json.Entry.text, entry, PlainText.printed,
    Json.Printed.string, text_word, qemuExtraOpts_toList, String.toList_append,
    List.append_assoc, List.cons_append, List.nil_append]
  repeat rw [String.toList_ofList]
  rfl

/-!
## The configuration in the manifest
-/

theorem follow_manifest (values : RouterValues) (config : Json.Printed) :
    (manifestItem values config).value.follow
        ["customer_metadata".toList, "config.xml".toList] = some config.value := rfl

theorem survives_of_isPlainXml (dialect : Dialect) (values : RouterValues)
    {configXml : List Char} (hline : configXml.getLast? = some '\n')
    (h : IsPlainXml configXml) : Survives dialect values configXml := by
  have hvalue : (configExpression configXml).value = configXml := by
    rw [configExpression, ofFile, records, if_pos (Or.inr hline)]
  have hplain : forall c, c ∈ configXml -> Encoding.quotedLines.letters c = none ->
      isSpecial c = false ∧ Json.isLiteral c = true := by
    intro c hc hnone
    rcases h c hc with ⟨hamp, hbar, hback, hcontrol⟩
    have hne : c ≠ '\n' ∧ c ≠ '"' := by
      constructor <;> intro heq <;> subst heq <;> cases hnone
    have hnot : Json.isControl c = false := by
      by_contra htrue
      exact hne.left (hcontrol (by simpa using htrue))
    simp [isSpecial, Json.isLiteral, hamp, hbar, hback, hne, hnot]
  have hread : ReadsLiterally (configExpression configXml).letters
      (configExpression configXml).value := by
    rw [readsLiterally_value_iff, hvalue]
    exact fun c hc hnone => (hplain c hc hnone).left
  have hstring : forall rest, Json.readString
      (Sed.inserted Encoding.quotedLines.letters configXml ++ '"' :: rest) =
      some (configXml, rest) := by
    intro rest
    have hjson := fun c letter => letters_escape (configExpression configXml) c letter
    exact (readString_inserted_iff rest hjson fun c hc _ => (h c hc).right.right.left).mpr
      fun c hc hnone => (hplain c hc hnone).right
  have hrun := substitute_of_readsLiterally dialect (placeholder configSlot.name) hread
  rw [hvalue] at hrun
  have hlines := @buildVmmanifest_eq dialect values configXml
    (Sed.inserted Encoding.quotedLines.letters configXml)
  refine ⟨_, _, hlines ?_, ?_, follow_manifest values (.string _ configXml hstring)⟩
  · rw [Expression.script, hvalue]
    exact hrun
  · rw [text_manifest values _ (.string _ configXml hstring) rfl]
    exact Json.Printed.read _

/--
A configuration survives, whatever the `sed`, exactly when it has no character
with a meaning for `sed` and no control character but the ends of its lines.
-/
theorem configXml_survives_iff (values : RouterValues) (configXml : List Char)
    (hline : configXml.getLast? = some '\n') :
    (forall dialect, Survives dialect values configXml) <-> IsPlainXml configXml := by
  constructor
  · intro h
    exact isPlainXml_of_survives hline (h plainSed)
  · intro h dialect
    exact survives_of_isPlainXml dialect values hline h

def plainText (text : String) (h : forall c, c ∈ text.toList -> isOrdinary c = true) :
    PlainText :=
  ⟨text.toList, h⟩

def routerValues : RouterValues where
  imageUuid := plainText "6f38a3a5-7c23-4fd4-9f3c-6a1e1f8ab1e7" (by decide +kernel)
  monIp := plainText "10.0.0.21" (by decide +kernel)
  adminIp := plainText "10.0.0.1" (by decide +kernel)
  adminNetmask := plainText "255.255.255.0" (by decide +kernel)
  adminVlanId := plainText "0" (by decide +kernel)
  externalIp := plainText "192.0.2.10" (by decide +kernel)
  externalNetmask := plainText "255.255.255.0" (by decide +kernel)
  externalMac := plainText "" (by decide +kernel)
  externalGateway := plainText "192.0.2.1" (by decide +kernel)
  externalVlanId := plainText "0" (by decide +kernel)
  apiKey := plainText "Kb7fT2vQ" (by decide +kernel)
  apiSecret := plainText "x9Ld0aPw" (by decide +kernel)

theorem configXml_survives_iff_hostname :
    (forall dialect, Survives dialect routerValues "<hostname>router</hostname>\n".toList) <->
      IsPlainXml "<hostname>router</hostname>\n".toList :=
  configXml_survives_iff routerValues _ (by decide +kernel)

/-- An entity of the text is put in with the placeholder for its ampersand, by any `sed`. -/
theorem entity_does_not_survive :
    ¬ exists dialect, Survives dialect routerValues "<descr>LAN &amp; WAN</descr>\n".toList := by
  intro hsurvives
  rcases hsurvives with ⟨dialect, h⟩
  have hplain := isPlainXml_of_survives_free (by decide +kernel) (by decide +kernel) h
  exact (hplain '&' (by decide +kernel)).left rfl

end Headnode
end EsdcFactory
