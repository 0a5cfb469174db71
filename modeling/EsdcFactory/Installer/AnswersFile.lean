import EsdcFactory.Installer.Answers

/-!
# The round trip of the answers

Which values come back from the file of answers.  A value is pasted between
quotes that are meant for JSON, into a text that `printf` reads as a format, and
it comes back through `echo`.  Each of them has characters that it does not take
for themselves.
-/

namespace EsdcFactory
namespace Installer

open Escapes Printf

/-!
## Values that come back
-/

/-- What `getanswer` makes of a string in the file. -/
def answerOf (text : List Char) : Option (List Char) :=
  let answer := substituted (text ++ ['\n'])
  if answer = undefinedAnswer then none else some (substituted (echo answer))

/-- A value that comes back from the file as it was stored. -/
structure IsCarried (val : List Char) : Prop where
  /-- no quotes, backslashes and control characters -/
  literal : forall c, c ∈ val -> Json.isLiteral c = true
  /-- no directive of `printf` -/
  plain : isPlain (val ++ ['"']) = true
  /-- not the mark of a missing answer -/
  ne_undefined : val ≠ undefinedAnswer
  /-- no options of `echo` -/
  not_option : isEchoOption val = false

/-- The file has every key once, and every key has the value that was stored last. -/
def RoundTrips (locale : ShellLocale) (shown : Json -> List Char)
    (calls : List AnswerCall) : Prop :=
  let file := writeAnswersJson locale (recorded calls)
  exists members, Json.read file = some (.obj members) ∧
    (members.map Prod.fst).Nodup ∧
    (forall key, key ∈ members.map Prod.fst <->
      exists call, call ∈ calls ∧ call.key.text = key) ∧
    forall key val, lastStored key calls = some val ->
      getanswer shown (some file) key.text = some val.text

theorem substituted_newline (text : List Char) :
    substituted (text ++ ['\n']) = substituted text := by
  have hfilter : (text ++ ['\n']).filter (· ≠ '\x00') =
      text.filter (· ≠ '\x00') ++ ['\n'] := by
    rw [List.filter_append]
    rfl
  rw [substituted, hfilter, List.rdropWhile_concat_pos _ _ _ (by decide), substituted]

theorem substituted_line {text : List Char} (hline : '\n' ∉ text) (hnul : '\x00' ∉ text) :
    substituted text = text := by
  have hfilter : text.filter (· ≠ '\x00') = text := by
    apply List.filter_eq_self.mpr
    intro c hc
    simpa using fun heq : c = '\x00' => hnul (heq ▸ hc)
  rw [substituted, hfilter]
  apply List.rdropWhile_eq_self_iff.mpr
  intro hne hlast
  have heq : text.getLast hne = '\n' := by simpa using hlast
  exact hline (heq ▸ List.getLast_mem hne)

theorem substituted_idem (text : List Char) :
    substituted (substituted text) = substituted text := by
  have hfilter : (substituted text).filter (· ≠ '\x00') = substituted text := by
    apply List.filter_eq_self.mpr
    intro c hc
    have hmem : c ∈ text.filter (· ≠ '\x00') := (List.rdropWhile_prefix _ _).subset hc
    exact (List.mem_filter.mp hmem).right
  rw [substituted, hfilter]
  exact List.rdropWhile_idempotent _ _

theorem substituted_sublist (text : List Char) : List.Sublist (substituted text) text :=
  (List.rdropWhile_prefix _ _).sublist.trans List.filter_sublist

theorem substituted_echo (word : List Char) :
    substituted (echo word) = if isEchoOption word then [] else substituted word := by
  unfold echo
  split
  · split <;> rfl
  · exact substituted_newline word

theorem answerOf_eq_some {text val : List Char} (h : answerOf text = some val) :
    val = [] ∨
      List.Sublist val text ∧ val ≠ undefinedAnswer ∧ isEchoOption val = false := by
  rw [answerOf, substituted_newline] at h
  split at h
  · cases h
  · rename_i hundefined
    have hval : substituted (echo (substituted text)) = val := Option.some.inj h
    rw [substituted_echo] at hval
    split at hval
    · exact Or.inl hval.symm
    · rename_i hoption
      rw [substituted_idem] at hval
      subst hval
      exact Or.inr ⟨substituted_sublist text, hundefined, by simpa using hoption⟩

theorem answerOf_carried {val : List Char} (hline : '\n' ∉ val) (hnul : '\x00' ∉ val)
    (h : IsCarried val) : answerOf val = some val := by
  have hsubst := substituted_line hline hnul
  rw [answerOf, substituted_newline, hsubst, if_neg h.ne_undefined, substituted_echo,
    h.not_option, hsubst]
  rfl

/-!
## Values in the file
-/

/-- What a value comes to in the format, with the quote behind it. -/
def valueText (locale : ShellLocale) (val : List Char) : List Char :=
  formatted locale (val.length + 2) (val ++ ['"'])

theorem marks_quoted (val : List Char) : marks (val ++ ['"']) = marks val := by
  rw [marks_append]
  rfl

theorem us_quoted (val : List Char) : us (val ++ ['"']) = us val := by
  rw [us_append]
  rfl

theorem valueText_plain (locale : ShellLocale) {val : List Char}
    (h : isPlain (val ++ ['"']) = true) : valueText locale val = val ++ ['"'] := by
  refine formatted_of_isPlain locale ?_ h
  simp

theorem isCarried_nil : IsCarried [] where
  literal _ hc := absurd hc List.not_mem_nil
  plain := rfl
  ne_undefined := by decide
  not_option := rfl

theorem raw_sublist {raw text rest behind tail : List Char}
    (hcontrol : forall c, c ∈ raw -> Json.isControl c = false)
    (hrest : rest = '\n' :: behind ∨ rest = ',' :: '\n' :: behind)
    (h : raw ++ '"' :: tail = text ++ rest) : List.Sublist raw text := by
  have hline : '\n' ∉ raw := fun hmem => absurd (hcontrol _ hmem) (by decide)
  rcases List.append_eq_append_iff.mp h with ⟨more, rfl, _⟩ | ⟨more, rfl, hmore⟩
  · exact List.sublist_append_left raw more
  · -- the quote would stand behind the line end
    cases more with
    | nil => simp
    | cons x more =>
        rcases hrest with rfl | rfl
        · cases hmore
          simp at hline
        · cases more with
          | nil => cases hmore
          | cons y more =>
              cases hmore
              simp at hline

theorem isCarried_of_read (locale : ShellLocale) {val text raw : List Char}
    (hread : answerOf text = some val) (hraw : Json.Decodes raw text)
    (hsub : List.Sublist raw (valueText locale val)) : IsCarried val := by
  rcases answerOf_eq_some hread with rfl | ⟨hval, hundefined, hoption⟩
  · exact isCarried_nil
  · have hformats : Formats (val ++ ['"']) (valueText locale val) :=
      formatted_formats locale _ _
    have hmarks : marks (valueText locale val) ≤ marks val := by
      have hle := hformats.marks_le
      rwa [marks_quoted] at hle
    -- the value, the string, its text and the output have the same marks
    have hmarks1 : marks val ≤ marks text := marks_le_of_sublist hval
    have hmarks2 : marks text ≤ marks raw := hraw.marks_le
    have hmarks3 : marks raw ≤ marks (valueText locale val) := marks_le_of_sublist hsub
    have hus := hformats.us_le (by rw [marks_quoted]; omega)
    rw [us_quoted] at hus
    have hus1 : us val ≤ us text := us_le_of_sublist hval
    have hus2 := hraw.us_le (by omega)
    have hus3 : us raw ≤ us (valueText locale val) := us_le_of_sublist hsub
    have hback : '\\' ∉ raw := List.count_eq_zero.mp (by omega)
    rcases hraw.literal hback with ⟨rfl, hquote⟩
    have hvalBack : '\\' ∉ val := fun hmem => hback (hval.subset hmem)
    have hvalQuote : '"' ∉ val := fun hmem => hquote (hval.subset hmem)
    have hplain : isPlain (val ++ ['"']) = true := by
      apply isPlain_of_marks locale (n := val.length + 2)
      · simp
      · simpa using hvalBack
      · show marks (valueText locale val) = _
        rw [marks_quoted]
        exact Nat.le_antisymm hmarks (by omega)
    refine ⟨?_, hplain, hundefined, hoption⟩
    intro c hc
    have hcontrol := hraw.noControl c (hval.subset hc)
    simp only [Json.isLiteral, hcontrol, Bool.and_eq_true, decide_eq_true_eq, ne_eq,
      Bool.not_false, and_true]
    exact ⟨fun h => hvalQuote (h ▸ hc), fun h => hvalBack (h ▸ hc)⟩

/-!
## Members
-/

/-- The text of a member, behind the comma. -/
def memberText (locale : ShellLocale) (answersOut : AnswersOut) (key : AnswerKey) : List Char :=
  '\n' :: ' ' :: ' ' :: '"' ::
    (key.text ++ '"' :: ':' :: ' ' :: '"' :: valueText locale (answersOut key.text))

/-- The text behind a member, with the members that follow. -/
def restText (locale : ShellLocale) (answersOut : AnswersOut) : List AnswerKey -> List Char
  | [] => ['\n', '}', '\n']
  | key :: keys =>
      ',' :: (memberText locale answersOut key ++ restText locale answersOut keys)

/-- The text of the file behind the opening brace. -/
def membersText (locale : ShellLocale) (answersOut : AnswersOut) : List AnswerKey -> List Char
  | [] => ['\n', '}', '\n']
  | key :: keys => memberText locale answersOut key ++ restText locale answersOut keys

theorem AnswerKey.isLiteral (key : AnswerKey) :
    forall c, c ∈ key.text -> Json.isLiteral c = true ∧ isMark c = false := by
  intro c hc
  have hword := List.all_eq_true.mp key.isWord c hc
  have hcontrol : Json.isControl c = false := by
    have hlow : 0x20 ≤ c.toNat := by
      rw [Bool.or_eq_true, Bool.or_eq_true, decide_eq_true_eq] at hword
      rcases hword with (hlower | hdigit) | rfl
      · have halnum : c.isAlphanum = true := by
          delta Char.isAlphanum Char.isAlpha
          rw [hlower, Bool.or_true, Bool.true_or]
        exact Nat.le_trans (by decide) (le_toNat_of_isAlphanum halnum)
      · simp only [Char.isDigit, Bool.and_eq_true, decide_eq_true_eq] at hdigit
        exact Nat.le_trans (by decide) hdigit.left
      · decide
    simpa [Json.isControl] using hlow
  have hne : c ≠ '"' ∧ c ≠ '\\' ∧ c ≠ '%' := by
    refine ⟨?_, ?_, ?_⟩ <;> rintro rfl <;> revert hword <;> decide
  simp [Json.isLiteral, isMark, hcontrol, hne]

theorem AnswerKey.marks_text (key : AnswerKey) : marks key.text = 0 :=
  List.countP_eq_zero.mpr fun c hc => by simp [(key.isLiteral c hc).right]

theorem printf_entryFormat (locale : ShellLocale) {comma : List Char} (key : AnswerKey)
    (val : List Char) (hcomma : marks comma = 0) :
    printf locale (entryFormat comma key.text val) =
      comma ++ '\n' :: ' ' :: ' ' :: '"' ::
        (key.text ++ '"' :: ':' :: ' ' :: '"' :: valueText locale val) := by
  have hescape : escape locale ('n' :: ' ' :: ' ' :: '"' ::
      (key.text ++ '"' :: ':' :: ' ' :: '"' :: (val ++ ['"']))) =
      (['\n'], ' ' :: ' ' :: '"' ::
        (key.text ++ '"' :: ':' :: ' ' :: '"' :: (val ++ ['"']))) := rfl
  have hlead : marks (' ' :: ' ' :: '"' :: (key.text ++ ['"', ':', ' ', '"'])) = 0 := by
    rw [marks_cons, marks_cons, marks_cons, marks_append, key.marks_text]
    rfl
  have happend := formatted_append locale (val.length + 2) (val ++ ['"']) hlead
  have hwhole := formatted_append locale (key.text.length + val.length + 10)
    ('\\' :: 'n' :: ' ' :: ' ' :: '"' ::
      (key.text ++ '"' :: ':' :: ' ' :: '"' :: (val ++ ['"']))) hcomma
  have hlength : (entryFormat comma key.text val).length =
      comma.length + (key.text.length + val.length + 10) := by
    simp [entryFormat]
    omega
  have hfuel : key.text.length + val.length + 9 =
      (' ' :: ' ' :: '"' :: (key.text ++ ['"', ':', ' ', '"'])).length +
        (val.length + 2) := by
    simp
    omega
  have htext : ' ' :: ' ' :: '"' ::
      (key.text ++ '"' :: ':' :: ' ' :: '"' :: (val ++ ['"'])) =
      (' ' :: ' ' :: '"' :: (key.text ++ ['"', ':', ' ', '"'])) ++ (val ++ ['"']) := by
    simp
  rw [printf, hlength, entryFormat, hwhole, formatted_escape, hescape]
  simp only [hfuel, htext, happend]
  simp [valueText]

theorem writeEntries_eq (locale : ShellLocale) (answersOut : AnswersOut)
    (keys : List AnswerKey) :
    writeEntries locale answersOut [','] (keys.map AnswerKey.text) ++ ['\n', '}', '\n'] =
      restText locale answersOut keys := by
  induction keys with
  | nil => rfl
  | cons key keys ih =>
      rw [List.map_cons, writeEntries, printf_entryFormat locale key _ (by decide),
        List.append_assoc, ih]
      rfl

theorem writeAnswersJson_eq (locale : ShellLocale) {answersOut : AnswersOut}
    {keys : List AnswerKey} (h : orderedKeys answersOut = keys.map AnswerKey.text) :
    writeAnswersJson locale answersOut = '{' :: membersText locale answersOut keys := by
  have hopen : printf locale ['{'] = ['{'] := rfl
  have hclose : printf locale ['\\', 'n', '}', '\\', 'n'] = ['\n', '}', '\n'] := rfl
  rw [writeAnswersJson, h, hopen, hclose]
  cases keys with
  | nil => rfl
  | cons key keys =>
      rw [List.map_cons, writeEntries, printf_entryFormat locale key _ (by decide),
        membersText, ← writeEntries_eq]
      simp [memberText]

theorem restText_eq (locale : ShellLocale) (answersOut : AnswersOut) (keys : List AnswerKey) :
    exists behind, restText locale answersOut keys = '\n' :: behind ∨
      restText locale answersOut keys = ',' :: '\n' :: behind := by
  cases keys with
  | nil => exact ⟨_, Or.inl rfl⟩
  | cons key keys => exact ⟨_, Or.inr rfl⟩

theorem readString_valueText (locale : ShellLocale) {val : List Char} (rest : List Char)
    (h : IsCarried val) :
    Json.readString (valueText locale val ++ rest) = some (val, rest) := by
  rw [valueText_plain locale h.plain, List.append_assoc]
  exact Json.readString_literal rest h.literal

/-- The members of an array of values. -/
def membersOf (answersOut : AnswersOut) (keys : List AnswerKey) : List (List Char × Json) :=
  keys.map fun key => (key.text, .str (answersOut key.text))

theorem readMembers_memberText (locale : ShellLocale) (answersOut : AnswersOut) (n : Nat)
    (key : AnswerKey) (rest : List Char) :
    Json.readMembers (n + 2) (memberText locale answersOut key ++ rest) =
      (Json.readString (valueText locale (answersOut key.text) ++ rest)).bind fun found =>
        Json.readRest (n + 1) key.text (.str found.1) found.2 := by
  have hmember := Json.readMembers_member n
    (valueText locale (answersOut key.text) ++ rest) (fun c hc => (key.isLiteral c hc).left)
  rw [← hmember]
  simp [memberText]

theorem readMembers_carried (locale : ShellLocale) (answersOut : AnswersOut) (m : Nat)
    (key : AnswerKey) (keys : List AnswerKey)
    (h : forall k, k ∈ key :: keys -> IsCarried (answersOut k.text)) :
    Json.readMembers (m + keys.length + 2)
        (memberText locale answersOut key ++ restText locale answersOut keys) =
      some (membersOf answersOut (key :: keys), ['\n']) := by
  induction keys generalizing key with
  | nil =>
      rw [readMembers_memberText, readString_valueText locale _ (h key List.mem_cons_self),
        Option.bind_some, restText, Json.readRest_brace]
      rfl
  | cons next keys ih =>
      have hnext := ih next (fun k hk => h k (List.mem_cons_of_mem _ hk))
      rw [readMembers_memberText, readString_valueText locale _ (h key List.mem_cons_self),
        Option.bind_some, restText, Json.readRest_comma, List.length_cons, ← Nat.add_assoc,
        hnext]
      rfl

theorem isCarried_of_first (locale : ShellLocale) {answersOut : AnswersOut} {n : Nat}
    {key : AnswerKey} {keys : List AnswerKey} {members : List (List Char × Json)}
    {tail : List Char}
    (hread : Json.readMembers (n + 2)
      (memberText locale answersOut key ++ restText locale answersOut keys) =
        some (members, tail))
    (hanswer : forall text, (key.text, .str text) ∈ members ->
      answerOf text = some (answersOut key.text)) : IsCarried (answersOut key.text) := by
  rw [readMembers_memberText] at hread
  rcases Option.bind_eq_some_iff.mp hread with ⟨⟨text, behind⟩, hstring, hrest⟩
  rcases Json.readString_eq_some hstring with ⟨raw, hraw, hdecodes⟩
  rcases restText_eq locale answersOut keys with ⟨_, hbehind⟩
  have hsub := raw_sublist hdecodes.noControl hbehind hraw.symm
  exact isCarried_of_read locale (hanswer text (Json.mem_of_readRest hrest)) hdecodes hsub

theorem isCarried_of_readMembers (locale : ShellLocale) {answersOut : AnswersOut} {m : Nat}
    {key : AnswerKey} {keys : List AnswerKey} {members : List (List Char × Json)}
    {tail : List Char}
    (hread : Json.readMembers (m + keys.length + 2)
      (memberText locale answersOut key ++ restText locale answersOut keys) =
        some (members, tail))
    (hanswer : forall k, k ∈ key :: keys -> forall text, (k.text, .str text) ∈ members ->
      answerOf text = some (answersOut k.text)) :
    forall k, k ∈ key :: keys -> IsCarried (answersOut k.text) := by
  have hfirst := isCarried_of_first locale hread (hanswer key List.mem_cons_self)
  induction keys generalizing key members with
  | nil =>
      intro k hk
      rw [List.mem_singleton.mp hk]
      exact hfirst
  | cons next keys ih =>
      rw [readMembers_memberText, readString_valueText locale _ hfirst, Option.bind_some,
        restText, Json.readRest_comma] at hread
      rcases Option.map_eq_some_iff.mp hread with ⟨⟨more, behind⟩, hmore, heq⟩
      cases heq
      have hlater : forall k, k ∈ next :: keys -> forall text,
          (k.text, .str text) ∈ more -> answerOf text = some (answersOut k.text) :=
        fun k hk text htext =>
          hanswer k (List.mem_cons_of_mem _ hk) text (List.mem_cons_of_mem _ htext)
      have hnext := ih hmore hlater
        (isCarried_of_first locale hmore (hlater next List.mem_cons_self))
      intro k hk
      rcases List.mem_cons.mp hk with rfl | hk
      · exact hfirst
      · exact hnext k hk

/-!
## The round trip
-/

theorem lastStored_of_mem {key : AnswerKey} {calls : List AnswerCall}
    (h : key ∈ addedKeys calls) : exists val, lastStored key calls = some val := by
  rcases mem_addedKeys.mp h with ⟨call, hcall, hkey⟩
  cases hfind : calls.reverse.find? (fun call => call.key = key) with
  | none =>
      have hnone := List.find?_eq_none.mp hfind call (List.mem_reverse.mpr hcall)
      exact absurd hkey (by simpa using hnone)
  | some last => exact ⟨last.stored, by rw [lastStored, hfind]; rfl⟩

theorem mem_of_lastStored {key : AnswerKey} {calls : List AnswerCall} {val : Line}
    (h : lastStored key calls = some val) : key ∈ addedKeys calls := by
  rcases Option.map_eq_some_iff.mp h with ⟨call, hfind, _⟩
  have hmem := List.mem_reverse.mp (List.mem_of_find?_eq_some hfind)
  exact mem_addedKeys.mpr ⟨call, hmem, by simpa using List.find?_some hfind⟩

theorem recorded_key {key : AnswerKey} {calls : List AnswerCall} {val : Line}
    (h : lastStored key calls = some val) : recorded calls key.text = val.text := by
  rw [(recorded_eq calls).right, h]
  rfl

theorem length_restText (locale : ShellLocale) (answersOut : AnswersOut)
    (keys : List AnswerKey) : keys.length < (restText locale answersOut keys).length := by
  induction keys with
  | nil => exact Nat.succ_pos _
  | cons key keys ih =>
      rw [restText, List.length_cons, List.length_cons, List.length_append]
      omega

/-- The file of at least one key, as the members that are read from it. -/
theorem read_membersText (locale : ShellLocale) (answersOut : AnswersOut) (key : AnswerKey)
    (keys : List AnswerKey) :
    exists m, Json.read ('{' :: membersText locale answersOut (key :: keys)) =
      (Json.readMembers (m + keys.length + 2)
        (memberText locale answersOut key ++ restText locale answersOut keys)).bind
          fun found =>
            if Json.skipBlanks found.2 = [] then some (.obj found.1) else none := by
  have hhead : (Json.skipBlanks (membersText locale answersOut (key :: keys))).head? ≠
      some '}' := by
    show some '"' ≠ some '}'
    decide
  have hlength := length_restText locale answersOut keys
  rw [Json.read_members hhead]
  refine ⟨(membersText locale answersOut (key :: keys)).length - keys.length - 1, ?_⟩
  have hfuel : (membersText locale answersOut (key :: keys)).length + 1 =
      (membersText locale answersOut (key :: keys)).length - keys.length - 1 +
        keys.length + 2 := by
    rw [membersText, List.length_append]
    omega
  rw [← hfuel]
  rfl

theorem file_eq (locale : ShellLocale) (calls : List AnswerCall) :
    writeAnswersJson locale (recorded calls) =
      '{' :: membersText locale (recorded calls) (addedKeys calls) :=
  writeAnswersJson_eq locale (orderedKeys_recorded calls)

theorem lookupLast_eq_some {key : List Char} {members : List (List Char × Json)}
    {value : Json} (hnodup : (members.map Prod.fst).Nodup) (h : (key, value) ∈ members) :
    lookupLast key members = some value := by
  rcases List.append_of_mem (List.mem_reverse.mpr h) with ⟨front, back, hsplit⟩
  rw [lookupLast, hsplit]
  apply List.lookup_eq_some_iff.mpr
  refine ⟨front, back, rfl, ?_⟩
  intro member hmember
  have hreverse : (members.reverse.map Prod.fst).Nodup := by
    rw [List.map_reverse]
    exact List.nodup_reverse.mpr hnodup
  rw [hsplit, List.map_append, List.map_cons] at hreverse
  have hne := (List.nodup_append.mp hreverse).right.right member.1
    (List.mem_map_of_mem hmember) key List.mem_cons_self
  simpa using Ne.symm hne

theorem getanswer_string {shown : Json -> List Char} {file key text : List Char}
    {members : List (List Char × Json)} (hread : Json.read file = some (.obj members))
    (hnodup : (members.map Prod.fst).Nodup) (hmem : (key, .str text) ∈ members) :
    getanswer shown (some file) key = answerOf text := by
  simp only [getanswer, jsonTool, hread, lookupLast_eq_some hnodup hmem, answerOf]

theorem map_fst_membersOf (answersOut : AnswersOut) (keys : List AnswerKey) :
    (membersOf answersOut keys).map Prod.fst = keys.map AnswerKey.text := by
  simp [membersOf]

/-- The file of values that are carried is read as the values. -/
theorem read_file_carried (locale : ShellLocale) (calls : List AnswerCall)
    (h : forall key val, lastStored key calls = some val -> IsCarried val.text) :
    Json.read ('{' :: membersText locale (recorded calls) (addedKeys calls)) =
      some (.obj (membersOf (recorded calls) (addedKeys calls))) := by
  have hcarried : forall k, k ∈ addedKeys calls -> IsCarried (recorded calls k.text) := by
    intro k hk
    rcases lastStored_of_mem hk with ⟨val, hval⟩
    rw [recorded_key hval]
    exact h k val hval
  cases hkeys : addedKeys calls with
  | nil => rfl
  | cons key keys =>
      rw [hkeys] at hcarried
      rcases read_membersText locale (recorded calls) key keys with ⟨m, hread⟩
      rw [hread, readMembers_carried locale _ m key keys hcarried]
      rfl

/-- The answers come back exactly when all the last values are carried. -/
theorem roundTrips_iff (locale : ShellLocale) (shown : Json -> List Char)
    (calls : List AnswerCall) :
    RoundTrips locale shown calls <->
      forall key val, lastStored key calls = some val -> IsCarried val.text := by
  rw [RoundTrips, file_eq]
  have hnodup : ((addedKeys calls).map AnswerKey.text).Nodup :=
    (addedKeys_nodup calls).map (fun _ _ => AnswerKey.ext_text)
  constructor
  · intro h key val hval
    rcases h with ⟨members, hread, hmembers, _, hanswer⟩
    have hmem := mem_of_lastStored hval
    have hstrings : forall k, k ∈ addedKeys calls -> forall text,
        (k.text, .str text) ∈ members -> answerOf text = some (recorded calls k.text) := by
      intro k hk text htext
      rcases lastStored_of_mem hk with ⟨last, hlast⟩
      rw [← getanswer_string hread hmembers htext, recorded_key hlast]
      exact hanswer k last hlast
    rw [← recorded_key hval]
    generalize addedKeys calls = keys at *
    cases keys with
    | nil => cases hmem
    | cons first keys =>
        rcases read_membersText locale (recorded calls) first keys with ⟨m, hfile⟩
        rw [hfile] at hread
        rcases Option.bind_eq_some_iff.mp hread with ⟨⟨found, tail⟩, hfound, hobject⟩
        split at hobject
        · cases hobject
          exact isCarried_of_readMembers locale hfound hstrings key hmem
        · cases hobject
  · intro hcarried
    have hread := read_file_carried locale calls hcarried
    refine ⟨membersOf (recorded calls) (addedKeys calls), hread, ?_, ?_, ?_⟩
    · rw [map_fst_membersOf]
      exact hnodup
    · intro key
      rw [map_fst_membersOf]
      simp [mem_addedKeys]
    · intro key val hval
      have hmember : (key.text, Json.str val.text) ∈
          membersOf (recorded calls) (addedKeys calls) := by
        refine List.mem_map.mpr ⟨key, mem_of_lastStored hval, ?_⟩
        rw [recorded_key hval]
      rw [getanswer_string hread (by rw [map_fst_membersOf]; exact hnodup) hmember]
      exact answerOf_carried val.oneLine val.noNul (hcarried key val hval)

/-!
## A value that does not come back
-/

/-- A locale in UTF-8, in which a directive without an argument comes to nothing. -/
def utf8Locale : ShellLocale where
  unicode := utf8
  conversion _ := []
  marks_unicode := marks_utf8_le
  us_unicode := us_utf8_le
  marks_conversion _ := Nat.zero_le _

/-- `100%` as the name of the data center. -/
def percentCall : AnswerCall where
  key := ⟨"datacenter_name".toList, by decide, by decide, by decide⟩
  val := ⟨"100%".toList, by decide, by decide⟩
  default := ⟨[], by decide, by decide⟩

/-- The quote is no directive, and the file ends within the string. -/
theorem percent_does_not_come_back :
    ¬ RoundTrips utf8Locale (fun _ => []) [percentCall] := by
  intro h
  rcases h with ⟨members, hread, _⟩
  have hnone : (Json.read (writeAnswersJson utf8Locale (recorded [percentCall]))).isNone := by
    decide +kernel
  rw [hread] at hnone
  cases hnone

end Installer
end EsdcFactory
