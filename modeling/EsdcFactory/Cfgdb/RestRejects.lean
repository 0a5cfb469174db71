import EsdcFactory.Cfgdb.RestServer
import EsdcFactory.Lib.BashArith

/-!
# Requests that the cfgdb server rejects

A request is looked at in its parts: the declared length of the body, the body, the
texts in the headers and in the body.  What is wrong with it shows in an exception, and
not every exception is one that the handler expects.
-/

namespace EsdcFactory
namespace Cfgdb

open Urllib

/-!
## Texts of Python
-/

/-- The code points of a text, halves of surrogate pairs included. -/
abbrev PyText := List Nat

def pyText (text : List Char) : PyText :=
  text.map Char.toNat

/-- A code point that `os.fsencode` encodes, and that is no null byte. -/
def isArgumentPoint (c : Nat) : Bool :=
  c ≠ 0 && (c < 0xd800 || 0xdfff < c || (0xdc80 ≤ c && c ≤ 0xdcff))

/-- The white space that `int` ignores around a number, in Latin-1. -/
def isPySpace (c : Char) : Bool :=
  c = ' ' || (0x09 ≤ c.toNat && c.toNat ≤ 0x0d) || (0x1c ≤ c.toNat && c.toNat ≤ 0x1f) ||
    c.toNat = 0x85 || c.toNat = 0xa0

/-- The digits of a number, in which single underscores may stand. -/
def intDigits : List Char -> Option (List Char)
  | [] => none
  | [c] => if c.isDigit then some [c] else none
  | c :: d :: rest =>
      if c.isDigit then
        (if d = '_' then intDigits rest else intDigits (d :: rest)).map (c :: ·)
      else none

/-- `int` of a text in Latin-1. -/
def pyInt (text : String) : Option Int :=
  let word := ((text.toList.dropWhile isPySpace).reverse.dropWhile isPySpace).reverse
  let value := fun digits =>
    (intDigits digits).map fun digits => (BashArith.digitsValue 10 digits : Int)
  match word with
  | '+' :: digits => value digits
  | '-' :: digits => (value digits).map fun n => -n
  | digits => value digits

/-- A decoded JSON value. -/
inductive Value where
  | null
  | bool (b : Bool)
  | number (isZero : Bool)
  | string (text : PyText)
  | array (items : List Value)
  | object (members : List (PyText × Value))

/-- Python's truth value of a decoded JSON value. -/
def Value.truthy : Value -> Bool
  | .null => false
  | .bool b => b
  | .number isZero => !isZero
  | .string text => !text.isEmpty
  | .array items => !items.isEmpty
  | .object members => !members.isEmpty

/-- `data.get(key, None)`, where the last member with a key counts. -/
def Value.get (members : List (PyText × Value)) (key : String) : Value :=
  match members.reverse.find? fun member => member.1 == pyText key.toList with
  | some member => member.2
  | none => .null

/-!
## Requests as they arrive
-/

structure RawRequest where
  method : Method
  path : String
  contentLength : Option String
  /-- what the client sends before it closes the connection -/
  body : List UInt8
  zkUsername : Option String
  zkPassword : Option String

/-- The exceptions that `json.loads` raises. -/
inductive LoadsError where
  | valueError
  | recursionError

/-- A text that can be an argument of a process. -/
def isArgument (text : PyText) : Bool :=
  text.all isArgumentPoint

/-- What does not depend on the request. -/
structure System where
  /-- a buffer of this size can be made -/
  allocates : Nat -> Bool
  loads : List UInt8 -> Except LoadsError Value
  /-- `zk_base_cmd`, which comes from the environment -/
  base : List PyText
  base_isArgument : base.all isArgument = true
  /-- the arguments keep to the limits of the operating system -/
  fits : List PyText -> Bool

/-- What becomes of a request before its process ends. -/
inductive Handled where
  | detail (message : String) (status : Nat)
  | invalid (error : ValidationError)
  | started (argv : List PyText)
  | serverError

/-- `content`, or nothing when an exception is raised. -/
def RawRequest.content (sys : System) (req : RawRequest) : Option (List UInt8) :=
  match req.contentLength with
  | none => some []
  | some text =>
      match pyInt text with
      | none => none
      | some length =>
          if length = 0 then some []
          -- the stream is read up to its end
          else if length = -1 then some req.body
          else if length < 0 then none
          else if sys.allocates length.toNat then some (req.body.take length.toNat)
          else none

/-- `parse_json_content` -/
def parseContent (sys : System) (content : List UInt8) : Except LoadsError Value :=
  if content = [] then .ok (.object []) else sys.loads content

/-- `validate_string_input` on a text -/
def validateText (attr : String) (text : PyText) (maxLength : Nat) :
    Except ValidationError PyText :=
  if text.length > maxLength then .error ⟨attr, "Too large.", 413⟩ else .ok text

def headerArgs (attr option : String) (value : Option String) :
    Except ValidationError (List PyText) :=
  match value with
  | none => .ok []
  | some text =>
      (validateText attr (pyText text.toList) defaultStringMaxLength).map fun text =>
        [pyText option.toList, text]

/-- The argument for the member `data` of the body. -/
def dataArgs (data : Value) : Except ValidationError (List PyText) :=
  match data with
  | .null => .ok []
  | .string text => (validateText "data" text zkDataSizeLimit).map fun text => [text]
  | _ => .error ⟨"data", "Invalid value.", 400⟩

/-- `run_zk_cmd` up to the call of `Popen` -/
def zkArgv (sys : System) (command : String) (node : PyText) (data : Value) (force : Bool)
    (username password : Option String) : Except ValidationError (List PyText) := do
  let cmd := sys.base ++ (if force then [pyText "-force".toList] else [])
  let username <- headerArgs "username" "-auth_usr" username
  let password <- headerArgs "password" "-auth_pwd" password
  let node <- validateText "node" node defaultStringMaxLength
  let data <- dataArgs data
  return cmd ++ username ++ password ++
    [pyText "-c".toList, pyText command.toList, node] ++ data

/-- The arguments can be handed to a new process. -/
def launches (sys : System) (argv : List PyText) : Bool :=
  argv.all isArgument && sys.fits argv

/-- `handle_request` of the deployed server, up to the end of `Popen` -/
def handle (sys : System) (req : RawRequest) : Handled :=
  if esdcPrefix.toList <+: req.path.toList then
    let url := urlparse req.path.toList
    match zkCmd req.method url.query with
    | none => .detail "Invalid command" 400
    | some command =>
        if command ∉ zkCommands then .detail "Invalid command" 400
        else
          match req.content sys with
          -- the message about the content looks at the content once more
          | none => .serverError
          | some content =>
              match parseContent sys content with
              | .error .valueError => .detail "Malformed request" 400
              | .error .recursionError => .serverError
              | .ok (.object data) =>
                  match zkArgv sys command (pyText url.path) (Value.get data "data")
                      (Value.get data "force").truthy req.zkUsername req.zkPassword with
                  | .error error => .invalid error
                  | .ok argv => if launches sys argv then .started argv else .serverError
              | .ok _ => .detail "Malformed request" 400
  else .detail "Permission Denied" 403

/-!
## What is wrong with a request
-/

/-- A text that is too long, or that cannot be an argument. -/
def BadText (text : PyText) (maxLength : Nat) : Prop :=
  maxLength < text.length ∨ isArgument text = false

def BadHeader (value : Option String) : Prop :=
  exists text, value = some text ∧ BadText (pyText text.toList) defaultStringMaxLength

/-- A member `data` that is no text, or a bad one. -/
def BadData : Value -> Prop
  | .null => False
  | .string text => BadText text zkDataSizeLimit
  | _ => True

/-- The length of a body is declared by decimal digits. -/
def isLength (text : String) : Bool :=
  text ≠ "" && text.toList.all Char.isDigit

/-- `url.path` -/
def RawRequest.node (req : RawRequest) : PyText :=
  pyText (urlparse req.path.toList).path

/-- The command that is asked for. -/
def RawRequest.command (req : RawRequest) : Option String :=
  zkCmd req.method (urlparse req.path.toList).query

/-- The arguments for a process, unless one of them is refused. -/
def RawRequest.argv (sys : System) (req : RawRequest) (command : String)
    (data : List (PyText × Value)) : Except ValidationError (List PyText) :=
  zkArgv sys command req.node (Value.get data "data") (Value.get data "force").truthy
    req.zkUsername req.zkPassword

/-- A request that is to be rejected. -/
inductive Bad (sys : System) (req : RawRequest) : Prop where
  | command (h : forall command, req.command = some command -> command ∉ zkCommands)
  | length (text : String) (h : req.contentLength = some text) (hbad : isLength text = false)
  | body (content : List UInt8) (error : LoadsError) (h : req.content sys = some content)
      (hbad : parseContent sys content = .error error)
  | kind (content : List UInt8) (value : Value) (h : req.content sys = some content)
      (hvalue : parseContent sys content = .ok value)
      (hbad : forall members, value ≠ .object members)
  | node (h : BadText req.node defaultStringMaxLength)
  | username (h : BadHeader req.zkUsername)
  | password (h : BadHeader req.zkPassword)
  | data (content : List UInt8) (members : List (PyText × Value))
      (h : req.content sys = some content)
      (hobject : parseContent sys content = .ok (.object members))
      (hbad : BadData (Value.get members "data"))

/-- An answer in JSON with a status from 400 to 499, without a process. -/
def Handled.IsRejection : Handled -> Prop
  | .detail _ status => 400 ≤ status ∧ status < 500
  | .invalid error => 400 ≤ error.status ∧ error.status < 500
  | .started _ => False
  | .serverError => False

/-- Bad requests are rejected, and no request is the cause of an unexpected error. -/
def RejectsCleanly (sys : System) (req : RawRequest) : Prop :=
  (Bad sys req -> (handle sys req).IsRejection) ∧ handle sys req ≠ .serverError

/-!
## The arguments of a process
-/

/-- Both headers, the node and the data pass their checks. -/
structure FieldsAccepted (req : RawRequest) (data : Value) : Prop where
  username : forall text, req.zkUsername = some text ->
    (pyText text.toList).length ≤ defaultStringMaxLength
  password : forall text, req.zkPassword = some text ->
    (pyText text.toList).length ≤ defaultStringMaxLength
  node : req.node.length ≤ defaultStringMaxLength
  data : data = .null ∨ exists text, data = .string text ∧ text.length ≤ zkDataSizeLimit

def headerTexts (value : Option String) : List PyText :=
  (value.map fun text => pyText text.toList).toList

def dataTexts : Value -> List PyText
  | .string text => [text]
  | _ => []

def optionTexts (option : String) (value : Option String) : List PyText :=
  (if value.isSome then [pyText option.toList] else []) ++ headerTexts value

/-- The texts of a request that become arguments. -/
def RawRequest.texts (req : RawRequest) (data : Value) : List PyText :=
  headerTexts req.zkUsername ++ headerTexts req.zkPassword ++ [req.node] ++ dataTexts data

def RawRequest.arguments (sys : System) (req : RawRequest) (command : String)
    (members : List (PyText × Value)) : List PyText :=
  sys.base ++ (if (Value.get members "force").truthy then [pyText "-force".toList] else []) ++
    optionTexts "-auth_usr" req.zkUsername ++ optionTexts "-auth_pwd" req.zkPassword ++
    [pyText "-c".toList, pyText command.toList, req.node] ++
    dataTexts (Value.get members "data")

theorem validateText_ok_iff {attr : String} {text result : PyText} {maxLength : Nat} :
    validateText attr text maxLength = .ok result <->
      text.length ≤ maxLength ∧ result = text := by
  unfold validateText
  split
  next hlong => exact iff_of_false nofun fun h => absurd h.1 (Nat.not_le_of_gt hlong)
  next hshort =>
    rw [Except.ok.injEq, eq_comm]
    exact (and_iff_right (Nat.le_of_not_gt hshort)).symm

theorem map_ok_iff {α β ε : Type} {x : Except ε α} {f : α -> β} {b : β} :
    x.map f = .ok b <-> exists a, x = .ok a ∧ f a = b := by
  cases x with
  | error e => simp [Except.map]
  | ok a => simp [Except.map]

theorem headerArgs_ok_iff {attr option : String} {value : Option String}
    {args : List PyText} :
    headerArgs attr option value = .ok args <->
      (forall text, value = some text ->
        (pyText text.toList).length ≤ defaultStringMaxLength) ∧
      args = optionTexts option value := by
  cases value with
  | none =>
      rw [headerArgs, Except.ok.injEq, eq_comm]
      exact (and_iff_right nofun).symm
  | some text =>
      constructor
      · intro h
        rcases map_ok_iff.mp h with ⟨result, hresult, rfl⟩
        rcases validateText_ok_iff.mp hresult with ⟨hshort, rfl⟩
        refine ⟨?_, rfl⟩
        intro other hother
        cases hother
        exact hshort
      · intro h
        exact map_ok_iff.mpr ⟨_, validateText_ok_iff.mpr ⟨h.1 text rfl, rfl⟩, h.2.symm⟩

theorem dataArgs_ok_iff {data : Value} {args : List PyText} :
    dataArgs data = .ok args <->
      (data = .null ∨ exists text, data = .string text ∧ text.length ≤ zkDataSizeLimit) ∧
      args = dataTexts data := by
  cases data with
  | string text =>
      constructor
      · intro h
        rcases map_ok_iff.mp h with ⟨result, hresult, rfl⟩
        rcases validateText_ok_iff.mp hresult with ⟨hshort, rfl⟩
        exact ⟨Or.inr ⟨_, rfl, hshort⟩, rfl⟩
      · intro h
        rcases h with ⟨hnull | ⟨_, htext, hshort⟩, hargs⟩
        · cases hnull
        · cases htext
          exact map_ok_iff.mpr ⟨_, validateText_ok_iff.mpr ⟨hshort, rfl⟩, hargs.symm⟩
  | null => simp [dataArgs, dataTexts, eq_comm]
  | bool _ => simp [dataArgs]
  | number _ => simp [dataArgs]
  | array _ => simp [dataArgs]
  | object _ => simp [dataArgs]

theorem argv_ok_iff {sys : System} {req : RawRequest} {command : String}
    {members : List (PyText × Value)} {argv : List PyText} :
    req.argv sys command members = .ok argv <->
      FieldsAccepted req (Value.get members "data") ∧
      argv = req.arguments sys command members := by
  constructor
  · intro h
    rcases except_bind_ok_iff.mp h with ⟨username, husername, h⟩
    rcases except_bind_ok_iff.mp h with ⟨password, hpassword, h⟩
    rcases except_bind_ok_iff.mp h with ⟨node, hnode, h⟩
    rcases except_bind_ok_iff.mp h with ⟨data, hdata, h⟩
    rcases headerArgs_ok_iff.mp husername with ⟨hname, rfl⟩
    rcases headerArgs_ok_iff.mp hpassword with ⟨hword, rfl⟩
    rcases validateText_ok_iff.mp hnode with ⟨hpath, rfl⟩
    rcases dataArgs_ok_iff.mp hdata with ⟨hvalue, rfl⟩
    cases h
    exact ⟨⟨hname, hword, hpath, hvalue⟩, rfl⟩
  · intro h
    rcases h with ⟨hfields, rfl⟩
    refine except_bind_ok_iff.mpr ⟨_, headerArgs_ok_iff.mpr ⟨hfields.username, rfl⟩, ?_⟩
    refine except_bind_ok_iff.mpr ⟨_, headerArgs_ok_iff.mpr ⟨hfields.password, rfl⟩, ?_⟩
    refine except_bind_ok_iff.mpr ⟨_, validateText_ok_iff.mpr ⟨hfields.node, rfl⟩, ?_⟩
    exact except_bind_ok_iff.mpr ⟨_, dataArgs_ok_iff.mpr ⟨hfields.data, rfl⟩, rfl⟩

theorem except_bind_error_iff {ε α β : Type} {x : Except ε α}
    {f : α -> Except ε β} {e : ε} :
    (x >>= f) = .error e <-> x = .error e ∨ exists a, x = .ok a ∧ f a = .error e := by
  cases x with
  | error e => simp [bind, Except.bind]
  | ok a => simp [bind, Except.bind]

theorem map_error_iff {α β ε : Type} {x : Except ε α} {f : α -> β} {e : ε} :
    x.map f = .error e <-> x = .error e := by
  cases x with
  | error e => simp [Except.map]
  | ok a => simp [Except.map]

/-- What the checks of the fields may answer. -/
structure IsFieldError (error : ValidationError) : Prop where
  attr : error.attr ∈ ["username", "password", "node", "data"]
  status : error.status = 400 ∨ error.status = 413

theorem validateText_error {attr : String} {text : PyText} {maxLength : Nat}
    {error : ValidationError} (h : validateText attr text maxLength = .error error)
    (hattr : attr ∈ ["username", "password", "node", "data"]) : IsFieldError error := by
  unfold validateText at h
  split at h
  · cases h
    exact ⟨hattr, Or.inr rfl⟩
  · cases h

theorem headerArgs_error {attr option : String} {value : Option String}
    {error : ValidationError} (h : headerArgs attr option value = .error error)
    (hattr : attr ∈ ["username", "password", "node", "data"]) : IsFieldError error := by
  cases value with
  | none => cases h
  | some text => exact validateText_error (map_error_iff.mp h) hattr

theorem dataArgs_error {data : Value} {error : ValidationError}
    (h : dataArgs data = .error error) : IsFieldError error := by
  cases data with
  | null => cases h
  | string text => exact validateText_error (map_error_iff.mp h) (by decide)
  | bool _ => cases h; exact ⟨by decide, Or.inl rfl⟩
  | number _ => cases h; exact ⟨by decide, Or.inl rfl⟩
  | array _ => cases h; exact ⟨by decide, Or.inl rfl⟩
  | object _ => cases h; exact ⟨by decide, Or.inl rfl⟩

theorem argv_error {sys : System} {req : RawRequest} {command : String}
    {members : List (PyText × Value)} {error : ValidationError}
    (h : req.argv sys command members = .error error) : IsFieldError error := by
  rcases except_bind_error_iff.mp h with h | ⟨_, _, h⟩
  · exact headerArgs_error h (by decide)
  rcases except_bind_error_iff.mp h with h | ⟨_, _, h⟩
  · exact headerArgs_error h (by decide)
  rcases except_bind_error_iff.mp h with h | ⟨_, _, h⟩
  · exact validateText_error h (by decide)
  rcases except_bind_error_iff.mp h with h | ⟨_, _, h⟩
  · exact dataArgs_error h
  · cases h

theorem IsFieldError.isRejection {error : ValidationError} (h : IsFieldError error) :
    (Handled.invalid error).IsRejection := by
  rcases h.status with hstatus | hstatus
  · rw [Handled.IsRejection, hstatus]
    decide
  · rw [Handled.IsRejection, hstatus]
    decide

theorem isArgument_option :
    [pyText "-force".toList, pyText "-auth_usr".toList, pyText "-auth_pwd".toList,
      pyText "-c".toList].all isArgument = true := by
  decide +kernel

theorem isArgument_command {command : String} (h : command ∈ zkCommands) :
    isArgument (pyText command.toList) = true := by
  have hall : zkCommands.all (fun command => isArgument (pyText command.toList)) = true := by
    decide +kernel
  exact List.all_eq_true.mp hall command h

theorem optionTexts_isArgument {option : String} (value : Option String)
    (h : isArgument (pyText option.toList) = true) :
    (optionTexts option value).all isArgument = (headerTexts value).all isArgument := by
  cases value with
  | none => rfl
  | some text => simp [optionTexts, headerTexts, h]

theorem arguments_isArgument (sys : System) (req : RawRequest) {command : String}
    (members : List (PyText × Value)) (hcommand : command ∈ zkCommands) :
    (req.arguments sys command members).all isArgument =
      (req.texts (Value.get members "data")).all isArgument := by
  have hoptions := isArgument_option
  simp only [List.all_cons, List.all_nil, Bool.and_eq_true] at hoptions
  rcases hoptions with ⟨hforce, huser, hword, hc, -⟩
  have hflag : forall force : Bool,
      (if force then [pyText "-force".toList] else []).all isArgument = true := by
    intro force
    cases force with
    | true => simp only [if_true, List.all_cons, List.all_nil, hforce, Bool.and_true]
    | false => rfl
  unfold RawRequest.arguments RawRequest.texts
  simp only [List.all_append, sys.base_isArgument, hflag, optionTexts_isArgument _ huser,
    optionTexts_isArgument _ hword, List.all_cons, List.all_nil, hc,
    isArgument_command hcommand, Bool.true_and, Bool.and_true]

/-!
## When requests are rejected cleanly
-/

/-- What a request must hold when it gets past the check of its command. -/
structure Bearable (sys : System) (req : RawRequest) (command : String) : Prop where
  /-- the body can be read, and is not nested too deeply -/
  readable : exists content, req.content sys = some content ∧
    parseContent sys content ≠ .error .recursionError
  /-- when every check lets the request pass, nothing else is wrong with it -/
  startable : forall content members, req.content sys = some content ->
    parseContent sys content = .ok (.object members) ->
    FieldsAccepted req (Value.get members "data") ->
    (forall text, req.contentLength = some text -> isLength text = true) ∧
    (req.texts (Value.get members "data")).all isArgument = true ∧
    sys.fits (req.arguments sys command members) = true

theorem RejectsCleanly.of_rejection {sys : System} {req : RawRequest}
    (h : (handle sys req).IsRejection) : RejectsCleanly sys req := by
  refine ⟨fun _ => h, ?_⟩
  intro hserver
  rw [hserver] at h
  exact h

theorem RejectsCleanly.of_detail {sys : System} {req : RawRequest} {message : String}
    {status : Nat} (hstatus : 400 ≤ status ∧ status < 500)
    (h : handle sys req = .detail message status) : RejectsCleanly sys req :=
  .of_rejection (h ▸ hstatus)

theorem handle_of_command (sys : System) {req : RawRequest} {command : String}
    (hpath : esdcPrefix.toList <+: req.path.toList) (hcommand : req.command = some command)
    (hlisted : command ∈ zkCommands) :
    handle sys req =
      match req.content sys with
      | none => .serverError
      | some content =>
          match parseContent sys content with
          | .error .valueError => .detail "Malformed request" 400
          | .error .recursionError => .serverError
          | .ok (.object data) =>
              match req.argv sys command data with
              | .error error => .invalid error
              | .ok argv => if launches sys argv then .started argv else .serverError
          | .ok _ => .detail "Malformed request" 400 := by
  have hzk : zkCmd req.method (urlparse req.path.toList).query = some command := hcommand
  rw [handle, if_pos hpath]
  simp only [hzk, hlisted, not_true_eq_false, if_false]
  rfl

theorem Bearable.of_rejectsCleanly {sys : System} {req : RawRequest} {command : String}
    (hpath : esdcPrefix.toList <+: req.path.toList) (hcommand : req.command = some command)
    (hlisted : command ∈ zkCommands) (h : RejectsCleanly sys req) :
    Bearable sys req command := by
  rcases h with ⟨hbad, hserver⟩
  have hhandle := handle_of_command sys hpath hcommand hlisted
  constructor
  · cases hcontent : req.content sys with
    | none =>
        rw [hcontent] at hhandle
        exact absurd hhandle hserver
    | some content =>
        refine ⟨content, rfl, ?_⟩
        intro hloop
        simp only [hcontent, hloop] at hhandle
        exact hserver hhandle
  · intro content members hcontent hparse hfields
    have hargv : req.argv sys command members = .ok (req.arguments sys command members) :=
      argv_ok_iff.mpr ⟨hfields, rfl⟩
    simp only [hcontent, hparse, hargv] at hhandle
    have hlaunch : launches sys (req.arguments sys command members) = true := by
      cases hcase : launches sys (req.arguments sys command members) with
      | true => rfl
      | false =>
          rw [if_neg (by simp [hcase])] at hhandle
          exact absurd hhandle hserver
    rw [if_pos hlaunch] at hhandle
    rcases Bool.and_eq_true_iff.mp hlaunch with ⟨htexts, hfits⟩
    rw [arguments_isArgument sys req members hlisted] at htexts
    refine ⟨?_, htexts, hfits⟩
    intro text htext
    cases hlength : isLength text with
    | true => rfl
    | false =>
        have hrejected := hbad (.length text htext hlength)
        rw [hhandle] at hrejected
        exact hrejected.elim

/-- A request that passes the checks is none that is to be rejected. -/
theorem Bearable.not_bad {sys : System} {req : RawRequest} {command : String}
    (h : Bearable sys req command) (hcommand : req.command = some command)
    (hlisted : command ∈ zkCommands) {content : List UInt8}
    {members : List (PyText × Value)} (hcontent : req.content sys = some content)
    (hparse : parseContent sys content = .ok (.object members))
    (hfields : FieldsAccepted req (Value.get members "data")) : ¬ Bad sys req := by
  rcases h.startable content members hcontent hparse hfields with ⟨hlength, htexts, -⟩
  have htext : forall text, text ∈ req.texts (Value.get members "data") ->
      isArgument text = true := List.all_eq_true.mp htexts
  intro hbad
  cases hbad with
  | command hnone => exact hnone command hcommand hlisted
  | length text htext hbad => simp [hlength text htext] at hbad
  | body other error hother hbad =>
      cases hcontent.symm.trans hother
      cases hparse.symm.trans hbad
  | kind other value hother hvalue hbad =>
      cases hcontent.symm.trans hother
      cases hparse.symm.trans hvalue
      exact hbad members rfl
  | node hbad =>
      rcases hbad with hlong | hbad
      · exact absurd hlong (Nat.not_lt_of_ge hfields.node)
      · have := htext req.node (by simp [RawRequest.texts])
        simp [this] at hbad
  | username hbad =>
      rcases hbad with ⟨text, hsome, hlong | hbad⟩
      · exact absurd hlong (Nat.not_lt_of_ge (hfields.username text hsome))
      · have := htext (pyText text.toList) (by simp [RawRequest.texts, headerTexts, hsome])
        simp [this] at hbad
  | password hbad =>
      rcases hbad with ⟨text, hsome, hlong | hbad⟩
      · exact absurd hlong (Nat.not_lt_of_ge (hfields.password text hsome))
      · have := htext (pyText text.toList) (by simp [RawRequest.texts, headerTexts, hsome])
        simp [this] at hbad
  | data other others hother hobject hbad =>
      cases hcontent.symm.trans hother
      cases hparse.symm.trans hobject
      rcases hfields.data with hnull | ⟨text, hdata, hshort⟩
      · rw [hnull] at hbad
        exact hbad
      · rw [hdata] at hbad
        rcases hbad with hlong | hbad
        · exact absurd hlong (Nat.not_lt_of_ge hshort)
        · have := htext text (by simp [RawRequest.texts, dataTexts, hdata])
          simp [this] at hbad

theorem Bearable.rejectsCleanly {sys : System} {req : RawRequest} {command : String}
    (hpath : esdcPrefix.toList <+: req.path.toList) (hcommand : req.command = some command)
    (hlisted : command ∈ zkCommands) (h : Bearable sys req command) :
    RejectsCleanly sys req := by
  have hhandle := handle_of_command sys hpath hcommand hlisted
  rcases h.readable with ⟨content, hcontent, hloop⟩
  cases hparse : parseContent sys content with
  | error error =>
      cases error with
      | recursionError => exact absurd hparse hloop
      | valueError =>
          simp only [hcontent, hparse] at hhandle
          exact .of_detail (by decide) hhandle
  | ok value =>
      cases value with
      | object members =>
          cases hargv : req.argv sys command members with
          | error error =>
              simp only [hcontent, hparse, hargv] at hhandle
              exact .of_rejection (hhandle ▸ (argv_error hargv).isRejection)
          | ok argv =>
              rcases argv_ok_iff.mp hargv with ⟨hfields, rfl⟩
              rcases h.startable content members hcontent hparse hfields with
                ⟨-, htexts, hfits⟩
              have hlaunch : launches sys (req.arguments sys command members) = true := by
                rw [launches, arguments_isArgument sys req members hlisted, htexts, hfits]
                rfl
              simp only [hcontent, hparse, hargv, if_pos hlaunch] at hhandle
              refine ⟨?_, by rw [hhandle]; nofun⟩
              intro hbad
              exact absurd hbad (h.not_bad hcommand hlisted hcontent hparse hfields)
      | null | bool _ | number _ | string _ | array _ =>
          simp only [hcontent, hparse] at hhandle
          exact .of_detail (by decide) hhandle

/-- Requests are rejected cleanly when none that passes the checks has a bad length or text. -/
theorem rejectsCleanly_iff (sys : System) (req : RawRequest) :
    RejectsCleanly sys req <->
      (esdcPrefix.toList <+: req.path.toList -> forall command,
        req.command = some command -> command ∈ zkCommands ->
        Bearable sys req command) := by
  constructor
  · intro h hpath command hcommand hlisted
    exact .of_rejectsCleanly hpath hcommand hlisted h
  · intro h
    by_cases hpath : esdcPrefix.toList <+: req.path.toList
    · cases hcommand : req.command with
      | none =>
          have hzk : zkCmd req.method (urlparse req.path.toList).query = none := hcommand
          have hhandle : handle sys req = .detail "Invalid command" 400 := by
            rw [handle, if_pos hpath]
            simp only [hzk]
          exact .of_detail (by decide) hhandle
      | some command =>
          by_cases hlisted : command ∈ zkCommands
          · exact (h hpath command hcommand hlisted).rejectsCleanly hpath hcommand hlisted
          · have hzk : zkCmd req.method (urlparse req.path.toList).query = some command :=
              hcommand
            have hhandle : handle sys req = .detail "Invalid command" 400 := by
              rw [handle, if_pos hpath]
              simp only [hzk, hlisted, not_false_eq_true, if_true]
            exact .of_detail (by decide) hhandle
    · have hhandle : handle sys req = .detail "Permission Denied" 403 := by
        rw [handle, if_neg hpath]
      exact .of_detail (by decide) hhandle

/-!
## A declared length that is no number
-/

/-- A system that reads every body as an empty object. -/
def plainSystem : System where
  allocates := fun _ => true
  loads := fun _ => .ok (.object [])
  base := [pyText "zookeepercli".toList]
  base_isArgument := by decide +kernel
  fits := fun _ => true

/-- A request for a node, with a word in place of the length of its body. -/
def lettersAsLength : RawRequest where
  method := .get
  path := "/esdc/settings"
  contentLength := some "abc"
  body := []
  zkUsername := none
  zkPassword := none

theorem letters_as_length_fail : ¬ RejectsCleanly plainSystem lettersAsLength := by
  have hpath : esdcPrefix.toList <+: lettersAsLength.path.toList := by
    decide +kernel
  have hcommand : lettersAsLength.command = some "get" := by
    decide +kernel
  have hcontent : lettersAsLength.content plainSystem = none := by
    decide +kernel
  have hhandle := handle_of_command plainSystem hpath hcommand (by decide)
  rw [hcontent] at hhandle
  exact fun h => h.2 hhandle

end Cfgdb
end EsdcFactory
