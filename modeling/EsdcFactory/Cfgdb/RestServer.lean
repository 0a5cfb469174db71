import EsdcFactory.Lib.Urllib

/-!
# The cfgdb REST server

`cfgdb_zk_rest_server.py` answers HTTP requests by running `zookeepercli`.
The base handler of this module is `ZKRESTRequestHandler`; the server that is
deployed puts `ESDCZKRESTRequestHandler` in front of it, which looks at the
raw request target and refuses everything that does not start with `/esdc`.

The JSON decoder `json.loads` and the `zookeepercli` program stay parameters:
no result of this development depends on what they answer.
-/

namespace EsdcFactory
namespace Cfgdb

open Urllib

/-!
## Requests and replies
-/

/-- A decoded JSON value, with what the handler reads of it. -/
inductive Json where
  | null
  | bool (b : Bool)
  | number (isZero : Bool)
  | string (s : String)
  | array (items : List Json)
  | object (members : List (String × Json))

/-- Python's truth value of a decoded JSON value. -/
def Json.truthy : Json -> Bool
  | .null => false
  | .bool b => b
  | .number isZero => !isZero
  | .string s => s != ""
  | .array items => !items.isEmpty
  | .object members => !members.isEmpty

/-- `data.get(key, None)` on a decoded object. -/
def Json.get (members : List (String × Json)) (key : String) : Json :=
  match members.find? fun member => member.1 == key with
  | some member => member.2
  | none => .null

/-- The HTTP methods `BaseHTTPRequestHandler` can dispatch. -/
inductive Method where
  | get
  | post
  | put
  | delete
  | head
  | other
deriving DecidableEq

/-- The parts of an HTTP request the handlers read. -/
structure Request where
  method : Method
  /-- The request target as it stands in the request line. -/
  path : String
  /-- The body; `none` when `Content-Length` is not an integer. -/
  content : Option (List UInt8)
  zkUsername : Option String
  zkPassword : Option String

/-- The error bodies the handlers send themselves. -/
structure ValidationError where
  attr : String
  detail : String
  status : Nat
deriving DecidableEq

/-- One `zookeepercli` command line, before it is flattened into `argv`. -/
structure ZkCall where
  force : Bool
  username : Option String
  password : Option String
  command : String
  node : String
  data : Option String
deriving DecidableEq

/-- What a finished `zookeepercli` process left behind, decoded. -/
structure ZkResult where
  returncode : Int
  stdout : String
  stderr : String

/-- How a request ends: the command that was run, if any, and the reply. -/
inductive Reply where
  | detail (message : String) (status : Nat)
  | invalid (error : ValidationError)
  | result (call : ZkCall) (result : ZkResult) (status : Nat)
  | failed (call : ZkCall)
  | ok
  | serverError
  | unsupported

/-- The `zookeepercli` process behind a reply, if one was started. -/
def Reply.ran : Reply -> Option ZkCall
  | .result call _ _ => some call
  | .failed call => some call
  | _ => none

/-!
## ZKRESTRequestHandler
-/

/-- The longest string accepted for a node or a credential. -/
def defaultStringMaxLength : Nat := 4019

/-- The longest node data accepted. -/
def zkDataSizeLimit : Nat := 2097152

/-- The commands the server will pass on. -/
def zkCommands : List String :=
  ["exists", "get", "ls", "lsr", "create", "creater", "set", "delete", "rm",
    "deleter", "rmr", "getacl", "setacl"]

/-- The command a bare method stands for. -/
def methodToZkCommand : Method -> Option String
  | .get => some "get"
  | .post => some "create"
  | .put => some "set"
  | .delete => some "delete"
  | .head => none
  | .other => none

/-- The fixed front of every command line. -/
def zkBaseCmd (zkCli zkServers : String) : List String :=
  [zkCli, "-servers", zkServers]

/-- The argument vector of a command. -/
def ZkCall.argv (base : List String) (call : ZkCall) : List String :=
  base ++ (if call.force then ["-force"] else []) ++
    (match call.username with
      | some name => ["-auth_usr", name]
      | none => []) ++
    (match call.password with
      | some word => ["-auth_pwd", word]
      | none => []) ++
    ["-c", call.command, call.node] ++ call.data.toList

/-- `validate_string_input` on a value that is already a string. -/
def validateStringInput (attr value : String) (maxLength : Nat) :
    Except ValidationError String :=
  if value.length > maxLength then .error ⟨attr, "Too large.", 413⟩
  else .ok value

/-- `validate_string_input` on an optional header. -/
def validateHeader (attr : String) :
    Option String -> Except ValidationError (Option String)
  | none => .ok none
  | some value =>
      (validateStringInput attr value defaultStringMaxLength).map some

/-- `validate_string_input` on the `data` member of the body. -/
def validateData : Json -> Except ValidationError (Option String)
  | .null => .ok none
  | .string s => (validateStringInput "data" s zkDataSizeLimit).map some
  | _ => .error ⟨"data", "Invalid value.", 400⟩

/-- `run_zk_cmd` up to the point where the process is started. -/
def runZkCmd (command node : String) (data : Json) (force : Bool)
    (username password : Option String) : Except ValidationError ZkCall := do
  let username ← validateHeader "username" username
  let password ← validateHeader "password" password
  let node ← validateStringInput "node" node defaultStringMaxLength
  let data ← validateData data
  return { force, username, password, command, node, data }

/-- The command a request asks for: the `cmd` query argument, else the method's. -/
def zkCmd (method : Method) (query : List Char) : Option String :=
  match firstValue "cmd".toList query with
  | some cmd => some (String.ofList cmd)
  | none => methodToZkCommand method

/-- `parse_json_content`: an empty body is an empty object. -/
def parseJsonContent (loads : List UInt8 -> Option Json) (req : Request) :
    Option Json :=
  match req.content with
  | none => none
  | some [] => some (.object [])
  | some bytes => loads bytes

/--
The status of a finished command.  The source looks for its two error texts in
`res['stderr'][0]`, the first character of `stderr`; no text of more than one
character occurs there, so a failed command is always answered with 400, and
an empty `stderr` raises `IndexError`.
-/
def zkStatus (res : ZkResult) : Option Nat :=
  if res.returncode = 0 then some 200
  else
    match res.stderr.toList with
    | [] => none
    | first :: _ =>
        if "node does not exist".toList <:+: [first] then some 404
        else if "node already exists".toList <:+: [first] then some 406
        else some 400

/-- `ZKRESTRequestHandler.handle_request` inside `_handle_request`. -/
def handleRequest (loads : List UInt8 -> Option Json)
    (zookeepercli : ZkCall -> Option ZkResult) (req : Request) : Reply :=
  let url := urlparse req.path.toList
  match zkCmd req.method url.query with
  | none => .detail "Invalid command" 400
  | some command =>
      if command ∉ zkCommands then .detail "Invalid command" 400
      else
        match parseJsonContent loads req with
        | some (.object data) =>
            match runZkCmd command (String.ofList url.path) (Json.get data "data")
                (Json.get data "force").truthy req.zkUsername req.zkPassword with
            | .error error => .invalid error
            | .ok call =>
                match zookeepercli call with
                | none => .failed call
                | some res =>
                    match zkStatus res with
                    | none => .failed call
                    | some status => .result call res status
        | some _ => .detail "Malformed request" 400
        -- a malformed Content-Length raises a second time inside the handler
        | none =>
            if req.content.isNone then .serverError
            else .detail "Malformed request" 400

/-!
## ESDCZKRESTRequestHandler
-/

/-- The prefix the deployed server insists on. -/
def esdcPrefix : String := "/esdc"

/-- `ESDCZKRESTRequestHandler.handle_request`. -/
def esdcHandleRequest (loads : List UInt8 -> Option Json)
    (zookeepercli : ZkCall -> Option ZkResult) (req : Request) : Reply :=
  if esdcPrefix.toList <+: req.path.toList then
    handleRequest loads zookeepercli req
  else .detail "Permission Denied" 403

/-- The `do_*` methods of the deployed server. -/
def serve (loads : List UInt8 -> Option Json)
    (zookeepercli : ZkCall -> Option ZkResult) (req : Request) : Reply :=
  match req.method with
  | .head => if req.path = "/" then .ok else .unsupported
  | .other => .unsupported
  | _ => esdcHandleRequest loads zookeepercli req

/-!
## Which requests start a process
-/

/-- The string `run_zk_cmd` appends for the `data` member. -/
def dataArg : Json -> Option String
  | .string s => some s
  | _ => none

/-- The `data` member is absent or a string within its limit. -/
def DataAccepted : Json -> Prop
  | .null => True
  | .string s => s.length ≤ zkDataSizeLimit
  | _ => False

/-- An optional header is absent or a string within its limit. -/
def HeaderAccepted (value : Option String) : Prop :=
  forall s, value = some s -> s.length ≤ defaultStringMaxLength

/-- The requests for which the deployed server starts `zookeepercli`. -/
def Admitted (loads : List UInt8 -> Option Json) (req : Request) : Prop :=
  req.method ∈ [Method.get, .post, .put, .delete] ∧
    esdcPrefix.toList <+: req.path.toList ∧
    (exists command,
      zkCmd req.method (urlparse req.path.toList).query = some command ∧
        command ∈ zkCommands) ∧
    exists data, parseJsonContent loads req = some (.object data) ∧
      HeaderAccepted req.zkUsername ∧ HeaderAccepted req.zkPassword ∧
      (urlparse req.path.toList).path.length ≤ defaultStringMaxLength ∧
      DataAccepted (Json.get data "data")

theorem validateStringInput_ok_iff {attr value result : String} {n : Nat} :
    validateStringInput attr value n = .ok result <->
      value.length ≤ n ∧ result = value := by
  unfold validateStringInput
  split
  · rename_i hlong
    simp only [reduceCtorEq, false_iff]
    intro h
    omega
  · rename_i hshort
    simp only [Except.ok.injEq]
    constructor
    · intro h
      exact ⟨by omega, h.symm⟩
    · intro h
      exact h.right.symm

theorem map_some_ok_iff {x : Except ValidationError String}
    {result : Option String} :
    x.map some = .ok result <-> exists s, x = .ok s ∧ result = some s := by
  cases x with
  | error e => simp [Except.map]
  | ok s => simp [Except.map, eq_comm]

theorem validateHeader_ok_iff {attr : String} {value result : Option String} :
    validateHeader attr value = .ok result <->
      HeaderAccepted value ∧ result = value := by
  cases value with
  | none =>
      simp [validateHeader, HeaderAccepted, eq_comm]
  | some s =>
      simp [validateHeader, HeaderAccepted, map_some_ok_iff,
        validateStringInput_ok_iff, and_assoc]

theorem validateData_ok_iff {data : Json} {result : Option String} :
    validateData data = .ok result <->
      DataAccepted data ∧ result = dataArg data := by
  cases data with
  | null => simp [validateData, DataAccepted, dataArg, eq_comm]
  | string s =>
      simp [validateData, DataAccepted, dataArg, map_some_ok_iff,
        validateStringInput_ok_iff, and_assoc]
  | bool _ => simp [validateData, DataAccepted]
  | number _ => simp [validateData, DataAccepted]
  | array _ => simp [validateData, DataAccepted]
  | object _ => simp [validateData, DataAccepted]

theorem except_bind_ok_iff {ε α β : Type} {x : Except ε α}
    {f : α -> Except ε β} {r : β} :
    (x >>= f) = .ok r <-> exists a, x = .ok a ∧ f a = .ok r := by
  cases x with
  | error e => simp [bind, Except.bind]
  | ok a => simp [bind, Except.bind]

theorem runZkCmd_ok_iff {command node : String} {data : Json} {force : Bool}
    {username password : Option String} {call : ZkCall} :
    runZkCmd command node data force username password = .ok call <->
      (HeaderAccepted username ∧ HeaderAccepted password ∧
        node.length ≤ defaultStringMaxLength ∧ DataAccepted data) ∧
      call = ⟨force, username, password, command, node, dataArg data⟩ := by
  simp only [runZkCmd, except_bind_ok_iff, validateHeader_ok_iff,
    validateStringInput_ok_iff, validateData_ok_iff, pure, Except.pure,
    Except.ok.injEq]
  constructor
  · intro h
    rcases h with ⟨u, ⟨hu, rfl⟩, p, ⟨hp, rfl⟩, n, ⟨hn, rfl⟩, d, ⟨hd, rfl⟩, rfl⟩
    exact ⟨⟨hu, hp, hn, hd⟩, rfl⟩
  · intro h
    rcases h with ⟨⟨hu, hp, hn, hd⟩, rfl⟩
    exact ⟨_, ⟨hu, rfl⟩, _, ⟨hp, rfl⟩, _, ⟨hn, rfl⟩, _, ⟨hd, rfl⟩, rfl⟩

theorem handleRequest_ran {loads : List UInt8 -> Option Json}
    {zookeepercli : ZkCall -> Option ZkResult} {req : Request} {call : ZkCall}
    (h : (handleRequest loads zookeepercli req).ran = some call) :
    exists command data,
      zkCmd req.method (urlparse req.path.toList).query = some command ∧
        command ∈ zkCommands ∧
        parseJsonContent loads req = some (.object data) ∧
        runZkCmd command (String.ofList (urlparse req.path.toList).path)
          (Json.get data "data") (Json.get data "force").truthy
          req.zkUsername req.zkPassword = .ok call := by
  unfold handleRequest at h
  simp only at h
  split at h
  · cases h
  · rename_i command hcmd
    split at h
    · cases h
    · rename_i hlisted
      split at h
      · rename_i data hdata
        split at h
        · cases h
        · rename_i built hrun
          have hcall : built = call := by
            split at h
            · simpa [Reply.ran] using h
            · split at h <;> simpa [Reply.ran] using h
          subst hcall
          exact ⟨command, data, hcmd, not_not.mp hlisted, hdata, hrun⟩
      · cases h
      · split at h <;> cases h

theorem handleRequest_ran_of_checks {loads : List UInt8 -> Option Json}
    (zookeepercli : ZkCall -> Option ZkResult) {req : Request} {call : ZkCall}
    {command : String} {data : List (String × Json)}
    (hcmd : zkCmd req.method (urlparse req.path.toList).query = some command)
    (hlisted : command ∈ zkCommands)
    (hdata : parseJsonContent loads req = some (.object data))
    (hrun : runZkCmd command (String.ofList (urlparse req.path.toList).path)
      (Json.get data "data") (Json.get data "force").truthy
      req.zkUsername req.zkPassword = .ok call) :
    (handleRequest loads zookeepercli req).ran = some call := by
  unfold handleRequest
  simp only [hcmd, hlisted, not_true_eq_false, if_false, hdata, hrun]
  split
  · rfl
  · split <;> rfl

end Cfgdb
end EsdcFactory
