import FlareStudio.Scaffold.Server

set_option autoImplicit false

namespace FlareStudio.Scaffold

open Interleaving Exclusive

open Policy.Canonical (Value property truthy)

namespace Python

variable {S : Type}

structure Server (S : Type) where
  version : Text
  stateVersionHex : Text
  framework : Framework (HandlerFunc S)
  report_state : S → Value

-- json.loads on the bytes of a body, with the text of the ValueError it raises; the ints in what it
-- reads are bigints here.
structure Runtime where
  loads : Bytes → Except Text Value

structure Request where
  method : Text
  path : Text
  body : Bytes

def badRequest (message : Text) : Reply := ⟨400, .json (.object [(text "error", .string message)])⟩

structure Echo where
  id : Value
  submission_tag : Value
  op_type : Value
  op_command : Value

-- Work that is done under the lock.
inductive Job (S : Type) where
  | action (echo : Echo) (handler : HandlerFunc S) (message : Value)
  | state

inductive Routed (S : Type) where
  | reply (reply : Reply)
  | locked (job : Job S)
  | raises (error : Text)

-- What `not` and `or` make of a value: a list or a dict without elements is false.
def truthy : Value → Bool
  | .array [] | .object [] => false
  | value => Policy.Canonical.truthy value

-- The text of the KeyError or TypeError that value[key] raises.
def subscript (value : Value) (key : String) : Except Text Value :=
  match value with
  | .object members =>
    Checked.ofOption (text "'" ++ text key ++ text "'") (members.lookup (text key))
  | .array _ => .error (text "list indices must be integers or slices, not str")
  | .string _ => .error (text "string indices must be integers, not 'str'")
  | .null => .error (text "'NoneType' object is not subscriptable")
  | .boolean _ => .error (text "'bool' object is not subscriptable")
  | .bigint _ => .error (text "'int' object is not subscriptable")
  | .number _ => .error (text "'float' object is not subscriptable")

-- What a server uses of an Action.
structure ActionData where
  id : Value
  submission_tag : Value
  message : Value

def parse_action (raw : Value) : Except Text ActionData := do
  let data_raw ← subscript raw "data"
  let id ← subscript data_raw "id"
  let message ← subscript data_raw "message"
  .ok ⟨id, (property data_raw "submissionTag").getD (stringValue ""), message⟩

structure DataFixed where
  op_type : Value
  op_command : Value
  original_message : Value

-- The KeyError of a dict without an operation type; raw.get is asked of it before.
def parse_data_fixed (members : List (Text × Value)) : Except Text DataFixed := do
  let op_type ← subscript (.object members) "opType"
  let original := (members.lookup (text "originalMessage")).getD .null
  .ok ⟨op_type, (members.lookup (text "opCommand")).getD (stringValue ""),
    if truthy original then original else stringValue "0x"⟩

-- What lookup compares of an identifier, which it normalizes.
def identifierOf (h : Value) : Except Text Text :=
  match h with
  | .string units => .ok units
  | h => if truthy h then .error (text "no attribute 'lower'") else .ok []

def processDataFixed (server : Server S) (data : ActionData) (df : DataFixed) : Routed S :=
  match identifierOf df.op_type, identifierOf df.op_command with
  | .error error, _ => .raises error
  | .ok _, .error error => .raises error
  | .ok op_type, .ok op_command =>
    match server.framework.lookup op_type op_command with
    | none => .reply ⟨501, .text (text "unsupported op type")⟩
    | some handler =>
      .locked (.action ⟨data.id, data.submission_tag, df.op_type, df.op_command⟩ handler
        df.original_message)

def processMessage (runtime : Runtime) (server : Server S) (data : ActionData)
    (msg_bytes : Bytes) : Routed S :=
  match runtime.loads msg_bytes with
  | .error e => .reply (badRequest (text "invalid DataFixed JSON in message: " ++ e))
  | .ok (.object members) =>
    match parse_data_fixed members with
    | .error e => .reply (badRequest (text "invalid DataFixed JSON in message: " ++ e))
    | .ok df => processDataFixed server data df
  | .ok _ => .raises (text "no attribute 'get'")

def process_action (runtime : Runtime) (server : Server S) (body : Bytes) : Routed S :=
  match runtime.loads body with
  | .error e => .reply (badRequest (text "invalid action JSON: " ++ e))
  | .ok raw =>
    match parse_action raw with
    | .error e => .reply (badRequest (text "invalid action structure: " ++ e))
    | .ok data =>
      match data.message with
      | .null => processMessage runtime server data []
      | .string h =>
        match hex_to_bytes (some h) with
        | .error e => .reply (badRequest (text "invalid hex in message: " ++ e))
        | .ok msg_bytes => processMessage runtime server data msg_bytes
      | _ => .raises (text "no attribute 'removeprefix'")

def handle_request (runtime : Runtime) (server : Server S) (request : Request) : Routed S :=
  let path := request.path.takeWhile (· ≠ 63)
  if path = text "/action" then
    if request.method = text "POST" then process_action runtime server request.body
    else .reply ⟨405, .text (text "method not allowed")⟩
  else if path = text "/state" then
    if request.method = text "GET" then .locked .state
    else .reply ⟨405, .text (text "method not allowed")⟩
  else .reply ⟨404, .text (text "not found")⟩

def orEmpty (data : Option Text) : Text :=
  match data with
  | some units => if units = [] then text "0x" else units
  | none => text "0x"

def to_dict (server : Server S) (echo : Echo) (result : HandlerResult) : Value :=
  .object [(text "id", echo.id), (text "submissionTag", echo.submission_tag),
    (text "status", .number (.ofNat result.status)),
    (text "log", .string (logOf result.status result.error)),
    (text "opType", echo.op_type), (text "opCommand", echo.op_command),
    (text "additionalResultStatus", stringValue "0x"),
    (text "version", .string server.version), (text "data", .string (orEmpty result.data))]

-- The log line decodes both identifiers, which only a str or None survives.
def logged (identifier : Value) : Bool :=
  match identifier with
  | .string _ | .null => true
  | _ => false

def respond (server : Server S) (echo : Echo) (result : HandlerResult) : Except Text Reply :=
  if logged echo.op_type && logged echo.op_command then
    .ok ⟨200, .json (to_dict server echo result)⟩
  else .error (text "no attribute 'removeprefix'")

def start (server : Server S) : Job S → Program S (Except Text Reply)
  | .action echo handler message =>
    (handler message).map fun outcome => outcome.bind (respond server echo)
  | .state => .access id fun s => .done (.ok ⟨200, .json (.object
      [(text "stateVersion", .string server.stateVersionHex),
        (text "state", server.report_state s)])⟩)

def answer (server : Server S) (s : S) (job : Job S) : Except Text Reply × S :=
  (start server job).run stretch s

/-- A thread for each request that needs the lock. Any of those that wait may get it next. -/
abbrev Threads (S : Type) : Type :=
  Exclusive.System (Job S) (Stretch S) (fun _ => S) S (Except Text Reply)

def deliver (runtime : Runtime) (server : Server S) : Event Request → Option (Event (Job S))
  | .arrive request =>
    match handle_request runtime server request with
    | .locked job => some (.arrive job)
    | _ => none
  | .step index => some (.step index)

def run (runtime : Runtime) (server : Server S) (s : S) (events : List (Event Request)) :
    Threads S :=
  (System.initial s).run stretch (start server) lock (events.filterMap (deliver runtime server))

theorem run_serial (runtime : Runtime) (server : Server S) (s : S) (events : List (Event Request)) :
    (run runtime server s events).Serial stretch (answer server) s :=
  lock_run_serial (fun _ _ => rfl) (System.initial_serial s) _

/-- However threads are scheduled, every outcome is that of one job after the other in the order in
which the lock was taken; a job that was over before another one came is before it in that order. -/
theorem handle_request_linearizable (runtime : Runtime) (server : Server S) (s : S)
    (events later : List (Event Request)) :
    let early := run runtime server s events
    let late := run runtime server s (events ++ later)
    late.Serial stretch (answer server) s ∧ early.entered <+: late.entered ∧
      ∀ index input output, early.clients[index]? = some ⟨input, .left output⟩ →
        index ∈ early.entered ∧ late.clients[index]? = some ⟨input, .left output⟩ := by
  have split : run runtime server s (events ++ later) =
      (run runtime server s events).run stretch (start server) lock
        (later.filterMap (deliver runtime server)) := by
    rw [run, List.filterMap_append, run_append, run]
  simp only [split]
  refine ⟨?_, run_entered _ _, fun index input output gone => ⟨?_, run_left gone _⟩⟩
  · rw [← split]
    exact run_serial runtime server s _
  · by_contra absent
    have waiting := ((run_serial runtime server s events).waits index _ gone).mpr absent
    cases waiting

end Python

/-- An action as the contract has it, in what the two decoders make of its body and message. -/
structure WellFormed (action df : Value) (id submissionTag message opType opCommand : Text)
    (originalMessage : Option Text) : Prop where
  data : ∃ members, property action "data" = some (.object members) ∧
    members.lookup (text "id") = some (.string id) ∧
    members.lookup (text "submissionTag") = some (.string submissionTag) ∧
    members.lookup (text "message") = some (.string message)
  fixed : ∃ members, df = .object members ∧ members.lookup (text "opType") = some (.string opType) ∧
    members.lookup (text "opCommand") = some (.string opCommand) ∧
    members.lookup (text "originalMessage") = originalMessage.map .string
  typed : opType ≠ []
  original : originalMessage ≠ some []

theorem encode_ascii {name : Text} (ascii : Json.Ascii name) :
    Python.encode name = some (Policy.textEncode name) := by
  have plain : name.any (fun code => 0xd800 ≤ code && code < 0xe000) = false := by
    rw [List.any_eq_false]
    intro code member
    have small := ascii code member
    simp only [Bool.and_eq_true, decide_eq_true_eq]
    omega
  have units : name.flatMap Extension.utf8 = name := by
    clear plain
    induction name with
    | nil => rfl
    | cons code rest ih =>
      have small := ascii code List.mem_cons_self
      rw [List.flatMap_cons, ih fun c member => ascii c (List.mem_cons_of_mem _ member),
        Extension.utf8, if_pos small]
      rfl
  rw [Python.encode, plain, units, Policy.textEncode, Policy.utf8Units_ascii ascii]
  rfl

theorem register_agree {H : Type} {registrations : List (Text × Text × H)}
    (ascii : ∀ entry ∈ registrations, Json.Ascii entry.1 ∧ Json.Ascii entry.2.1) :
    register TypeScript.handle registrations = register Python.handle registrations := by
  have same (name : Text) (plain : Json.Ascii name) :
      (TypeScript.stringToBytes32Hex name).toOption = Python.string_to_bytes32_hex name := by
    refine (typeScript_writes name).trans ?_
    rw [python_writes name, TypeScript.identifier, Python.identifier, encode_ascii plain,
      Option.bind_some]
  have fold (framework : Framework H) : registrations.foldlM TypeScript.handle framework =
      registrations.foldlM Python.handle framework := by
    induction registrations generalizing framework with
    | nil => rfl
    | cons entry rest ih =>
      rw [List.forall_mem_cons] at ascii
      have here : TypeScript.handle framework entry = Python.handle framework entry := by
        simp only [TypeScript.handle, Python.handle, handleWith, same _ ascii.1.1,
          same _ ascii.1.2]
      rw [List.foldlM_cons, List.foldlM_cons, here]
      exact congrArg _ (funext fun next => ih ascii.2 next)
  exact fold .new

section Agreement

variable {S : Type}

/-- Two servers of one extension: the same version, and the same handlers under ASCII names. -/
structure Alike (ts : TypeScript.Server S) (py : Python.Server S) : Prop where
  version : ts.version = py.version
  registered : ∃ registrations,
    (∀ entry ∈ registrations, Json.Ascii entry.1 ∧ Json.Ascii entry.2.1) ∧
    register TypeScript.handle registrations = some ts.framework ∧
    register Python.handle registrations = some py.framework

def ReadAlike (runtime : Python.Runtime) (body : Text) (bytes : Bytes) : Prop :=
  ∃ action action' df df' id submissionTag message msgBytes opType opCommand originalMessage,
    Policy.Canonical.parse body = some action ∧ runtime.loads bytes = .ok action' ∧
    TypeScript.hexToBytes (some message) = .ok msgBytes ∧
    Policy.Canonical.parse (Buffer.toUtf8 msgBytes) = some df ∧ runtime.loads msgBytes = .ok df' ∧
    WellFormed action df id submissionTag message opType opCommand originalMessage ∧
    WellFormed action' df' id submissionTag message opType opCommand originalMessage

/-- The same reply at once, or the same handler with the same message, after which the replies and
the states are the same unless the handler gives the empty text for data. -/
inductive Agrees (ts : TypeScript.Server S) (py : Python.Server S) :
    TypeScript.Routed S → Python.Routed S → Prop where
  | reply (reply : Reply) : Agrees ts py (.reply reply) (.reply reply)
  | job (echo : TypeScript.Echo) (echo' : Python.Echo) (handler : HandlerFunc S) (message : Value)
      (same : ∀ s, (∀ result, ((handler message).run stretch s).1 = .ok result →
          result.data ≠ some []) →
        TypeScript.answer ts s (.action echo handler message) =
          Python.answer py s (.action echo' handler message)) :
      Agrees ts py (.serialize (.action echo handler message))
        (.locked (.action echo' handler message))

theorem answer_agree {ts : TypeScript.Server S} {py : Python.Server S}
    (version : ts.version = py.version) (id submissionTag opType opCommand : Text)
    (handler : HandlerFunc S) (message : Value) (s : S)
    (filled : ∀ result, ((handler message).run stretch s).1 = .ok result → result.data ≠ some []) :
    TypeScript.answer ts s (.action ⟨some (.string id), some (.string submissionTag), opType,
        some (.string opCommand)⟩ handler message) =
      Python.answer py s (.action ⟨.string id, .string submissionTag, .string opType,
        .string opCommand⟩ handler message) := by
  simp only [TypeScript.answer, Python.answer, TypeScript.start, Python.start, Thread.run_map]
  cases outcome : ((handler message).run stretch s).1 with
  | error error => rfl
  | ok result =>
    have data : Python.orEmpty result.data = result.data.getD (text "0x") := by
      have nonempty := filled result outcome
      cases given : result.data with
      | none => rfl
      | some units =>
        rw [given, ne_eq, Option.some.injEq] at nonempty
        simp [Python.orEmpty, nonempty]
    simp only [Except.map, Except.bind, Python.respond, Python.logged, Bool.and_self, if_true,
      TypeScript.actionResult, Python.to_dict, version, data]
    rfl

section Routes

variable {id submissionTag message opType opCommand : Text} {originalMessage : Option Text}
  {action df : Value}

def messageOf (originalMessage : Option Text) : Value :=
  .string (originalMessage.getD (text "0x"))

theorem typeScript_routes {engine : TypeScript.Engine} {ts : TypeScript.Server S} {body : Text}
    {msgBytes : Bytes} (parsed : Policy.Canonical.parse body = some action)
    (decoded : TypeScript.hexToBytes (some message) = .ok msgBytes)
    (fixed : Policy.Canonical.parse (Buffer.toUtf8 msgBytes) = some df)
    (formed : WellFormed action df id submissionTag message opType opCommand originalMessage) :
    TypeScript.processAction engine ts body =
      match ts.framework.lookup opType opCommand with
      | none => .reply ⟨501, .text (text "unsupported op type")⟩
      | some handler =>
        .serialize (.action ⟨some (.string id), some (.string submissionTag), opType,
          some (.string opCommand)⟩ handler (messageOf originalMessage)) := by
  obtain ⟨members, data, known, tagged, carried⟩ := formed.data
  obtain ⟨fields, rfl, typed, commanded, original⟩ := formed.fixed
  have bytes : TypeScript.bytesOf (some (.string message)) = .ok msgBytes := by
    rw [TypeScript.bytesOf, decoded]
    rfl
  have nonempty : truthy (.string opType) = true := by simp [truthy, formed.typed]
  have identifier : property (.object members) "id" = some (.string id) := known
  have tag : property (.object members) "submissionTag" = some (.string submissionTag) := tagged
  have carries : property (.object members) "message" = some (.string message) := carried
  have operation : property (.object fields) "opType" = some (.string opType) := typed
  have command : property (.object fields) "opCommand" = some (.string opCommand) := commanded
  have content : property (.object fields) "originalMessage" =
      originalMessage.map Value.string := original
  have object : truthy (.object members) = true := rfl
  simp only [TypeScript.processAction, TypeScript.parseJson, parsed, Checked.ofOption, data,
    object, carries, bytes, fixed, isObject, if_true, TypeScript.processDataFixed, operation,
    nonempty, command, TypeScript.commandOf, identifier, tag, content, not_true_eq_false, if_false]
  cases ts.framework.lookup opType opCommand with
  | none => rfl
  | some handler => cases originalMessage <;> rfl

theorem subscript_object {members : List (Text × Value)} {key : String} {value : Value}
    (found : members.lookup (text key) = some value) :
    Python.subscript (.object members) key = .ok value := by
  rw [Python.subscript, found, Checked.ofOption]

theorem python_routes {runtime : Python.Runtime} {py : Python.Server S} {bytes msgBytes : Bytes}
    (loaded : runtime.loads bytes = .ok action)
    (decoded : Python.hex_to_bytes (some message) = .ok msgBytes)
    (fixed : runtime.loads msgBytes = .ok df)
    (formed : WellFormed action df id submissionTag message opType opCommand originalMessage) :
    Python.process_action runtime py bytes =
      match py.framework.lookup opType opCommand with
      | none => .reply ⟨501, .text (text "unsupported op type")⟩
      | some handler => .locked (.action ⟨.string id, .string submissionTag, .string opType,
          .string opCommand⟩ handler (messageOf originalMessage)) := by
  obtain ⟨members, data, known, tagged, carried⟩ := formed.data
  obtain ⟨fields, rfl, typed, commanded, content⟩ := formed.fixed
  have raw : Python.subscript action "data" = .ok (.object members) := by
    cases action with
    | object top =>
      have found : top.lookup (text "data") = some (.object members) := data
      exact subscript_object found
    | _ => cases data
  have parsed : Python.parse_action action =
      .ok ⟨.string id, .string submissionTag, .string message⟩ := by
    simp [Python.parse_action, raw, bind, Except.bind, subscript_object known,
      subscript_object carried, property, tagged]
  have original : (if Python.truthy ((originalMessage.map Value.string).getD .null) then
      (originalMessage.map Value.string).getD .null else stringValue "0x") =
        messageOf originalMessage := by
    cases given : originalMessage with
    | none => rfl
    | some units =>
      have nonempty : units ≠ [] := by
        rintro rfl
        exact formed.original given
      simp [Python.truthy, truthy, nonempty, messageOf]
  have fixed' : Python.parse_data_fixed fields =
      .ok ⟨.string opType, .string opCommand, messageOf originalMessage⟩ := by
    rw [← original]
    simp [Python.parse_data_fixed, subscript_object typed, commanded, content, bind, Except.bind]
  simp only [Python.process_action, loaded, parsed, decoded, Python.processMessage, fixed, fixed',
    Python.processDataFixed, Python.identifierOf]

end Routes

/-- A well-formed action gets the same answer from either server. -/
theorem handleRequest_agree (engine : TypeScript.Engine) {runtime : Python.Runtime}
    {ts : TypeScript.Server S} {py : Python.Server S} (alike : Alike ts py) {body : Text}
    {bytes : Bytes} (read : ReadAlike runtime body bytes) :
    Agrees ts py (TypeScript.handleRequest engine ts ⟨text "POST", text "/action", body⟩)
      (Python.handle_request runtime py ⟨text "POST", text "/action", bytes⟩) := by
  obtain ⟨action, action', df, df', id, submissionTag, message, msgBytes, opType, opCommand,
    originalMessage, parsed, loaded, decoded, fixed, fixed', formed, formed'⟩ := read
  obtain ⟨registrations, ascii, registered, registered'⟩ := alike.registered
  have framework : ts.framework = py.framework := by
    rw [register_agree ascii, registered'] at registered
    exact (Option.some.inj registered).symm
  have decoded' := hex_to_bytes_of_hexToBytes decoded
  have left : TypeScript.handleRequest engine ts ⟨text "POST", text "/action", body⟩ =
      TypeScript.processAction engine ts body := rfl
  have right : Python.handle_request runtime py ⟨text "POST", text "/action", bytes⟩ =
      Python.process_action runtime py bytes := rfl
  rw [left, right, typeScript_routes parsed decoded fixed formed,
    python_routes loaded decoded' fixed' formed', framework]
  cases py.framework.lookup opType opCommand with
  | none => exact .reply _
  | some handler =>
    exact .job _ _ _ _ (answer_agree alike.version id submissionTag opType opCommand handler _)

end Agreement

namespace Sample

def OP : Text := text "0x4f50" ++ List.replicate 60 48

def count : HandlerFunc Nat := fun _ =>
  .access Nat.succ fun _ => .done (.ok ⟨some (text "0x01"), 1, none⟩)

def framework : Framework (HandlerFunc Nat) := ⟨[(OP, EMPTY_BYTES32, count)]⟩

def version : Text := text "0.1.0"

def reportState (count : Nat) : Value := .number (.ofNat count)

def operation : Json := .obj [(text "opType", .str OP), (text "opCommand", .str [])]

def message : Bytes := (Json.render operation).map UInt8.ofNat

def body : Json := .obj [(text "data", .obj [(text "id", .str (text "0x01")),
  (text "submissionTag", .str (text "submit")), (text "message", .str (Hex.prefixed message))])]

def loads (bytes : Bytes) : Except Text Value :=
  Checked.ofOption [] (Policy.Canonical.parse (Buffer.toUtf8 bytes))

theorem plain_operation : Json.Plain operation := by
  simp only [operation, Json.Plain, Json.PlainMembers, Json.PlainString]
  decide

theorem plain_body : Json.Plain body := by
  simp [body, Json.Plain, Json.PlainMembers, Json.plainString_prefixed]
  simp [Json.PlainString, text]

theorem parse_operation : Policy.Canonical.parse (Json.render operation) =
    some (.object [(text "opType", .string OP), (text "opCommand", .string [])]) := by
  have formed := Json.Plain.wellFormed operation plain_operation
  rw [Policy.Canonical.parse, Json.parse_render operation formed]
  rfl

theorem toUtf8_codes {units : Text} (ascii : Json.Ascii units) :
    Buffer.toUtf8 (units.map UInt8.ofNat) = units := by
  have small (unit : Nat) (member : unit ∈ units) : (UInt8.ofNat unit).toNat = unit := by
    have := ascii unit member
    rw [UInt8.toNat_ofNat']
    omega
  have bytes : ∀ byte ∈ units.map UInt8.ofNat, byte.toNat < 128 := by
    rw [List.forall_mem_map]
    intro unit member
    rw [small unit member]
    exact ascii unit member
  rw [Buffer.toUtf8_ascii bytes, Bytes.text, List.map_map]
  exact (List.map_congr_left small).trans (List.map_id _)

def members (message : Text) : List (Text × Value) :=
  [(text "id", .string (text "0x01")), (text "submissionTag", .string (text "submit")),
    (text "message", .string message)]

theorem parse_body : Policy.Canonical.parse (Json.render body) =
    some (.object [(text "data", .object (members (Hex.prefixed message)))]) := by
  have formed := Json.Plain.wellFormed body plain_body
  rw [Policy.Canonical.parse, Json.parse_render body formed]
  have bare := Policy.Canonical.unescape_of_plain (Json.plainString_prefixed message)
  unfold body
  generalize Hex.prefixed message = raw at bare
  simp only [Option.map_some, Policy.Canonical.revive, Policy.Canonical.reviveMembers, bare]
  rfl

theorem loads_codes {j : Json} (plain : Json.Plain j) {value : Value}
    (parsed : Policy.Canonical.parse (Json.render j) = some value) :
    loads ((Json.render j).map UInt8.ofNat) = .ok value := by
  rw [loads, toUtf8_codes (Json.Plain.ascii j plain), parsed, Checked.ofOption]

def fields : List (Text × Value) := [(text "opType", .string OP), (text "opCommand", .string [])]

theorem formed (action df : Value)
    (first : action = .object [(text "data", .object (members (Hex.prefixed message)))])
    (second : df = .object fields) :
    WellFormed action df (text "0x01") (text "submit") (Hex.prefixed message) OP [] none where
  data := by
    subst first
    exact ⟨_, rfl, rfl, rfl, rfl⟩
  fixed := by
    subst second
    exact ⟨_, rfl, rfl, rfl, rfl⟩
  typed := by decide
  original := by decide

theorem decoded : TypeScript.hexToBytes (some (Hex.prefixed message)) = .ok message :=
  hexToBytes_eq_ok.mpr (Hex.decode_encode message)

theorem read_alike : ReadAlike ⟨loads⟩ (Json.render body) ((Json.render body).map UInt8.ofNat) := by
  refine ⟨_, _, _, _, text "0x01", text "submit", _, message, OP, [], none, parse_body,
    loads_codes plain_body parse_body, decoded, ?_, loads_codes plain_operation parse_operation,
    formed _ _ rfl rfl, formed _ _ rfl rfl⟩
  rw [message, toUtf8_codes (Json.Plain.ascii operation plain_operation)]
  exact parse_operation

def ts : TypeScript.Server Nat := ⟨version, OP, framework, reportState⟩

def py : Python.Server Nat := ⟨version, OP, framework, reportState⟩

theorem alike : Alike ts py where
  version := rfl
  registered := ⟨[(text "OP", [], count)], by decide, rfl, rfl⟩

end Sample

theorem handleRequest_agree_sample : Agrees Sample.ts Sample.py
    (TypeScript.handleRequest ⟨id⟩ Sample.ts ⟨text "POST", text "/action", Json.render Sample.body⟩)
    (Python.handle_request ⟨Sample.loads⟩ Sample.py
      ⟨text "POST", text "/action", (Json.render Sample.body).map UInt8.ofNat⟩) :=
  handleRequest_agree ⟨id⟩ Sample.alike Sample.read_alike

end FlareStudio.Scaffold
