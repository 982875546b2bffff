import FlareStudio.Policy.Canonical
import FlareStudio.Scaffold.Registry
import FlareStudio.Shared.Buffer
import FlareStudio.Shared.Exclusive

set_option autoImplicit false

namespace FlareStudio.Scaffold

open Interleaving Exclusive

open Policy.Canonical (Value property truthy)

/-- What a handler does at once, without yielding, to the state that it finds. -/
abbrev Stretch (S : Type) : Type := S → S

/-- The rest of a handler has seen the state that its last stretch found. -/
abbrev Program (S O : Type) : Type := Thread (Stretch S) (fun _ => S) O

def stretch {S : Type} (change : Stretch S) (s : S) : S × S := (s, change s)

structure HandlerResult where
  data : Option Text
  status : Nat
  error : Option Text
deriving DecidableEq

-- A handler that throws or rejects leaves the text of what it throws.
abbrev HandlerFunc (S : Type) : Type := Value → Program S (Except Text HandlerResult)

structure Request where
  method : Text
  path : Text
  body : Text

inductive Payload where
  | text (message : Text)
  | json (value : Value)

structure Reply where
  status : Nat
  payload : Payload

-- JSON.stringify leaves out what is undefined.
def defined (members : List (String × Option Value)) : Value :=
  .object (members.filterMap fun member => member.2.map fun value => (text member.1, value))

def stringValue (literal : String) : Value := .string (text literal)

def isObject : Value → Bool
  | .object _ | .array _ => true
  | _ => false

def logOf (status : Nat) (error : Option Text) : Text :=
  if status = 0 then
    match error with
    | some message => if message = [] then text "error: unknown" else text "error: " ++ message
    | none => text "error: unknown"
  else if status = 1 then text "ok"
  else text "pending"

namespace TypeScript

variable {S : Type}

structure Server (S : Type) where
  version : Text
  stateVersionHex : Text
  framework : Framework (HandlerFunc S)
  reportState : S → Value

-- What String makes of the SyntaxError that JSON.parse throws.
structure Engine where
  syntaxError : Text → Text

def badRequest (message : Text) : Reply := ⟨400, .json (.object [(text "error", .string message)])⟩

structure Echo where
  id : Option Value
  submissionTag : Option Value
  opType : Text
  opCommand : Option Value

-- Work that is handed to serialize.
inductive Job (S : Type) where
  | action (echo : Echo) (handler : HandlerFunc S) (message : Value)
  | state

inductive Routed (S : Type) where
  | reply (reply : Reply)
  | serialize (job : Job S)
  | throws (error : Text)

def bytesOf (message : Option Value) : Except Text Bytes :=
  match message with
  | none | some .null => .ok []
  | some (.string h) => (hexToBytes (some h)).mapError (text "Error: " ++ ·)
  | some _ => .error (text "TypeError: s.startsWith is not a function")

-- The command that lookup compares, which normalizes it.
def commandOf : Option Value → Except Text Text
  | none | some .null => .ok []
  | some (.string units) => .ok units
  | some value =>
    if truthy value then .error (text "TypeError: h.toLowerCase is not a function") else .ok []

def parseJson (engine : Engine) (input : Text) : Except Text Value :=
  Checked.ofOption (engine.syntaxError input) (Policy.Canonical.parse input)

def processDataFixed (server : Server S) (data df : Value) : Routed S :=
  match property df "opType" with
  | none => .reply (badRequest (text "invalid DataFixed: missing opType"))
  | some opType =>
    if ¬ truthy opType then .reply (badRequest (text "invalid DataFixed: missing opType"))
    else match opType with
      | .string units =>
        match commandOf (property df "opCommand") with
        | .error error => .throws error
        | .ok opCommand =>
          match server.framework.lookup units opCommand with
          | none => .reply ⟨501, .text (text "unsupported op type")⟩
          | some handler =>
            .serialize (.action
              { id := property data "id"
                submissionTag := property data "submissionTag"
                opType := units
                opCommand := property df "opCommand" }
              handler (match property df "originalMessage" with
                | none | some .null => stringValue "0x"
                | some message => message))
      | _ => .throws (text "TypeError: h.toLowerCase is not a function")

def processAction (engine : Engine) (server : Server S) (body : Text) : Routed S :=
  match parseJson engine body with
  | .error e => .reply (badRequest (text "invalid action JSON: " ++ e))
  | .ok action =>
    match property action "data" with
    | none => .reply (badRequest (text "invalid action structure: missing data"))
    | some data =>
      if ¬ truthy data then .reply (badRequest (text "invalid action structure: missing data"))
      else match bytesOf (property data "message") with
        | .error e => .reply (badRequest (text "invalid hex in message: " ++ e))
        | .ok msgBytes =>
          match parseJson engine (Buffer.toUtf8 msgBytes) with
          | .error e => .reply (badRequest (text "invalid DataFixed JSON in message: " ++ e))
          | .ok df =>
            if isObject df then processDataFixed server data df
            else .reply (badRequest (text "invalid DataFixed: missing opType"))

def handleRequest (engine : Engine) (server : Server S) (request : Request) : Routed S :=
  let clean := request.path.takeWhile (· ≠ 63)
  if clean = text "/action" then
    if request.method = text "POST" then processAction engine server request.body
    else .reply ⟨405, .text (text "method not allowed")⟩
  else if clean = text "/state" then
    if request.method = text "GET" then .serialize .state
    else .reply ⟨405, .text (text "method not allowed")⟩
  else .reply ⟨404, .text (text "not found")⟩

def actionResult (server : Server S) (echo : Echo) (result : HandlerResult) : Value :=
  defined [("id", echo.id), ("submissionTag", echo.submissionTag),
    ("status", some (.number (.ofNat result.status))),
    ("log", some (.string (logOf result.status result.error))),
    ("opType", some (.string echo.opType)), ("opCommand", echo.opCommand),
    ("additionalResultStatus", some (stringValue "0x")), ("version", some (.string server.version)),
    ("data", some (.string (result.data.getD (text "0x"))))]

def stateResponse (server : Server S) (state : Value) : Value :=
  .object [(text "stateVersion", .string server.stateVersionHex), (text "state", state)]

-- The work that is queued for a job, with what its request makes of the outcome.
def start (server : Server S) : Job S → Program S (Except Text Reply)
  | .action echo handler message =>
    (handler message).map fun outcome =>
      outcome.map fun result => ⟨200, .json (actionResult server echo result)⟩
  | .state =>
    .access id fun s => .done (.ok ⟨200, .json (stateResponse server (server.reportState s))⟩)

def answer (server : Server S) (s : S) (job : Job S) : Except Text Reply × S :=
  (start server job).run stretch s

/-- The jobs in the order in which serialize was called; each waits for the one before it. -/
abbrev Queue (S : Type) : Type :=
  Exclusive.System (Job S) (Stretch S) (fun _ => S) S (Except Text Reply)

-- A request is routed when it arrives. A turn is one of the job at an index.
def deliver (engine : Engine) (server : Server S) : Event Request → Option (Event (Job S))
  | .arrive request =>
    match handleRequest engine server request with
    | .serialize job => some (.arrive job)
    | _ => none
  | .step index => some (.step index)

def run (engine : Engine) (server : Server S) (s : S) (events : List (Event Request)) : Queue S :=
  (System.initial s).run stretch (start server) chain (events.filterMap (deliver engine server))

def jobs (engine : Engine) (server : Server S) (events : List (Event Request)) : List (Job S) :=
  (events.filterMap (deliver engine server)).filterMap Event.arrived

theorem run_fifo (engine : Engine) (server : Server S) (s : S) (events : List (Event Request)) :
    (run engine server s events).Fifo stretch (answer server) s :=
  chain_run_fifo (fun _ _ => rfl) (System.initial_fifo s) _

/-- However handlers pause and requests come in between, the jobs that are over are the first that
came, each with the outcome of one after the other; the next one waits on the state they left or
runs on it, and the others have not begun. -/
theorem handleRequest_serialized (engine : Engine) (server : Server S) (s : S)
    (events : List (Event Request)) :
    let queue := run engine server s events
    queue.clients.map Client.input = jobs engine server events ∧
      ∃ count past, past = (jobs engine server events).take count ∧
        queue.clients.take count = (past.zip (Responder.outputs (answer server) s past)).map
          (fun gone => ⟨gone.1, .left gone.2⟩) ∧
        (queue.state = Responder.final (answer server) s past ∧
            (∀ client, queue.clients[count]? = some client → client.phase = .waiting) ∨
          Serving stretch (answer server) queue (Responder.final (answer server) s past) count) ∧
        ∀ index client, queue.clients[index]? = some client → count < index →
          client.phase = .waiting := by
  have inputs : (run engine server s events).clients.map Client.input = jobs engine server events :=
    run_inputs (System.initial s) (events.filterMap (deliver engine server))
  obtain ⟨count, past, taken, outputs⟩ := (run_fifo engine server s events).outputs
  exact ⟨inputs, count, past, taken.trans (congrArg (List.take count) inputs), outputs⟩

/-- A handler that throws holds nobody up: the first job that is not over is the only one a turn
does anything for, and turns of the first job that is not over end them all. A handler is a Program
here, so that each of them ends is assumed. -/
theorem serialize_advances (engine : Engine) (server : Server S) (s : S)
    (events : List (Event Request)) :
    let queue := run engine server s events
    (∀ index, ahead? queue.clients ≠ some index →
      queue.next stretch (start server) chain (.step index) = queue) ∧
    ∃ turns, ∀ client ∈ ((System.forward stretch (start server))^[turns] queue).clients,
      client.phase.hasLeft = true :=
  ⟨fun _ other => (run_fifo engine server s events).idle other, all_leave _⟩

end TypeScript

end FlareStudio.Scaffold
