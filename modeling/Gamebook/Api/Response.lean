import Gamebook.Api.Service
import Gamebook.Value.Sendable

/-! How answers are put to clients: a status, and a body in JSON. -/

set_option autoImplicit false

namespace Gamebook

def Line.toValue (l : Line) : Value :=
  .ofEntries [(.text "text", l.text), (.text "types", .ofList (l.types.map .text))]

def Snapshot.toEntries (s : Snapshot) : Entries :=
  [ (.text "state", (s.state.map fun state => Value.ofEntries state.toEntries).getD .null),
    (.text "options", .ofList (s.options.mapIdx fun i text =>
      .ofEntries [(.text "index", .int i), (.text "text", text)])),
    (.text "log", .ofList (s.log.map Line.toValue)),
    (.text "cursor", .int s.cursor)]

namespace Api

inductive Body where
  | json (v : Value)
  | text (s : String)
  /-- An account of the fields that are wrong. -/
  | fields

structure Response where
  status : Nat
  body : Body

def Answer.body : Answer → Value
  | .screen id snapshot => .ofEntries ((.text "session_id", .text id) :: snapshot.toEntries)
  | .finished id => .ofEntries [(.text "session_id", .text id), (.text "ended", .bool true)]

def detail (text : String) : Body :=
  .json (.ofEntries [(.text "detail", .text text)])

namespace Problem

def status : Problem → Nat
  | .notFound | .unknownSession _ => 404
  | .methodNotAllowed => 405
  | .invalid => 422
  | .noOption _ => 400
  | .fault _ | .endless => 500

def failureText : String := "Internal Server Error"

-- Faults of the script are told to the client, all others are not.
def body : Problem → Body
  | .notFound => detail "Not Found"
  | .methodNotAllowed => detail "Method Not Allowed"
  | .invalid => .fields
  | .unknownSession id => detail ("unknown session " ++ id)
  | .noOption index => detail ("no option " ++ toString index)
  | .fault f =>
    match f.reported.scriptName? with
    | some name => .json (.ofEntries [
        (.text "error", .text name), (.text "detail", .text (f.message?.getD ""))])
    | none => .text failureText
  | .endless => .text failureText

end Problem

namespace Response

def of : Except Problem Answer → Response
  | .ok answer => ⟨200, .json answer.body⟩
  | .error problem => ⟨problem.status, problem.body⟩

/-- The response as it is sent. What cannot be sent is a failure. -/
def sent (r : Response) : Response :=
  match r.body with
  | .json v =>
    if v.isSendable then { r with body := .json v.finite } else ⟨500, .text Problem.failureText⟩
  | _ => r

def headOnly (r : Response) : Response :=
  { r with body := .text "" }

end Response

/-- Responds to a request. Who asks for the head alone gets no body. -/
def respond (intake : Intake) (s : Service) (fresh : Fresh) (r : Request) : Response × Service :=
  let (answer, s) := s.answer intake fresh r
  let response := (Response.of answer).sent
  (if r.verb = "HEAD" then response.headOnly else response, s)

end Api

end Gamebook
