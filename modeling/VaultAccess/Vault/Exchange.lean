import VaultAccess.Fault
import VaultAccess.Json.Decode

/-!
# Requests and responses

A request names a method and a path below the server's root. A response with any status is an
answer; whether it is a success is for the asker to say.
-/
namespace VaultAccess.Vault

open Decode Json

inductive Method where
  | list
  | get
  | post
  deriving DecidableEq, Repr

def Method.name : Method → String
  | list => "LIST"
  | get => "GET"
  | post => "POST"

/-- What the vault is asked. -/
structure Request where
  method : Method
  path : String
  query : List (String × String)
  body : Option Json
  deriving Repr

namespace Request

def list (path : String) : Request := ⟨.list, path, [], none⟩

def get (path : String) : Request := ⟨.get, path, [], none⟩

def post (path : String) (body : Json) : Request := ⟨.post, path, [], some body⟩

end Request

/-- What the vault answers: a status and a JSON body, null if there is none. -/
structure Response where
  status : Nat
  body : Json
  deriving Repr

namespace Response

/-- Whether the status lies between 200 and 299. -/
def isSuccess (r : Response) : Bool := 200 ≤ r.status && r.status < 300

/-- The messages of a body that lists errors. -/
def readErrors : Json → Except Mismatch (List String) :=
  dialect.ofRecord "struct ErrorResponse" <|
    Record.start (fun (errors : List String) => errors)
      |>.field (withDefault "errors" [] dialect.textList)

/-- The messages of a response: its text, or the errors that its body lists. -/
def errorMessages (r : Response) : List String :=
  match r.body with
  | .str text => if text = "" then [] else [text]
  | body =>
    match readErrors body with
    | .ok errors => errors
    | .error _ => []

/-- The fault that an error status stands for. -/
def fault (r : Response) : Fault :=
  match r.errorMessages with
  | [] => .transport (some r.status) "no error detail returned"
  | messages => .transport (some r.status) ("; ".intercalate messages)

/-- The response, if it is a success. -/
def requireSuccess (r : Response) : Except Fault Response :=
  if r.isSuccess then .ok r else .error r.fault

/-- The value that the body of a success holds. A null body counts as an empty object. -/
def read {α : Type} (decode : Json → Except Mismatch α) (r : Response) : Except Fault α :=
  match r.requireSuccess with
  | .error e => .error e
  | .ok r =>
    let body := match r.body with
      | .null => .obj []
      | body => body
    match decode body with
    | .ok a => .ok a
    | .error m => .error (.payload m.message)

end Response

end VaultAccess.Vault
