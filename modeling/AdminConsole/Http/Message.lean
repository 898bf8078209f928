import AdminConsole.Fault.Mishap

/-!
# Http/Message — requests and answers

A request as it is sent, and an answer as it arrives; whatever sends the one for the other may keep
a state.
-/

namespace AdminConsole.Http

/-- A request. -/
structure Request where
  method : String
  url : String
  body : Option String := none
  contentType : Option String := none
  accept : String := "application/json"
  cookie : Option String := none
  deriving DecidableEq, Repr, Inhabited

/-- An answer: its status, its headers, and the bytes of its body. -/
structure Response where
  status : Int
  headers : List (String × String) := []
  body : List UInt8 := []
  deriving DecidableEq, Repr, Inhabited

namespace Response

/-- The values of a header, whose name is not case-sensitive, in their order. -/
def headers? (r : Response) (name : String) : List String :=
  (r.headers.filter fun (n, _) => n.toLower == name).map Prod.snd

/-- The value of a header; several ones are a list. -/
def header? (r : Response) (name : String) : Option String :=
  match r.headers? name with
  | [] => none
  | values => some (joinTexts ", " values)

/-- Refuses a text of a header that is not ASCII. -/
def checkHeader (text : String) : Except Mishap Unit :=
  match text.toList.find? fun c => 128 ≤ c.toNat with
  | some c =>
    .error (.badHeader ("'ascii' codec can't encode character "
      ++ Text.quoted (String.ofList [c]) ++ " in position "
      ++ Decimal.natText (text.toList.takeWhile (·.toNat < 128)).length
      ++ ": ordinal not in range(128)"))
  | none => .ok ()

/-- Refuses headers that are not ASCII. -/
def checkHeaders (r : Response) : Except Mishap Unit :=
  r.headers.forM fun (name, value) => do
    checkHeader name
    checkHeader value

/-- Whether the status is one of the two hundreds. -/
def isSuccess (r : Response) : Bool := 200 ≤ r.status && r.status ≤ 299

end Response

/-- Whatever answers requests, with a state `σ` of its own. -/
abbrev Wire (σ : Type) := Request → σ → Except Mishap Response × σ

end AdminConsole.Http
