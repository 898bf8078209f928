import AdminConsole.Records.Flatten
import AdminConsole.Records.Query
import AdminConsole.Ui.Feedback

/-!
# Pages/Records — records of an entity

The page runs a query, which can be edited as JSON, and shows the records it finds as a table and
one by one. A record can be deleted after a confirmation.
-/

namespace AdminConsole.Pages.Records

open Page

variable {σ : Type}

/-- What is noted when deleting a record waits for a confirmation. -/
def deleteKey : String := "records_confirm_delete"

/-- Where the query for an entity is noted. -/
def queryKey (entity : Value) : String := "records_query_" ++ entity.plain

/-- Notes the first query for an entity, if none is noted. -/
def ensureQuery (entity : Value) : Page σ Unit := do
  if ((← session).note? (queryKey entity)).isNone then
    let limit ← setting "ui" "default_query_limit" Query.defaultLimit
    let text ← ofResult (Json.editable (Query.build entity limit))
    setNote (queryKey entity) (.text text)

/-- The query that is noted, or what is wrong with it. -/
def readQuery (noted : Value) : Except Fault (Except String Value) :=
  match noted with
  | .text s => Query.read s
  | v => .error (.mishap (.other "TypeError"
      ("the JSON object must be str, bytes or bytearray, not " ++ v.kindName)))

/-- Deletes a record. -/
def delete (entity id : Value) : Page σ Unit := do
  match ← ask (.deleteRecord entity.plain id.plain) with
  | .error e => notify .error ("Failed to delete \"" ++ id.plain ++ "\": " ++ e.message)
  | .ok () => notify .success ("Entity \"" ++ id.plain ++ "\" deleted")

/-- The member `id` of a record; only an object has members. -/
def idOf (record : Value) : Except Fault Value :=
  match record with
  | .map es => .ok ((Entries.get? (.text "id") es).getD .null)
  | v => .error (.noAttribute v "get")

/-- The buttons that delete a record with an id. -/
def deleteButtons (entity id : Value) : Page σ Unit := do
  if ← pressed ((Widget.button "🗑️ Delete").keyed
      ("records_delete_" ++ entity.plain ++ "_" ++ id.plain)) then setNote deleteKey id
  if (← note deleteKey).same id then
    match ← confirmed? { key := "records_delete_" ++ id.plain, confirm := "Delete" } with
    | none => pure ()
    | some yes =>
      setNote deleteKey .null
      if yes then delete entity id
      rerun

/-- One record, the `index`-th from zero. -/
def document (entity : Value) (index : Nat) (record : Value) : Page σ Unit := do
  let id ← ofResult (idOf record)
  let title := if id.truthy then id.plain else "Document " ++ Decimal.intText (index + 1)
  display (.expander title)
  display (.json record)
  if id.truthy then deleteButtons entity id

/-- The records one by one, from the `index`-th on. -/
def documents (entity : Value) (index : Nat) : List Value → Page σ Unit
  | [] => pure ()
  | record :: rest => do
    document entity index record
    documents entity (index + 1) rest

/-- The records that a query finds. -/
def results (entity query : Value) : Page σ Unit := do
  match ← load (.queryRecords query) with
  | .error _ => display (.error "❌ Error while executing query")
  | .ok records =>
    display (.caption (.text (Decimal.intText records.length ++ " documents")))
    display (.tabs ["Table", "Documents"])
    display (.dataTable (← ofResult (Records.table records)))
    documents entity 0 records

/-- **The page of records.** -/
def page : Page σ Unit := do
  display (.header (.text "📄 Records"))
  match ← load Call.listEntityTypes with
  | .error e => reportIn "loading entity types" (.console e)
  | .ok [] => display (.info "📁 No entity types yet.")
  | .ok types =>
    let options := types.map fun t => Value.text t.id
    let entity ← selected ((Widget.selectBox "Entity type").keyed "records_entity_select") options 0
    ensureQuery entity
    display (.expander "🔎 Query")
    let _ ← typed ((Widget.textArea "Query (JSON)").keyed (queryKey entity) |>.height 220)
      (.text "")
    match ← ofResult (readQuery (← note (queryKey entity))) with
    | .error message => showValidation (.texts [message])
    | .ok query => results entity query

end AdminConsole.Pages.Records
