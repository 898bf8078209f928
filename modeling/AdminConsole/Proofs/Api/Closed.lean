import AdminConsole.Api.Named
import AdminConsole.Proofs.Faults
import Mathlib.Tactic.SplitIfs

/-!
# Proofs/Api/Closed — which faults a call can end with

A call is *closed* if it can only end with an answer or with one of the client's errors: a refusal,
a server out of reach, an answer of the wrong shape.  Each step of a call is closed or says what it
asks for:

* a request must be possible, and what the wire returns must be a failure of transport or an answer
  whose head and body can be read (`closed_send_iff`);
* the value in the answer must have a shape that the call reads.  All calls refuse a wrong one with a
  client error but two: the schema of an entity and the list of entity types
  (`closed_read_iff`).

Together they say exactly which calls are closed (`closed_run_iff`).
-/

namespace AdminConsole

/-- Whether a fault is one of the client's own errors. -/
def Fault.isClientError : Fault → Bool
  | .console (.api ..) | .console (.connection ..) | .console (.format ..) => true
  | _ => false

/-- **A result without a fault** that is no client error. -/
abbrev Closed {α : Type} (result : Except Fault α) : Prop := FaultsPass Fault.isClientError result

section Closed

variable {α : Type}

/-- A mishap is no client error. -/
theorem isClientError_of_mishap {result : Except Fault α} {f : Fault}
    (h : FaultsPass Fault.isMishap result) (hf : result = .error f) : f.isClientError = false := by
  cases f with
  | mishap m => rfl
  | _ => exact absurd (h _ hf) nofun

/-- A closed result that can only fail with a mishap does not fail. -/
theorem exists_ok_of_closed {result : Except Fault α} (h : FaultsPass Fault.isMishap result)
    (closed : Closed result) : ∃ a, result = .ok a := by
  cases result with
  | ok a => exact ⟨a, rfl⟩
  | error f => exact absurd (closed f rfl) (by simp [isClientError_of_mishap h rfl])

end Closed

/-! ## Reading the body of an answer -/

/-- No part of a JSON text goes beyond the limits of the reader. -/
def WithinLimits (text : String) : Prop := ∀ m, Json.read text ≠ .error (.mishap m)

/-- The body of an answer is a text, and within the limits if it is JSON. -/
def Legible (r : Http.Response) : Prop :=
  r.status = 204 ∨ ∃ text, r.text = .ok text ∧ WithinLimits text

theorem withinLimits_empty : WithinLimits "" := by
  intro m h
  have malformed : Json.read "" = .error (.malformed .expectingValue []) := rfl
  rw [malformed] at h
  cases h

theorem withinLimits_null : WithinLimits "null" := by
  intro m h
  have null : Json.read "null" = .ok .null := rfl
  rw [null] at h
  cases h

namespace Client

theorem closed_readText_iff {text : String} : Closed (readText text) ↔ WithinLimits text := by
  unfold readText WithinLimits
  split
  · next h => simp [h, faultsPass_ok]
  · next h => simp [h, faultsPass_ok]
  · next m h => simp [h, faultsPass_error_iff, Fault.isClientError]

theorem closed_refusalData_iff {text : String} :
    Closed (refusalData text) ↔ WithinLimits text := by
  unfold refusalData
  split_ifs with hempty
  · obtain rfl : text = "" := String.isEmpty_iff.mp hempty
    exact iff_of_true (faultsPass_ok _) withinLimits_empty
  · unfold WithinLimits
    split
    · next h => simp [h, faultsPass_ok]
    · next h => simp [h, faultsPass_ok]
    · next h => simp [h, faultsPass_ok]
    · next m h => simp [h, faultsPass_error_iff, Fault.isClientError]

theorem closed_readBody_iff {method path text : String} {r : Http.Response} :
    Closed (readBody method path r text) ↔ WithinLimits text := by
  unfold readBody
  split_ifs with hsuccess hempty
  · obtain rfl : text = "" := String.isEmpty_iff.mp hempty
    exact iff_of_true (faultsPass_ok _) withinLimits_empty
  · exact closed_readText_iff
  · rw [← closed_refusalData_iff]
    cases refusalData text with
    | ok data => exact iff_of_true (faultsPass_error_iff.mpr rfl) (faultsPass_ok data)
    | error f => exact faultsPass_error_iff.trans faultsPass_error_iff.symm

/-- **Reading an answer** is closed exactly if its body can be read. -/
theorem closed_readResponse_iff {method path : String} {r : Http.Response} :
    Closed (readResponse method path r) ↔ Legible r := by
  unfold readResponse Legible
  split_ifs with hstatus
  · exact iff_of_true (faultsPass_ok _) (.inl hstatus)
  · cases htext : r.text with
    | ok text => simp [hstatus, closed_readBody_iff]
    | error m => simp [hstatus, faultsPass_error_iff, Fault.isClientError]

end Client

/-! ## Requests -/

namespace Json

theorem faultsPass_checkScalar (strict : Bool) (s : Scalar) :
    FaultsPass Fault.isMishap (checkScalar strict s) := by
  unfold checkScalar
  split
  · split_ifs
    · exact faultsPass_error_iff.mpr rfl
    · exact faultsPass_ok ()
  · exact faultsPass_error_iff.mpr rfl
  · exact faultsPass_error_iff.mpr rfl
  · exact faultsPass_error_iff.mpr rfl
  · exact faultsPass_ok ()

theorem faultsPass_checkKey (strict : Bool) (k : Scalar) :
    FaultsPass Fault.isMishap (checkKey strict k) := by
  unfold checkKey
  split
  · exact faultsPass_error_iff.mpr rfl
  · exact faultsPass_error_iff.mpr rfl
  · exact faultsPass_error_iff.mpr rfl
  · exact faultsPass_checkScalar strict k

mutual

/-- What has no JSON text is a mishap. -/
theorem faultsPass_checkValue (strict : Bool) : ∀ v : Value,
    FaultsPass Fault.isMishap (checkValue strict v)
  | .scalar s => faultsPass_checkScalar strict s
  | .list xs => faultsPass_checkItems strict xs
  | .map es => faultsPass_checkMembers strict es
  | .set _ => faultsPass_error_iff.mpr rfl
  | .enclosing _ => faultsPass_error_iff.mpr rfl

theorem faultsPass_checkItems (strict : Bool) : ∀ xs : List Value,
    FaultsPass Fault.isMishap (checkItems strict xs)
  | [] => faultsPass_ok ()
  | x :: rest => faultsPass_bind_iff.mpr
      ⟨faultsPass_checkValue strict x, fun _ _ => faultsPass_checkItems strict rest⟩

theorem faultsPass_checkMembers (strict : Bool) : ∀ es : List (Scalar × Value),
    FaultsPass Fault.isMishap (checkMembers strict es)
  | [] => faultsPass_ok ()
  | (k, v) :: rest => faultsPass_bind_iff.mpr ⟨faultsPass_checkKey strict k, fun _ _ =>
      faultsPass_bind_iff.mpr
        ⟨faultsPass_checkValue strict v, fun _ _ => faultsPass_checkMembers strict rest⟩⟩

end

theorem faultsPass_body (v : Value) : FaultsPass Fault.isMishap (body v) :=
  faultsPass_bind_iff.mpr ⟨faultsPass_checkValue true v, fun _ _ => faultsPass_ok _⟩

end Json

theorem faultsPass_mapError {α : Type} (result : Except Mishap α) :
    FaultsPass Fault.isMishap (result.mapError .mishap) := by
  cases result with
  | ok a => exact faultsPass_ok a
  | error m => exact faultsPass_error_iff.mpr rfl

namespace Client

theorem faultsPass_requestTo (address : Http.Address) (method : String) (cookie : Option String)
    (payload : Value) : FaultsPass Fault.isMishap (requestTo address method cookie payload) := by
  unfold requestTo
  split_ifs
  · exact faultsPass_ok _
  · exact faultsPass_map_iff.mpr (Json.faultsPass_body payload)

/-- **A request that is not possible** is a mishap. -/
theorem faultsPass_request (c : Client) (method path : String) (payload : Value) :
    FaultsPass Fault.isMishap (c.request method path payload) :=
  faultsPass_bind_iff.mpr ⟨faultsPass_mapError _, fun address _ =>
    faultsPass_bind_iff.mpr ⟨faultsPass_mapError _, fun cookie _ =>
      faultsPass_bind_iff.mpr ⟨faultsPass_requestTo address method cookie payload, fun _ _ =>
        faultsPass_bind_iff.mpr ⟨faultsPass_mapError _, fun _ _ => faultsPass_ok _⟩⟩⟩⟩

/-- A path with a control character cannot be asked for. -/
theorem request_of_forbidden {path : String} (h : ∃ c ∈ path.toList, Http.Address.isForbidden c)
    (c : Client) (method : String) (payload : Value) :
    ∃ text, c.request method path payload = .error (.mishap (.badAddress text)) := by
  obtain ⟨text, hread⟩ : ∃ text, Http.Address.read path = .error (.badAddress text) := by
    unfold Http.Address.read
    split_ifs with hlength
    · exact ⟨_, rfl⟩
    · obtain ⟨d, hd⟩ : ∃ d, path.toList.find? Http.Address.isForbidden = some d :=
        Option.isSome_iff_exists.mp (List.find?_isSome.mpr h)
      simp only [Http.Address.checkChars, hd]
      exact ⟨_, rfl⟩
  refine ⟨text, ?_⟩
  rw [request, Http.Address.join, hread]
  rfl

/-! ## Sending -/

/-- What a wire may return: a failure of transport, or an answer whose head can be read, and its
body too unless it points to a place that cannot be read. -/
def Settled (c : Client) (address : Http.Address) : Except Mishap Http.Response → Prop
  | .error m => m.isTransport = true
  | .ok r => (∃ c', c.received address r = .ok c') ∧
      (∀ m, r.checkRedirect address = .error m → m.isTransport = true) ∧
      (r.checkRedirect address = .ok () → Legible r)

theorem isClientError_wireFault (method path : String) (m : Mishap) :
    (wireFault method path m).isClientError = m.isTransport := by
  unfold wireFault
  split_ifs with h
  · exact h.symm
  · exact (Bool.not_eq_true _ ▸ h : m.isTransport = false).symm

/-- **A sent request** is closed exactly if it is possible and what the wire returns is settled. -/
theorem closed_send_iff {σ : Type} {wire : Http.Wire σ} {c : Client} {method path : String}
    {payload : Value} {st : σ} : Closed (c.send wire method path payload st).1 ↔
      ∃ address request, c.request method path payload = .ok (address, request) ∧
        c.Settled address (wire request st).1 := by
  unfold send
  cases hrequest : c.request method path payload with
  | error f =>
      have hf := isClientError_of_mishap (c.faultsPass_request method path payload) hrequest
      simp [faultsPass_error_iff, hf]
  | ok sent =>
      obtain ⟨address, request⟩ := sent
      have hsettled : (∃ address' request', (Except.ok (address, request) : Except Fault _) =
          .ok (address', request') ∧ c.Settled address' (wire request' st).1) ↔
          c.Settled address (wire request st).1 :=
        ⟨fun ⟨_, _, h, hs⟩ => by cases h; exact hs, fun hs => ⟨_, _, rfl, hs⟩⟩
      rw [hsettled]
      obtain ⟨⟨answer, st'⟩, hwire⟩ : ∃ returned, wire request st = returned := ⟨_, rfl⟩
      cases answer with
      | error m => simp [hwire, faultsPass_error_iff, isClientError_wireFault, Settled]
      | ok r =>
          cases hreceived : c.received address r with
          | error m =>
              simp [hwire, hreceived, faultsPass_error_iff, Settled, Fault.isClientError]
          | ok c' =>
              cases hredirect : r.checkRedirect address with
              | error m =>
                  simp [hwire, hreceived, hredirect, faultsPass_error_iff,
                    isClientError_wireFault, Settled]
              | ok u => simp [hwire, hreceived, hredirect, closed_readResponse_iff, Settled]

end Client

/-! ## Reading what was asked for -/

namespace EntityType

/-- What a list of entity types may hold: nothing, or something to walk through, the texts in which
are within the limits. -/
def Listed (entities : Value) : Prop :=
  entities.truthy = true → ∃ raws, entities.sequence? = some raws ∧
    ∀ s, .text s ∈ raws → WithinLimits s

theorem closed_document_text_iff {s : String} :
    Closed (document (.text s)) ↔ WithinLimits s := by
  unfold document WithinLimits
  simp only
  split
  · next h => simp [h, faultsPass_ok]
  · next h => simp [h, faultsPass_ok]
  · next m h => simp [h, faultsPass_error_iff, Fault.isClientError]

theorem faultsPass_document (raw : Value) : FaultsPass Fault.isMishap (document raw) := by
  unfold document
  split
  · split
    · exact faultsPass_ok _
    · exact faultsPass_ok _
    · exact faultsPass_error_iff.mpr rfl
  · exact faultsPass_ok _

theorem closed_ofEntry_iff {raw : Value} :
    Closed (ofEntry raw) ↔ ∀ s, raw = .text s → WithinLimits s := by
  unfold ofEntry
  split_ifs with hskipped
  · refine iff_of_true (faultsPass_ok _) ?_
    rintro s rfl
    simp only [Value.truthy, Bool.not_not, Bool.or_eq_true, beq_iff_eq, Value.scalar.injEq,
      Scalar.text.injEq, String.isEmpty_iff] at hskipped
    rcases hskipped with rfl | rfl
    · exact withinLimits_empty
    · exact withinLimits_null
  · refine (faultsPass_bind_iff.trans (and_iff_left fun v _ => ?_)).trans ?_
    · split
      · exact faultsPass_ok _
      · exact faultsPass_ok _
    · cases raw with
      | scalar s =>
          cases s with
          | text t => exact closed_document_text_iff.trans (by simp)
          | _ => exact iff_of_true (faultsPass_ok _) (by simp)
      | _ => exact iff_of_true (faultsPass_ok _) nofun

theorem faultsPass_ofEntry (raw : Value) : FaultsPass Fault.isMishap (ofEntry raw) := by
  unfold ofEntry
  split_ifs
  · exact faultsPass_ok _
  · refine faultsPass_bind_iff.mpr ⟨faultsPass_document raw, fun v _ => ?_⟩
    split
    · exact faultsPass_ok _
    · exact faultsPass_ok _

theorem closed_ofEntries_iff : ∀ {raws : List Value},
    Closed (ofEntries raws) ↔ ∀ s, .text s ∈ raws → WithinLimits s
  | [] => iff_of_true (faultsPass_ok []) nofun
  | raw :: rest => by
      rw [ofEntries]
      simp only [List.mem_cons, or_imp, forall_and, eq_comm (b := raw)]
      rw [← closed_ofEntries_iff, ← closed_ofEntry_iff]
      refine faultsPass_bind_iff.trans ⟨fun ⟨hclosed, hrest⟩ => ⟨hclosed, ?_⟩,
        fun ⟨hclosed, hrest⟩ => ⟨hclosed, fun t _ => ?_⟩⟩
      · obtain ⟨t, ht⟩ := exists_ok_of_closed (faultsPass_ofEntry raw) hclosed
        exact (faultsPass_bind_iff.mp (hrest t ht)).1
      · exact faultsPass_bind_iff.mpr ⟨hrest, fun _ _ => faultsPass_ok _⟩

theorem closed_ofListing_iff {payload : Value} : Closed (ofListing payload) ↔
    (payload.isMap = true → Listed ((payload.member? "entities").getD .null)) := by
  unfold ofListing Listed
  cases payload with
  | map es =>
      simp only [Value.isMap, true_imp_iff, Value.orElse]
      split_ifs with htruthy
      · simp only [htruthy, true_imp_iff]
        cases hraws : (((Value.map es).member? "entities").getD Value.null).sequence? with
        | none => simp [faultsPass_error_iff, Fault.notIterable, Fault.isClientError]
        | some raws => simp [closed_ofEntries_iff]
      · exact iff_of_true (faultsPass_ok _) fun h => absurd h htruthy
  | _ => exact iff_of_true (faultsPass_ok _) nofun

end EntityType

namespace Call

theorem closed_readRecord {α : Type} (check : Value → Except Invalid α) (method path : String)
    (v : Value) : Closed (readRecord check method path v) := by
  unfold readRecord
  split
  · exact faultsPass_ok _
  · exact faultsPass_error_iff.mpr rfl

theorem closed_readRecords {α : Type} (check : Value → Except Invalid α) (method path : String)
    (v : Value) : Closed (readRecords check method path v) := by
  unfold readRecords
  split
  · exact faultsPass_mapM fun row _ => closed_readRecord check method path row
  · exact faultsPass_error_iff.mpr rfl

theorem closed_readUsers (v : Value) : Closed (readUsers v) := by
  unfold readUsers
  split
  · exact closed_readRecords _ _ _ _
  · exact faultsPass_error_iff.mpr rfl

/-- The schema of an entity is read from an object. -/
theorem closed_ofWire_iff {v entity : Value} :
    Closed (SchemaTree.ofWire (v.orElse .empty) entity) ↔ (v.truthy = true → v.isMap = true) := by
  unfold Value.orElse
  split_ifs with htruthy
  · cases v <;> simp [SchemaTree.ofWire, htruthy, faultsPass_ok, faultsPass_error_iff, Value.isMap,
      Fault.noAttribute, Fault.isClientError]
  · exact iff_of_true (faultsPass_ok _) fun h => absurd h htruthy

/-- The shapes that the two lenient calls ask for. -/
def Shaped (name : String) (v : Value) : Prop :=
  (name = "load_schema" → v.truthy = true → v.isMap = true) ∧
    (name = "list_entity_types" → v.isMap = true →
      EntityType.Listed ((v.member? "entities").getD .null))

theorem shaped_of_ne {name : String} (hs : name ≠ "load_schema") (he : name ≠ "list_entity_types")
    (v : Value) : Shaped name v := ⟨fun h => absurd h hs, fun h => absurd h he⟩

/-- **Reading an answer** is closed exactly if it has the shape that the call asks for. -/
theorem closed_read_iff {name : String} {a b c : Value} {call : Call Value}
    (h : ofName name a b c = .ok call) {v : Value} : Closed (call.read v) ↔ Shaped name v := by
  unfold ofName at h
  split at h
  case h_4 =>
    obtain rfl := Except.ok.inj h
    refine (faultsPass_map_iff.trans EntityType.closed_ofListing_iff).trans ?_
    simp [Shaped]
  case h_5 =>
    obtain rfl := Except.ok.inj h
    refine (faultsPass_map_iff.trans closed_ofWire_iff).trans ?_
    simp [Shaped]
  case h_13 =>
    refine iff_of_true ?_ (shaped_of_ne (by simp) (by simp) v)
    cases hflags : c.toMapping with
    | ok flags =>
        rw [hflags] at h
        obtain rfl := Except.ok.inj h
        exact faultsPass_ok _
    | error f =>
        rw [hflags] at h
        cases h
  case h_25 => cases h
  -- a call that reads records, or whose answer does not matter
  all_goals
    obtain rfl := Except.ok.inj h
    refine iff_of_true ?_ (shaped_of_ne (by simp) (by simp) v)
    first
    | exact faultsPass_ok _
    | exact faultsPass_map_iff.mpr (closed_readRecords _ _ _ _)
    | exact faultsPass_map_iff.mpr (closed_readRecord _ _ _ _)
    | exact faultsPass_map_iff.mpr (closed_readUsers _)

theorem exists_ofName_of_named {name : String} {args : List Value} {call : Call Value}
    (h : named name args = .ok call) : ∃ a b c, ofName name a b c = .ok call := by
  unfold named at h
  split at h
  · split_ifs at h
    exact ⟨_, _, _, h⟩
  · cases h

/-! ## Making a call -/

section Run

variable {σ : Type} (wire : Http.Wire σ) (c : Client) (st : σ)

/-- A call is closed exactly if sending it is, and then reading what was answered. -/
theorem closed_run_iff_send {α : Type} (call : Call α) : Closed (call.run wire c st).1 ↔
    Closed (c.send wire call.method call.path call.payload st).1 ∧
      ∀ v, (c.send wire call.method call.path call.payload st).1 = .ok v → Closed (call.read v) :=
  faultsPass_bind_iff

/-- **A control character in the path** is no client error, whatever the wire would return. -/
theorem not_closed_of_forbidden {α : Type} {call : Call α}
    (h : ∃ ch ∈ call.path.toList, Http.Address.isForbidden ch) :
    ¬ Closed (call.run wire c st).1 := by
  intro closed
  obtain ⟨_, _, hrequest, -⟩ :=
    Client.closed_send_iff.mp ((closed_run_iff_send wire c st call).mp closed).1
  obtain ⟨text, hfault⟩ := Client.request_of_forbidden h c call.method call.payload
  rw [hfault] at hrequest
  cases hrequest

/-- **Which calls are closed.**  A call by name ends with an answer or a client error exactly if

* its request is possible, and the wire returns a failure of transport, or an answer with a head and
  a body that can be read;
* the value in the answer is an object, or counts as empty, where the schema of an entity was asked
  for; and where the entity types were asked for, an object lists them in something that can be
  walked through, with no text that goes beyond the limits of the reader.

No other value in an answer, to any call, ends with another fault. -/
theorem closed_run_iff {name : String} {args : List Value} {call : Call Value}
    (h : named name args = .ok call) : Closed (call.run wire c st).1 ↔
      (∃ address request, c.request call.method call.path call.payload = .ok (address, request) ∧
        c.Settled address (wire request st).1) ∧
      ∀ v, (c.send wire call.method call.path call.payload st).1 = .ok v → Shaped name v := by
  obtain ⟨_, _, _, hname⟩ := exists_ofName_of_named h
  simp only [closed_run_iff_send, Client.closed_send_iff, closed_read_iff hname]

end Run

/-- A client of a server at the root of its host. -/
def rootClient : Client :=
  { address := "http://elysian.test", base := { scheme := "http", host := "elysian.test" } }

/-- A wire that answers every request with the same body. -/
def answering (body : String) : Http.Wire Unit := fun _ st =>
  (.ok { status := 200, body := body.toUTF8.toList }, st)

/-- The call for the schema of `orders`. -/
def ordersSchema : Call Value := (loadSchema (.text "orders")).withAnswer SchemaTree.parts

/-- An empty object is a schema. -/
theorem closed_run_iff_ordersSchema :
    named "load_schema" [.text "orders"] = .ok ordersSchema ∧
    (∃ address request, rootClient.request ordersSchema.method ordersSchema.path
        ordersSchema.payload = .ok (address, request) ∧
      rootClient.Settled address (answering "\x7b\x7d" request ()).1) ∧
    ∀ v, (rootClient.send (answering "\x7b\x7d") ordersSchema.method ordersSchema.path
      ordersSchema.payload ()).1 = .ok v → Shaped "load_schema" v := by
  have name : named "load_schema" [.text "orders"] = .ok ordersSchema := rfl
  have closed : Closed (ordersSchema.run (answering "\x7b\x7d") rootClient ()).1 := by
    decide +kernel
  exact ⟨name, (closed_run_iff (answering "\x7b\x7d") rootClient () name).mp closed⟩

/-- **A list where a schema was asked for** ends with another fault, while the call for the accounts
makes a client error of it. -/
theorem list_instead_of_schema :
    named "load_schema" [.text "orders"] = .ok ordersSchema ∧
    ¬ Closed (ordersSchema.run (answering "[1]") rootClient ()).1 ∧
    Closed (listUsers.run (answering "[1]") rootClient ()).1 :=
  ⟨rfl, by decide +kernel, by decide +kernel⟩

end Call

end AdminConsole
