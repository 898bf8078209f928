import AdminConsole.Api.Named
import AdminConsole.Proofs.Http.Joined

/-!
# Proofs/Api/Confined — which resource a call reaches

Every call that takes identifiers has a template for its path (`Call.template?`), and writes the
identifiers between the slashes as they are (`Call.path_of_ofName`).  So a request reaches the
resource of its template exactly if each identifier stays one segment: see `requests_confined`.  An
identifier with a slash reaches another resource: permissions of an entity that is named like the
defaults of another are written over the defaults of that other one.
-/

namespace AdminConsole

open Http.Address

/-! ## Templates -/

namespace Call

/-- A part of a path: fixed, or the first or the second argument of a call. -/
inductive Part where
  | fixed (text : String)
  | first
  | second
  deriving DecidableEq, Repr

/-- The text of a part. -/
def Part.text (a b : Value) : Part → String
  | fixed text => text
  | first => a.plain
  | second => b.plain

/-- **The path of each call that takes identifiers**, part by part. -/
def template? : String → Option (List Part)
  | "load_schema" => some [.fixed "api", .first, .fixed "schema"]
  | "replace_schema" => some [.fixed "api", .first, .fixed "schema"]
  | "create_entity_type" => some [.fixed "api", .first, .fixed "create"]
  | "drop_entity_type" => some [.fixed "api", .first]
  | "delete_record" => some [.fixed "api", .first, .second]
  | "load_acl_entries" => some [.fixed "api", .fixed "acl", .first]
  | "load_permissions" => some [.fixed "api", .fixed "acl", .first]
  | "write_permissions" => some [.fixed "api", .fixed "acl", .first, .second]
  | "reset_permissions" => some [.fixed "api", .fixed "acl", .first, .second, .fixed "default"]
  | "list_hooks" => some [.fixed "api", .fixed "hook", .first]
  | "load_hook" => some [.fixed "api", .fixed "hook", .fixed "id", .first]
  | "create_hook" => some [.fixed "api", .fixed "hook", .first]
  | "save_hook" => some [.fixed "api", .fixed "hook", .fixed "id", .first]
  | "delete_hook" => some [.fixed "api", .fixed "hook", .fixed "id", .first]
  | "change_user_password" =>
    some [.fixed "api", .fixed "security", .fixed "user", .first, .fixed "password"]
  | "change_user_role" =>
    some [.fixed "api", .fixed "security", .fixed "user", .first, .fixed "role"]
  | "delete_user" => some [.fixed "api", .fixed "security", .fixed "user", .first]
  | _ => none

/-- The texts of a template. -/
def texts (a b : Value) (parts : List Part) : List String := parts.map (Part.text a b)

/-- **The path of a call is its template**, with the arguments as they are. -/
theorem path_of_ofName {name : String} {a b d : Value} {call : Call Value} {parts : List Part}
    (hcall : ofName name a b d = .ok call) (hparts : template? name = some parts) :
    call.path = String.ofList ('/' :: slashed (texts a b parts)) := by
  unfold template? at hparts
  split at hparts
  case h_8 =>
    obtain ⟨flags, -, rfl⟩ : ∃ flags, d.toMapping = .ok flags ∧
        (writePermissions a.plain b.plain flags).silent = call := by
      cases hflags : d.toMapping with
      | error f => simp [ofName, hflags, Except.map] at hcall
      | ok flags => exact ⟨flags, rfl, by simpa [ofName, hflags, Except.map] using hcall⟩
    obtain rfl := Option.some.inj hparts
    refine String.toList_inj.mp ?_
    simp [slashed, joinTexts, texts, Part.text, writePermissions, command, silent, withAnswer]
  case h_18 => cases hparts
  all_goals
    obtain rfl := Option.some.inj hparts
    obtain rfl := Except.ok.inj hcall
    refine String.toList_inj.mp ?_
    simp [slashed, joinTexts, texts, Part.text, command, silent, withAnswer, listing, loadSchema,
      replaceSchema, createEntityType, dropEntityType, deleteRecord, loadAccess, loadPermissions,
      resetPermissions, listHooks, loadHook, createHook, saveHook, deleteHook, changePassword,
      changeRole, deleteUser, usersPath]

/-- The identifier that a part stands for. -/
def Part.identifier? (a b : Value) : Part → Option String
  | fixed _ => none
  | first => some a.plain
  | second => some b.plain

/-- The identifiers in a template. -/
def identifiers (a b : Value) (parts : List Part) : List String :=
  parts.filterMap (Part.identifier? a b)

/-- Whether a part is a segment whatever the arguments are, if it is fixed. -/
def Part.Proper : Part → Prop
  | fixed text => IsSegment text
  | _ => True

instance : DecidablePred Part.Proper
  | .fixed text => inferInstanceAs (Decidable (IsSegment text))
  | .first => inferInstanceAs (Decidable True)
  | .second => inferInstanceAs (Decidable True)

/-- The shape of a template. -/
theorem shape_of_template {name : String} {parts : List Part} (h : template? name = some parts) :
    parts.head? = some (.fixed "api") ∧ 2 ≤ parts.length ∧ ∀ p ∈ parts, p.Proper := by
  unfold template? at h
  split at h
  case h_18 => cases h
  all_goals
    obtain rfl := Option.some.inj h
    decide +kernel

/-- The texts of a template are segments exactly if its identifiers are. -/
theorem forall_isSegment_texts_iff {a b : Value} : ∀ {parts : List Part},
    (∀ p ∈ parts, p.Proper) →
      ((∀ t ∈ texts a b parts, IsSegment t) ↔ ∀ id ∈ identifiers a b parts, IsSegment id)
  | [], _ => Iff.rfl
  | p :: parts, h => by
      rw [List.forall_mem_cons] at h
      have ih := forall_isSegment_texts_iff (a := a) (b := b) h.2
      cases p with
      | fixed text => exact List.forall_mem_cons.trans ((and_iff_right h.1).trans ih)
      | first =>
        exact List.forall_mem_cons.trans ((and_congr_right' ih).trans List.forall_mem_cons.symm)
      | second =>
        exact List.forall_mem_cons.trans ((and_congr_right' ih).trans List.forall_mem_cons.symm)

end Call

/-! ## Requests -/

namespace Client

/-- A client was made for the server at an address, which is a place on the net and holds no query;
calls may have given it cookies since. -/
structure Serves (c : Client) (server : String) : Prop where
  made : (ofAddress server).map Client.base = .ok c.base
  anchored : c.base.isAnchored = true
  query : c.base.query = none

theorem Serves.isBase {c : Client} {server : String} (h : c.Serves server) : c.base.IsBase := by
  obtain ⟨hmade, hanchored, hquery⟩ := h
  unfold ofAddress at hmade
  dsimp only at hmade
  split at hmade
  · next base hbase =>
    obtain rfl : base = c.base := Except.ok.inj hmade
    exact isBase_of_closed hbase hanchored hquery
  · nomatch hmade

/-- A call of the client goes out to an address. -/
def Asks {α : Type} (c : Client) (call : Call α) (address : Http.Address) : Prop :=
  ∃ request, c.request call.method call.path call.payload = .ok (address, request)

theorem Asks.join {α : Type} {c : Client} {call : Call α} {address : Http.Address}
    (h : c.Asks call address) : c.base.join call.path = .ok address := by
  obtain ⟨request, h⟩ := h
  obtain ⟨joined, hjoin, h⟩ := exists_of_bind_eq_ok h
  obtain ⟨cookie, -, h⟩ := exists_of_bind_eq_ok h
  obtain ⟨sent, -, h⟩ := exists_of_bind_eq_ok h
  obtain ⟨_, -, h⟩ := exists_of_bind_eq_ok h
  obtain ⟨rfl, -⟩ := Prod.mk.inj (Except.ok.inj h)
  cases hbase : c.base.join call.path with
  | error m =>
      rw [hbase] at hjoin
      nomatch hjoin
  | ok address =>
      rw [hbase] at hjoin
      exact congrArg Except.ok (Except.ok.inj hjoin)

/-- **A call arrives at the resource of its template**: after the segments of the server's own
address stand those of the template, each identifier alone in one. -/
def Arrives (c : Client) (a b : Value) (parts : List Call.Part) (address : Http.Address) : Prop :=
  Http.Address.received address.path =
    c.base.root ++ (Call.texts a b parts).map fun t => bytes t.toList

/-- **A call arrives at the resource of its template exactly if each identifier is a segment.** -/
theorem Serves.arrives_iff {c : Client} {server : String} (hc : c.Serves server) (name : String)
    (a b d : Value) {call : Call Value} {parts : List Call.Part} {address : Http.Address}
    (hcall : Call.ofName name a b d = .ok call) (hparts : Call.template? name = some parts)
    (hasks : c.Asks call address) : c.Arrives a b parts address ↔
      ∀ id ∈ Call.identifiers a b parts, IsSegment id := by
  obtain ⟨hhead, hlength, hproper⟩ := Call.shape_of_template hparts
  obtain ⟨rest, rfl⟩ := List.head?_eq_some_iff.mp hhead
  obtain ⟨tail, htexts⟩ : ∃ tail, slashed ("api" :: Call.texts a b rest) = 'a' :: tail := by
    cases Call.texts a b rest with
    | nil => exact ⟨_, rfl⟩
    | cons t texts => exact ⟨_, slashed_cons_cons "api" t texts⟩
  have hjoin := hasks.join
  rw [Call.path_of_ofName hcall hparts] at hjoin
  exact (received_join_iff hc.isBase (by decide) htexts (by simpa [Call.texts] using hlength)
    hjoin).trans (Call.forall_isSegment_texts_iff hproper)

/-- **What is written and what is put back never have the same path**, if the identifiers are
segments: the one path is shorter. -/
theorem Serves.path_ne {c : Client} {server : String} (hc : c.Serves server)
    {u e u' e' : String} {flags : List (Scalar × Value)} {address address' : Http.Address}
    (hids : ∀ id ∈ [u, e], IsSegment id) (hids' : ∀ id ∈ [u', e'], IsSegment id)
    (hwrite : c.Asks (Call.writePermissions u e flags) address)
    (hreset : c.Asks (Call.resetPermissions u' e') address') : address.path ≠ address'.path := by
  have hwritten := (hc.arrives_iff "write_permissions" (.text u) (.text e) (.map flags) rfl rfl
    hwrite).mpr hids
  have hput := (hc.arrives_iff "reset_permissions" (.text u') (.text e') .null rfl rfl
    hreset).mpr hids'
  intro hsame
  rw [Arrives, hsame] at hwritten
  have hlengths := congrArg List.length (hwritten.symm.trans hput)
  simp [Call.texts] at hlengths

/-- **Requests stay inside their resource exactly if the identifiers are segments.**  A call that
goes out arrives at the resource of its template exactly if each of its identifiers is one segment;
with such identifiers no permissions are written where defaults are put back.  Without them they
are: the path of an entity that is named `default` below another is that of the other's defaults. -/
theorem Serves.requests_confined {c : Client} {server : String} (hc : c.Serves server) :
    (∀ (name : String) (a b d : Value) {call : Call Value} {parts : List Call.Part}
        {address : Http.Address}, Call.ofName name a b d = .ok call →
      Call.template? name = some parts → c.Asks call address →
        (c.Arrives a b parts address ↔ ∀ id ∈ Call.identifiers a b parts, IsSegment id)) ∧
    (∀ {u e u' e' : String} {flags : List (Scalar × Value)} {address address' : Http.Address},
      (∀ id ∈ [u, e], IsSegment id) → (∀ id ∈ [u', e'], IsSegment id) →
        c.Asks (Call.writePermissions u e flags) address →
          c.Asks (Call.resetPermissions u' e') address' → address.path ≠ address'.path) ∧
    ∀ (u e : String) (flags : List (Scalar × Value)),
      (Call.writePermissions u (e ++ "/default") flags).path = (Call.resetPermissions u e).path :=
  ⟨hc.arrives_iff, hc.path_ne, fun u e _ => by
    simp [Call.writePermissions, Call.resetPermissions, Call.command, String.append_assoc]⟩

/-- A client of a server. -/
def elysian : Client :=
  { address := "http://elysian.test", base := { scheme := "http", host := "elysian.test" } }

/-- The addresses below the permissions of a user. -/
def aliceAddress (below : String) : Http.Address :=
  { elysian.base with path := "/api/acl/alice/" ++ below }

theorem serves_elysian : elysian.Serves "http://elysian.test" where
  made := by decide +kernel
  anchored := rfl
  query := rfl

/-- Permissions of a user on an entity with a common name arrive where they should. -/
theorem requests_confined_orders : elysian.Serves "http://elysian.test" ∧
    elysian.Asks (Call.writePermissions "alice" "orders" []) (aliceAddress "orders") ∧
    elysian.Arrives (.text "alice") (.text "orders") [.fixed "api", .fixed "acl", .first, .second]
      (aliceAddress "orders") := by
  have hasks : elysian.Asks (Call.writePermissions "alice" "orders" []) (aliceAddress "orders") :=
    ⟨{ method := "PUT", url := "http://elysian.test/api/acl/alice/orders"
       body := some "\x7b\x22permissions\x22:\x7b\x7d\x7d"
       contentType := some "application/json" }, by decide +kernel⟩
  exact ⟨serves_elysian, hasks, ((Serves.requests_confined serves_elysian).1 "write_permissions"
    (.text "alice") (.text "orders") .empty rfl rfl hasks).mpr (by decide +kernel)⟩

/-- The permissions of a user on an entity `orders/default` are written where the defaults for
another entity, `orders`, are put back. -/
theorem written_over_defaults : ∃ address,
    elysian.Asks (Call.writePermissions "alice" "orders/default" [(.text "read", .bool true)])
      address ∧
    elysian.Asks (Call.resetPermissions "alice" "orders") address ∧
    ¬ elysian.Arrives (.text "alice") (.text "orders/default")
      [.fixed "api", .fixed "acl", .first, .second] address := by
  refine ⟨aliceAddress "orders/default", ⟨{
    method := "PUT", url := "http://elysian.test/api/acl/alice/orders/default"
    body := some "\x7b\x22permissions\x22:\x7b\x22read\x22:true\x7d\x7d"
    contentType := some "application/json" }, by decide +kernel⟩, ⟨{
    method := "PUT", url := "http://elysian.test/api/acl/alice/orders/default" },
    by decide +kernel⟩, ?_⟩
  unfold Arrives
  decide +kernel

end Client

end AdminConsole
