import AdminConsole.Api.Calls

/-!
# Api/Named — calls by name

A call can be picked by its name, with arguments of any kind; its answer is then a document. A
name stands for a call only with the right number of arguments: no request is made otherwise.
-/

namespace AdminConsole.Call

/-- The least and the greatest number of arguments of each call. -/
def argumentCounts : List (String × Nat × Nat) := [
  ("login", 2, 2), ("logout", 0, 0), ("me", 0, 0), ("list_entity_types", 0, 0),
  ("load_schema", 1, 1), ("replace_schema", 2, 2), ("create_entity_type", 1, 1),
  ("drop_entity_type", 1, 1), ("query_records", 1, 1), ("delete_record", 2, 2),
  ("load_acl_entries", 1, 1), ("load_permissions", 1, 1), ("write_permissions", 3, 3),
  ("reset_permissions", 2, 2), ("list_hooks", 1, 1), ("load_hook", 1, 1), ("create_hook", 3, 3),
  ("save_hook", 2, 2), ("delete_hook", 1, 1), ("list_users", 0, 0), ("create_user", 2, 3),
  ("change_user_password", 2, 2), ("change_user_role", 2, 2), ("delete_user", 1, 1)]

/-- The role of an account that is created without one. -/
def defaultRole : Value := .text "user"

/-- A call with its answer read further. -/
def withAnswer {α β : Type} (c : Call α) (f : α → β) : Call β :=
  { c with read := fun v => (c.read v).map f }

/-- A call whose answer is null. -/
def silent {α : Type} (c : Call α) : Call Value := c.withAnswer fun _ => .null

/-- A call whose answer is a list of documents. -/
def listing {α : Type} (c : Call (List α)) (f : α → Value) : Call Value :=
  c.withAnswer fun xs => .list (xs.map f)

/-- The call of a name on three arguments, of which those that it does not take are ignored. -/
def ofName (name : String) (a b c : Value) : Except Fault (Call Value) :=
  match name with
  | "login" => .ok (login a b)
  | "logout" => .ok logout.silent
  | "me" => .ok me
  | "list_entity_types" => .ok (listEntityTypes.listing EntityType.toValue)
  | "load_schema" => .ok ((loadSchema a).withAnswer SchemaTree.parts)
  | "replace_schema" => .ok (replaceSchema a.plain b).silent
  | "create_entity_type" => .ok (createEntityType a.plain).silent
  | "drop_entity_type" => .ok (dropEntityType a.plain).silent
  | "query_records" => .ok ((queryRecords a).withAnswer .list)
  | "delete_record" => .ok (deleteRecord a.plain b.plain).silent
  | "load_acl_entries" => .ok ((loadAccess a.plain).listing AccessEntry.toValue)
  | "load_permissions" => .ok (loadPermissions a.plain)
  | "write_permissions" =>
    c.toMapping.map fun flags => (writePermissions a.plain b.plain flags).silent
  | "reset_permissions" => .ok (resetPermissions a.plain b.plain).silent
  | "list_hooks" => .ok ((listHooks a.plain).listing StoredHook.toValue)
  | "load_hook" => .ok ((loadHook a.plain).withAnswer StoredHook.toValue)
  | "create_hook" => .ok (createHook a b c).silent
  | "save_hook" => .ok (saveHook a.plain b).silent
  | "delete_hook" => .ok (deleteHook a.plain).silent
  | "list_users" => .ok (listUsers.listing User.toValue)
  | "create_user" => .ok (createUser a b c).silent
  | "change_user_password" => .ok (changePassword a.plain b).silent
  | "change_user_role" => .ok (changeRole a.plain b).silent
  | "delete_user" => .ok (deleteUser a.plain).silent
  | name => .error (.mishap (.noAttribute "client" name))

/-- **The call of a name on its arguments.** -/
def named (name : String) (args : List Value) : Except Fault (Call Value) :=
  match Entries.get? name argumentCounts with
  | some (least, greatest) =>
    if args.length < least ∨ greatest < args.length then
      .error (.mishap (.argumentCount name args.length))
    else ofName name (args.getD 0 .null) (args.getD 1 .null) (args.getD 2 defaultRole)
  | none => .error (.mishap (.noAttribute "client" name))

end AdminConsole.Call
