import AdminConsole.Fault.Basic

/-!
# Settings/Summary — settings for the log

A flat summary of the settings in use; the password is no part of it.
-/

namespace AdminConsole.Settings

/-- The member of a document under a key, or a default; only mappings have members. -/
def member (v : Value) (key : String) (default : Value) : Except Fault Value :=
  match v with
  | .map es => .ok ((Entries.get? (.text key) es).getD default)
  | v => .error (.noAttribute v "get")

/-- The value of a section under a key, or a default. -/
def value (settings : Value) (name key : String) (default : Value) : Except Fault Value := do
  let part ← member settings name .empty
  member part key default

/-- **The summary of settings.** -/
def summary (settings : Value) : Except Fault Value := do
  let api ← member settings "api" .empty
  let name ← value settings "app" "name" (.text "Unknown")
  let version ← value settings "app" "version" (.text "Unknown")
  let debug ← value settings "app" "debug" (.bool false)
  let address ← member api "base_url" (.text "Unknown")
  let timeout ← member api "timeout" (.int 10)
  let username ← member api "username" .null
  let parallel ← member api "max_parallel_writes" (.int 4)
  let level ← value settings "logging" "level" (.text "INFO")
  return .object [("app_name", name), ("app_version", version), ("debug_mode", debug),
    ("base_url", address), ("timeout", timeout), ("auto_login", .bool username.truthy),
    ("max_parallel_writes", parallel), ("log_level", level)]

end AdminConsole.Settings
