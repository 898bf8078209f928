import AdminConsole.Value.Basic

/-!
# Settings/Defaults — the built-in settings

Settings are a document of sections, each a mapping from keys to values. What the settings file
does not say is taken from here.
-/

namespace AdminConsole.Settings

/-- The section about the console itself. -/
def appDefaults : Value :=
  .object [("name", .text "ElysianDB Admin"), ("version", .text "1.0.0"), ("debug", .bool false)]

/-- The section about the server. -/
def apiDefaults : Value :=
  .object [("base_url", .text "http://localhost:8089"), ("timeout", .int 10), ("username", .null),
    ("password", .null), ("max_parallel_writes", .int 4)]

/-- The section about the pages. -/
def uiDefaults : Value :=
  .object [("page_title", .text "ElysianDB Admin"), ("sidebar_title", .text "Navigation"),
    ("spinner_delay_ms", .int 200), ("default_query_limit", .int 50)]

/-- The section about the log. -/
def loggingDefaults : Value :=
  .object [("level", .text "INFO"),
    ("format", .text "%(asctime)s - %(name)s - %(levelname)s - %(message)s")]

/-- **The built-in settings.** -/
def defaults : Value :=
  .object [("app", appDefaults), ("api", apiDefaults), ("ui", uiDefaults),
    ("logging", loggingDefaults)]

end AdminConsole.Settings
