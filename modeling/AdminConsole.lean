import AdminConsole.Api.Named
import AdminConsole.Pages.Frame
import AdminConsole.Proofs.Api.Confined
import AdminConsole.Proofs.Hook.Assignments
import AdminConsole.Proofs.Hook.Gate
import AdminConsole.Proofs.Hook.Reading
import AdminConsole.Proofs.Hook.State
import AdminConsole.Proofs.Hook.Unchecked
import AdminConsole.Proofs.Optimistic
import AdminConsole.Proofs.Pages.FieldKeys
import AdminConsole.Proofs.Pages.HookEditor
import AdminConsole.Proofs.Pages.HookList
import AdminConsole.Proofs.Pages.SignedIn
import AdminConsole.Proofs.Permission.Attribution
import AdminConsole.Proofs.Permission.EditedTable
import AdminConsole.Proofs.Permission.Ended
import AdminConsole.Proofs.Permission.Listing
import AdminConsole.Proofs.Permission.Mirror
import AdminConsole.Proofs.Permission.Parity
import AdminConsole.Proofs.Permission.Restored
import AdminConsole.Proofs.Permission.Status
import AdminConsole.Proofs.Permission.Switch
import AdminConsole.Proofs.Record.EntityType
import AdminConsole.Proofs.Schema.Acknowledged
import AdminConsole.Proofs.Schema.Adding
import AdminConsole.Proofs.Schema.Commuting
import AdminConsole.Proofs.Schema.Frame
import AdminConsole.Proofs.Schema.Position
import AdminConsole.Proofs.Schema.Renaming
import AdminConsole.Proofs.Schema.Summary
import AdminConsole.Proofs.Schema.Target
import AdminConsole.Proofs.Settings.Precedence
import AdminConsole.Proofs.Settings.Sound
