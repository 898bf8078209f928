import AdminConsole.Value.Pairs

/-!
# Settings/Merge — one document laid over another

Where both documents have a mapping under a key the mappings are merged; everywhere else the upper
document wins. Keys of the lower document keep their places, new keys follow.
-/

namespace AdminConsole.Settings

mutual

/-- An upper value laid over a lower one, if there is one. -/
def overlay (lower : Option Value) : Value → Value
  | .map es => match lower with
    | some (.map bs) => .map (overlayEntries bs es)
    | _ => .map es
  | v => v

/-- Upper entries laid over lower ones, from first to last. -/
def overlayEntries (lower : List (Scalar × Value)) : List (Scalar × Value) → List (Scalar × Value)
  | [] => lower
  | (k, v) :: rest =>
    overlayEntries (Value.putSame k (overlay (Value.lookupSame k lower) v) lower) rest

end

/-- **An upper document laid over a lower one.** The upper one must be a mapping, and so must the
lower one if there is anything to lay over it. -/
def merge (lower upper : Value) : Except Fault Value :=
  match upper with
  | .map es =>
    match lower with
    | .map bs => .ok (.map (overlayEntries bs es))
    | v => if es.isEmpty then .ok v else .error (.notIterable v)
  | v => .error (.noAttribute v "items")

/-- An empty document laid over another changes nothing. -/
theorem merge_empty (lower : Value) : merge lower .empty = .ok lower := by
  cases lower <;> simp [merge, Value.empty, overlayEntries]

end AdminConsole.Settings
