import AdminConsole.Loading
import AdminConsole.Settings.Check
import AdminConsole.Settings.File
import AdminConsole.Settings.Summary

/-!
# Settings/Cache — settings of the running console

The settings file is read once. Settings that are not usable are replaced by the built-in ones;
if checking them fails, they stay as they were read.
-/

namespace AdminConsole.Settings

/-- The settings file, and the settings once they have been read. -/
structure Cache where
  file : File
  settings : Option Value := none
  deriving DecidableEq, Repr, Inhabited

namespace Cache

/-- Forgets the settings that were read. -/
def reset (c : Cache) : Cache := { c with settings := none }

/-- **The settings in use.** -/
def get (c : Cache) : Except Fault Value × Cache :=
  match c.settings with
  | some v => (.ok v, c)
  | none =>
    match ofFile c.file with
    | .error f => (.error f, c)
    | .ok v =>
      match isUsable v with
      | .error f => (.error f, { c with settings := some v })
      | .ok true => (.ok v, { c with settings := some v })
      | .ok false => (.ok defaults, { c with settings := some defaults })

/-- A setting of a section, or a default. -/
def value (c : Cache) (name key : String) (default : Value) : Except Fault Value × Cache :=
  match c.get with
  | (.ok v, c) => (Settings.value v name key default, c)
  | (.error f, c) => (.error f, c)

/-- The delay of the loading mark in seconds, from a setting in thousandths. -/
def delayOf (setting : Value) : Except Fault Binary64 :=
  match setting.toReal with
  | .ok x =>
    let seconds := x.toFloat / 1000.0
    .ok (if 0.0 < seconds then .ofFloat seconds else .zero)
  | .error m => if m.isInput then .ok LoadingMark.defaultDelay else .error (.mishap m)

/-- The delay of the loading mark. -/
def spinnerDelay (c : Cache) : Except Fault Binary64 × Cache :=
  match c.value "ui" "spinner_delay_ms" (.int 200) with
  | (.ok v, c) => (delayOf v, c)
  | (.error f, c) => (.error f, c)

/-- Settings once read are kept. -/
theorem get_get (c : Cache) (v : Value) (h : c.get.1 = .ok v) : c.get.2.get = (.ok v, c.get.2) := by
  unfold get at h ⊢
  cases hs : c.settings with
  | some w => simp_all
  | none =>
    cases hf : ofFile c.file with
    | error f => simp [hs, hf] at h
    | ok w =>
      cases hu : isUsable w with
      | error f => simp [hs, hf, hu] at h
      | ok b => cases b <;> simp_all

end Cache

end AdminConsole.Settings
