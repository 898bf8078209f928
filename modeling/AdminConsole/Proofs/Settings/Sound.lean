import AdminConsole.Proofs.Settings.Overlay
import AdminConsole.Settings.Cache
import Mathlib.Tactic.SplitIfs

/-!
# Proofs/Settings/Sound — what the check of the settings promises

Settings are `Sound` if they pass the check and its promises really hold.  Complete settings that
pass are sound unless their timeout is not a number, which is not below zero either
(`sound_iff`); and the check itself fails on a number that has no bounds (`boundless_of_isUsable`).

So the settings in use are sound exactly if the file can be read and neither of these happens
(`get_sound_iff`).
-/

namespace AdminConsole

/-! ## Numbers without bounds -/

namespace Binary64

/-- `0 < x`. -/
def IsPositive (x : Binary64) : Prop :=
  if x.isFinite then 0 < x.units else x.isInfinite = true ∧ x.isNegative = false

theorem isPositive_iff {x : Binary64} :
    x.IsPositive ↔ x.nonPositive = false ∧ x.isNaN = false := by
  unfold IsPositive nonPositive
  by_cases hfinite : x.isFinite = true
  · have hnan : x.isNaN = false := by
      rw [isFinite, bne_iff_ne] at hfinite
      rw [isNaN, beq_false_of_ne hfinite, Bool.false_and]
    simp [hfinite, hnan]
  · have hexponent : (x.exponentField == 2047) = true := by simpa [isFinite] using hfinite
    rw [if_neg hfinite, isInfinite, isNaN, hexponent, Bool.true_and, Bool.true_and]
    cases hfraction : x.fraction == 0 <;> simp_all

end Binary64

namespace Value

theorem isInput_integerOfText {shown : String} {cs : List Char} {m : Mishap}
    (h : integerOfText shown cs = .error m) : m.isInput = true := by
  unfold integerOfText at h
  split at h
  · exact Except.error.inj h ▸ rfl
  · split_ifs at h
    · exact Except.error.inj h ▸ rfl
    · exact Except.error.inj h ▸ rfl

theorem isInput_realOfText {shown : String} {cs : List Char} {m : Mishap}
    (h : realOfText shown cs = .error m) : m.isInput = true := by
  unfold realOfText at h
  split at h
  · exact Except.error.inj h ▸ rfl
  · split at h
    · cases h
    · exact Except.error.inj h ▸ rfl

/-- **What has no integer** although it is a number: infinity. -/
theorem infinite_of_toInteger {v : Value} {m : Mishap} (h : v.toInteger = .error m)
    (hm : m.isInput = false) : m = .integerOfInfinity ∧ ∃ x, v = .real x ∧ x.isInfinite = true := by
  unfold toInteger at h
  split at h
  · cases h
  · cases h
  · split_ifs at h with hnan hinfinite
    · exact absurd hm (Except.error.inj h ▸ nofun)
    · exact ⟨(Except.error.inj h).symm, _, rfl, hinfinite⟩
  · exact absurd hm (by rw [isInput_integerOfText h]; nofun)
  · exact absurd hm (by rw [isInput_integerOfText h]; nofun)
  · exact absurd hm (Except.error.inj h ▸ nofun)

/-- **What has no double** although it is a number: an integer beyond every double. -/
theorem overflows_of_toReal {v : Value} {m : Mishap} (h : v.toReal = .error m)
    (hm : m.isInput = false) :
    m = .realOverflow ∧ ∃ n, v = .int n ∧ (Binary64.ofInt n).isFinite = false := by
  unfold toReal at h
  split at h
  · cases h
  · simp only at h
    split_ifs at h with hfinite
    exact ⟨(Except.error.inj h).symm, _, rfl, by simpa using hfinite⟩
  · cases h
  · exact absurd hm (by rw [isInput_realOfText h]; nofun)
  · exact absurd hm (by rw [isInput_realOfText h]; nofun)
  · exact absurd hm (Except.error.inj h ▸ nofun)

end Value

namespace Settings

/-! ## The tests -/

section Tests

variable {α : Type} {part : List (Scalar × Value)} {key : String} {read : Value → Except Mishap α}
  {test : α → Bool}

theorem exists_of_passes (hkey : (Entries.get? (.text key) part).isSome = true)
    (h : passes part key read test = .ok true) :
    ∃ s a, Entries.get? (.text key) part = some s ∧ read s = .ok a ∧ test a = true := by
  obtain ⟨s, hs⟩ := Option.isSome_iff_exists.mp hkey
  rw [passes, hs] at h
  cases hread : read s with
  | ok a =>
      simp only [hread, judge] at h
      exact ⟨s, a, hs, hread, Except.ok.inj h⟩
  | error m =>
      simp only [hread, judge] at h
      split_ifs at h
      simp at h

theorem exists_of_passes_error {f : Fault} (h : passes part key read test = .error f) :
    ∃ s m, Entries.get? (.text key) part = some s ∧ read s = .error m ∧ m.isInput = false ∧
      f = .mishap m := by
  rw [passes] at h
  split at h
  · cases h
  · next s hs =>
      cases hread : read s with
      | ok a => simp [hread, judge] at h
      | error m =>
          simp only [hread, judge] at h
          split_ifs at h with hinput
          exact ⟨s, m, hs, hread, by simpa using hinput, (Except.error.inj h).symm⟩

end Tests

theorem passesAll_eq_ok_true_iff : ∀ {results : List (Except Fault Bool)},
    passesAll results = .ok true ↔ ∀ r ∈ results, r = .ok true
  | [] => by simp [passesAll]
  | .ok true :: rest => by
      have ih : passesAll rest = .ok true ↔ _ := passesAll_eq_ok_true_iff
      simp [passesAll, ih]
  | .ok false :: rest => by simp [passesAll]
  | .error f :: rest => by simp [passesAll]

theorem mem_of_passesAll_error {f : Fault} : ∀ {results : List (Except Fault Bool)},
    passesAll results = .error f → .error f ∈ results
  | .ok true :: _, h => List.mem_cons_of_mem _ (mem_of_passesAll_error h)
  | .error _ :: _, h => h ▸ List.mem_cons_self

/-! ## What the check promises -/

/-- A setting is there and is read as something with a property. -/
def Holds {α : Type} (settings : Value) (name key : String) (read : Value → Except Mishap α)
    (property : α → Prop) : Prop :=
  ∃ s a, setting? settings name key = some s ∧ read s = .ok a ∧ property a

/-- **Settings that keep the promises of the check.** -/
structure Sound (settings : Value) : Prop where
  usable : isUsable settings = .ok true
  address : ∃ s, setting? settings "api" "base_url" = some (.text s) ∧ isWebAddress s = true
  timeout : Holds settings "api" "timeout" Value.toReal Binary64.IsPositive
  parallel : Holds settings "api" "max_parallel_writes" Value.toInteger (1 ≤ ·)
  delay : Holds settings "ui" "spinner_delay_ms" Value.toInteger (0 ≤ ·)
  limit : Holds settings "ui" "default_query_limit" Value.toInteger (1 ≤ ·)

/-- A timeout that is not a number. -/
def TimeoutIsNaN (settings : Value) : Prop :=
  Holds settings "api" "timeout" Value.toReal (·.isNaN = true)

/-- Settings with a number on which the check fails: an infinite one where an integer is wanted, or
a timeout beyond every double. -/
def Boundless (settings : Value) (f : Fault) : Prop :=
  (f = .mishap .integerOfInfinity ∧ ∃ name key x, (name, key) ∈
      [("api", "max_parallel_writes"), ("ui", "spinner_delay_ms"), ("ui", "default_query_limit")] ∧
      setting? settings name key = some (.real x) ∧ x.isInfinite = true) ∨
    (f = .mishap .realOverflow ∧ ∃ n, setting? settings "api" "timeout" = some (.int n) ∧
      (Binary64.ofInt n).isFinite = false)

/-- A section that is a mapping holds the settings of that section. -/
theorem setting?_eq_of_section {es part : List (Scalar × Value)} {name : String}
    (hpart : section? es name = some part) (key : String) :
    setting? (.map es) name key = Entries.get? (.text key) part := by
  obtain ⟨v, hv, hentries⟩ := Option.bind_eq_some_iff.mp hpart
  have hmember : (Value.map es).member? name = some v := hv
  rw [setting?, hmember, Option.bind_some, Value.member?, hentries, Option.bind_some]

theorem Complete.isSome_get? {es part : List (Scalar × Value)} (h : Complete (.map es))
    {name key : String} (hkey : (setting? defaults name key).isSome = true)
    (hpart : section? es name = some part) : (Entries.get? (.text key) part).isSome = true := by
  obtain ⟨v, hv, hentries⟩ := Option.bind_eq_some_iff.mp hpart
  cases v with
  | map entries => exact Option.some.inj hentries ▸ h.keys hkey hv rfl
  | _ => cases hentries

/-- **A setting that passes holds**: complete settings have it. -/
theorem Complete.holds {es part : List (Scalar × Value)} (h : Complete (.map es)) {name key : String}
    (hpart : section? es name = some part) (hkey : (setting? defaults name key).isSome = true)
    {α : Type} {read : Value → Except Mishap α} {test : α → Bool} {property : α → Prop}
    (hproperty : ∀ a, test a = true → property a) (hpasses : passes part key read test = .ok true) :
    Holds (.map es) name key read property := by
  obtain ⟨s, a, hs, ha, htest⟩ := exists_of_passes (h.isSome_get? hkey hpart) hpasses
  exact ⟨s, a, (setting?_eq_of_section hpart key).trans hs, ha, hproperty a htest⟩

/-- **A check that does not refuse** has found its three sections and tests them. -/
theorem exists_checkSections {es : List (Scalar × Value)} {result : Except Fault Bool}
    (h : isUsable (.map es) = result) (hresult : result ≠ .ok false) :
    ∃ app api ui, section? es "api" = some api ∧ section? es "ui" = some ui ∧
      checkSections app api ui = result := by
  rw [isUsable] at h
  split_ifs at h with hsections
  · simp only [requiredSections, List.all_cons, List.all_nil, Bool.and_eq_true] at hsections
    obtain ⟨-, hapi, hui, -⟩ := hsections
    obtain ⟨api, hapi⟩ := Option.isSome_iff_exists.mp hapi
    obtain ⟨ui, hui⟩ := Option.isSome_iff_exists.mp hui
    rw [hapi, hui] at h
    exact ⟨_, api, ui, hapi, hui, h⟩
  · exact absurd h.symm hresult

/-- Such a check has an address and comes down to the tests of the numbers. -/
theorem passesAll_of_checkSections {app api ui : List (Scalar × Value)}
    {result : Except Fault Bool} (h : checkSections app api ui = result)
    (hresult : result ≠ .ok false) : hasAddress api = true ∧ passesAll [
      passes api "timeout" Value.toReal (fun x => !x.nonPositive),
      passes api "max_parallel_writes" Value.toInteger (fun n => decide (0 < n)),
      passes ui "spinner_delay_ms" Value.toInteger (fun n => decide (0 ≤ n)),
      passes ui "default_query_limit" Value.toInteger (fun n => decide (0 < n))] = result := by
  rw [checkSections] at h
  split_ifs at h with hname haddress
  · exact absurd h.symm hresult
  · exact absurd h.symm hresult
  · exact ⟨by simpa using haddress, h⟩

theorem exists_of_hasAddress {api : List (Scalar × Value)} (h : hasAddress api = true) :
    ∃ s, Entries.get? (.text "base_url") api = some (.text s) ∧ isWebAddress s = true := by
  rw [hasAddress] at h
  split at h
  · next s hs => exact ⟨s, hs, h⟩
  · cases h

/-- **Complete settings that pass are sound**, unless their timeout is not a number. -/
theorem sound_iff {v : Value} (complete : Complete v) :
    Sound v ↔ isUsable v = .ok true ∧ ¬ TimeoutIsNaN v := by
  constructor
  · rintro sound
    refine ⟨sound.usable, fun ⟨s, x, hs, hx, hnan⟩ => ?_⟩
    obtain ⟨s', x', hs', hx', hpositive⟩ := sound.timeout
    obtain rfl := Option.some.inj (hs.symm.trans hs')
    obtain rfl := Except.ok.inj (hx.symm.trans hx')
    exact Bool.false_ne_true ((Binary64.isPositive_iff.mp hpositive).2.symm.trans hnan)
  · rintro ⟨usable, hnumber⟩
    cases v with
    | map es =>
        obtain ⟨app, api, ui, hapi, hui, hcheck⟩ := exists_checkSections usable nofun
        obtain ⟨haddress, hpasses⟩ := passesAll_of_checkSections hcheck nofun
        simp only [passesAll_eq_ok_true_iff, List.forall_mem_cons] at hpasses
        obtain ⟨htimeout, hparallel, hdelay, hlimit, -⟩ := hpasses
        obtain ⟨s, hs, hweb⟩ := exists_of_hasAddress haddress
        obtain ⟨t, x, ht, hx, htest⟩ := complete.holds hapi rfl (fun _ h => h) htimeout
        have hnan : x.isNaN = false := by simpa using fun h => hnumber ⟨t, x, ht, hx, h⟩
        exact {
          usable
          address := ⟨s, (setting?_eq_of_section hapi _).trans hs, hweb⟩
          timeout := ⟨t, x, ht, hx, Binary64.isPositive_iff.mpr ⟨by simpa using htest, hnan⟩⟩
          parallel := complete.holds hapi rfl (fun _ h => of_decide_eq_true h) hparallel
          delay := complete.holds hui rfl (fun _ h => of_decide_eq_true h) hdelay
          limit := complete.holds hui rfl (fun _ h => of_decide_eq_true h) hlimit }
    | _ => exact absurd complete.mapping nofun

theorem sound_defaults : Sound defaults :=
  (sound_iff complete_defaults).mpr ⟨by decide +kernel, by
    rintro ⟨s, x, hs, hx, hnan⟩
    obtain rfl : Value.int 10 = s := Option.some.inj hs
    obtain rfl : Binary64.ofInt 10 = x := Except.ok.inj hx
    exact absurd hnan (by decide +kernel)⟩

/-- **The check fails only on a number without bounds.** -/
theorem boundless_of_isUsable {v : Value} {f : Fault} (complete : Complete v)
    (h : isUsable v = .error f) : Boundless v f := by
  cases v with
  | map es =>
      obtain ⟨app, api, ui, hapi, hui, hcheck⟩ := exists_checkSections h nofun
      have hmem := mem_of_passesAll_error (passesAll_of_checkSections hcheck nofun).2
      simp only [List.mem_cons, List.not_mem_nil, or_false] at hmem
      -- an integer setting of a section that is infinite
      have integer {name key part} {test : Int → Bool} (hpart : section? es name = some part)
          (hkey : (name, key) ∈ [("api", "max_parallel_writes"), ("ui", "spinner_delay_ms"),
            ("ui", "default_query_limit")])
          (hfault : .error f = passes part key Value.toInteger test) : Boundless (.map es) f := by
        obtain ⟨s, m, hs, hm, hinput, rfl⟩ := exists_of_passes_error hfault.symm
        obtain ⟨rfl, x, rfl, hinfinite⟩ := Value.infinite_of_toInteger hm hinput
        exact .inl ⟨rfl, name, key, x, hkey, (setting?_eq_of_section hpart key).trans hs, hinfinite⟩
      rcases hmem with hfault | hfault | hfault | hfault
      · obtain ⟨s, m, hs, hm, hinput, rfl⟩ := exists_of_passes_error hfault.symm
        obtain ⟨rfl, n, rfl, hoverflow⟩ := Value.overflows_of_toReal hm hinput
        exact .inr ⟨rfl, n, (setting?_eq_of_section hapi _).trans hs, hoverflow⟩
      · exact integer hapi (by simp) hfault
      · exact integer hui (by simp) hfault
      · exact integer hui (by simp) hfault
  | _ => exact absurd complete.mapping nofun

/-! ## The settings in use -/

namespace Cache

/-- **The settings in use, by the file.** -/
theorem get_of_ofFile {file : File} {v : Value} (h : ofFile file = .ok v) : get { file } =
    match isUsable v with
    | .error f => (.error f, { file, settings := some v })
    | .ok true => (.ok v, { file, settings := some v })
    | .ok false => (.ok defaults, { file, settings := some defaults }) := by
  cases husable : isUsable v with
  | error f => simp only [get, h, husable]
  | ok usable => cases usable <;> simp only [get, h, husable]

theorem get_of_unreadable {file : File} {f : Fault} (h : ofFile file = .error f) :
    get { file } = (.error f, { file }) := by
  simp only [get, h]

/-- **The settings in use are sound** exactly if the file is read, the check comes to an end, and
settings that it lets pass have a timeout that is a number.

* A file that cannot be read is a fault each time.
* A check that fails does so on a number without bounds, and only once: the settings stay as they
  were read, are in use from then on, and are not sound.
* Settings with a timeout that is not a number are in use as they are. -/
theorem get_sound_iff (file : File) :
    ((∃ v, (get { file }).1 = .ok v ∧ Sound v) ↔
      ∃ v, ofFile file = .ok v ∧ (∃ usable, isUsable v = .ok usable) ∧
        (isUsable v = .ok true → ¬ TimeoutIsNaN v)) ∧
    (∀ f, ofFile file = .error f → get { file } = (.error f, { file })) ∧
    (∀ v f, ofFile file = .ok v → isUsable v = .error f →
      Boundless v f ∧ get { file } = (.error f, { file, settings := some v }) ∧
      (get { file }).2.get = (.ok v, (get { file }).2) ∧ ¬ Sound v) ∧
    (∀ v, ofFile file = .ok v → isUsable v = .ok true → TimeoutIsNaN v →
      get { file } = (.ok v, { file, settings := some v }) ∧ ¬ Sound v) := by
  refine ⟨⟨?_, ?_⟩, fun f => get_of_unreadable, fun v f hread hcheck => ?_,
    fun v hread hcheck hnan => ?_⟩
  · rintro ⟨v, hget, sound⟩
    cases hread : ofFile file with
    | error f =>
        rw [get_of_unreadable hread] at hget
        cases hget
    | ok w =>
        rw [get_of_ofFile hread] at hget
        refine ⟨w, rfl, ?_⟩
        cases hcheck : isUsable w with
        | error f =>
            rw [hcheck] at hget
            cases hget
        | ok usable =>
            refine ⟨⟨usable, rfl⟩, ?_⟩
            rintro ⟨⟩
            rw [hcheck] at hget
            obtain rfl := Except.ok.inj hget
            exact ((sound_iff (complete_ofFile hread)).mp sound).2
  · rintro ⟨v, hread, ⟨usable, hcheck⟩, hnumber⟩
    rw [get_of_ofFile hread]
    cases usable with
    | true =>
        rw [hcheck]
        exact ⟨v, rfl, (sound_iff (complete_ofFile hread)).mpr ⟨hcheck, hnumber hcheck⟩⟩
    | false =>
        rw [hcheck]
        exact ⟨defaults, rfl, sound_defaults⟩
  · have hget : get { file } = (.error f, { file, settings := some v }) := by
      rw [get_of_ofFile hread, hcheck]
    refine ⟨boundless_of_isUsable (complete_ofFile hread) hcheck, hget, ?_, fun sound => ?_⟩
    · rw [hget]
      rfl
    · rw [sound.usable] at hcheck
      cases hcheck
  · refine ⟨by rw [get_of_ofFile hread, hcheck], fun sound => ?_⟩
    exact ((sound_iff (complete_ofFile hread)).mp sound).2 hnan

example : ∃ v, ofDocument (.object [("api", .object [("timeout", .real .nan)])]) = .ok v ∧
    isUsable v = .ok true := ⟨_, rfl, by decide +kernel⟩

example : ∃ v, ofDocument (.object [("ui", .object
      [("default_query_limit", .real (.infinity false))])]) = .ok v ∧
    isUsable v = .error (.mishap .integerOfInfinity) := ⟨_, rfl, by decide +kernel⟩

/-- **A file that is no text ends in a fault**, not in the built-in settings. -/
theorem no_text_no_settings :
    get { file := .bytes [0xff] } =
      (.error (.mishap (.undecodable "invalid bytes in the settings file")),
        { file := .bytes [0xff] }) ∧
    ¬ ∀ file : File, ∃ v, (get { file }).1 = .ok v ∧ Sound v := by
  have fault : get { file := .bytes [0xff] } =
      (.error (.mishap (.undecodable "invalid bytes in the settings file")),
        { file := .bytes [0xff] }) := by
    have htext : Text.utf8Text? [0xff] = none := by
      rw [Text.utf8Text?, Text.utf8Chars]
      rfl
    exact get_of_unreadable (by rw [ofFile, htext])
  refine ⟨fault, fun h => ?_⟩
  obtain ⟨v, hv, -⟩ := h (.bytes [0xff])
  rw [fault] at hv
  cases hv

end Cache

end Settings

end AdminConsole
