import AdminConsole.Proofs.Pages.Views

/-!
# Proofs/Pages/SignedIn — who is signed in stays signed in

The console has a way back to the login form, for a refusal because nobody is signed in (`rescue`).
No refusal gets there: the pages show what the server answers, and are `Steady`.  So a session that
is signed in stays so through every run in which the user does not log out (`signedIn_afterRuns`),
also if every request is refused because nobody is signed in (`signedIn_refused`).
-/

namespace AdminConsole

namespace Pages

open Page

-- The proof that a page is steady has a rule for each of its steps.
set_option synthInstance.maxSize 16384

variable {σ α β : Type} {e : Surroundings σ}

/-! ## The sidebar and the current page -/

/-- Whether the user has pressed the button that signs out. -/
def logsOut (e : Surroundings σ) : Bool :=
  ((Entries.get? (Widget.button "🚪 Log out").name e.touched).getD (.bool false)).truthy

theorem gives_pressed {b : Widget}
    (h : ((Entries.get? b.name e.touched).getD (.bool false)).truthy = false) :
    Gives e (fun isPressed => isPressed = false) (pressed b) where
  holds _ _ hrun := (Except.ok.inj hrun).symm.trans h

theorem steady_sidebar (h : logsOut e = false) : Steady e sidebar := by
  have hlogout : Steady e (do if ← pressed (.button "🚪 Log out") then logout) :=
    haveI := gives_pressed h
    Steady.bind_of fun b (hb : b = false) => hb ▸ Steady.pure ()
  unfold sidebar
  dsimp only
  infer_instance

instance steady_current : Steady e current := by
  unfold current
  refine Steady.bind_of fun s (_ : True) => ?_
  split <;> infer_instance

/-! ## Signing in -/

instance steady_connect : Steady e connect := by
  have htimeout (timeout : Value) : Harmless (match timeout.toReal with
      | .ok x => .ok x
      | .error m => .error (.mishap m) : Except Fault Binary64) := by
    split <;> infer_instance
  unfold connect
  infer_instance

/-- Somebody is signed in. -/
def SignedIn (s : Session Client) : Prop := s.isAuthenticated = true

theorem ofStanding_signedIn : OfStanding SignedIn := by
  intro s t h hs
  have haccount : t.account = s.account := congrArg Prod.fst h
  rwa [SignedIn, Session.isAuthenticated, haccount]

theorem truthy_orElse {v fallback : Value} (h : fallback.truthy = true) :
    (v.orElse fallback).truthy = true := by
  unfold Value.orElse
  split_ifs with hv
  · exact hv
  · exact h

theorem signedIn_of_setAccount {s t : Session Client} {account : Value}
    (haccount : account.truthy = true) (h : s.setAccount account = .ok t) : SignedIn t := by
  unfold Session.setAccount at h
  split_ifs at h
  obtain rfl := Except.ok.inj h
  rwa [SignedIn, Session.isAuthenticated, Session.account, Session.note_setNote_self]

/-- A sign-in puts one account in the place of another. -/
theorem keeps_signIn (username account : Value) :
    Keeps e SignedIn (fun _ => True) (signIn username account) := by
  have haccount : (account.orElse (.object [("username", username)])).truthy = true :=
    truthy_orElse rfl
  unfold signIn
  refine .steady_bind ofStanding_signedIn fun s => ?_
  have := Gives.ofResult (e := e) fun t => signedIn_of_setAccount (s := s) haccount
  refine (Keeps.of_steady (P := SignedIn) ofStanding_signedIn _).bind fun t ht => ?_
  exact ⟨fun _ _ => ht, fun _ _ _ _ => trivial, fun _ _ _ => nofun⟩

theorem keeps_signInFromSettings : Keeps e SignedIn (fun _ => True) signInFromSettings := by
  unfold signInFromSettings
  refine .steady_bind ofStanding_signedIn fun username => ?_
  refine .steady_bind ofStanding_signedIn fun password => ?_
  split
  · refine .steady_bind ofStanding_signedIn fun answer => ?_
    cases answer with
    | ok account => exact keeps_signIn username account
    | error x => exact .of_steady ofStanding_signedIn _
  · exact .of_steady ofStanding_signedIn _

theorem signedIn_setClient {s : Session Client} (hs : SignedIn s) (c : Option Client) :
    SignedIn (s.setClient c) := by
  have hnotes : (s.setClient c).notes = s.notes := by
    unfold Session.setClient Session.close
    simp only
    split
    · split_ifs <;> rfl
    · rfl
  rwa [SignedIn, Session.isAuthenticated, Session.account, Session.note, Session.note?, hnotes]

/-- A new connection may sign somebody else in. -/
theorem keeps_ensureClient : Keeps e SignedIn (fun _ => True) ensureClient := by
  unfold ensureClient
  refine .steady_bind ofStanding_signedIn fun s => ?_
  split
  · refine .steady_bind ofStanding_signedIn fun _ => ?_
    refine .steady_bind ofStanding_signedIn fun c => ?_
    refine Keeps.bind (P := fun _ => True) ?_ fun _ _ => keeps_signInFromSettings
    exact ⟨fun w hw => signedIn_setClient hw (some c), fun _ _ _ _ => trivial, fun _ _ _ => nofun⟩
  · exact .of_steady ofStanding_signedIn _

/-! ## What a run of the console keeps -/

/-- This account is signed in, and there is a connection. -/
def SignedInAs (account : Value) (s : Session Client) : Prop :=
  s.standing = (account, true) ∧ account.truthy = true

theorem ofStanding_signedInAs (account : Value) : OfStanding (SignedInAs account) :=
  fun _ _ h hs => ⟨h.trans hs.1, hs.2⟩

/-- A property of signed-in sessions that is kept when the connection is made sure of. -/
structure Upheld (e : Surroundings σ) (I : Session Client → Prop) : Prop where
  ofStanding : OfStanding I
  isAuthenticated : ∀ {s}, I s → s.isAuthenticated = true
  keeps_ensureClient : Keeps e I (fun _ => True) ensureClient

theorem upheld_signedIn : Upheld e SignedIn where
  ofStanding := ofStanding_signedIn
  isAuthenticated h := h
  keeps_ensureClient := keeps_ensureClient

/-- A connection that is there is kept, with the account. -/
theorem upheld_signedInAs (account : Value) : Upheld e (SignedInAs account) where
  ofStanding := ofStanding_signedInAs account
  isAuthenticated {s} h := by
    have haccount : s.account = account := congrArg Prod.fst h.1
    rw [Session.isAuthenticated, haccount]
    exact h.2
  keeps_ensureClient := by
    have hrun (w : World σ) (hw : SignedInAs account w.session) :
        ensureClient.run e w = (.ok (), w) := by
      have hclient : w.session.client.get?.isNone = false := by
        simpa [Session.standing] using congrArg Prod.snd hw.1
      show (if w.session.client.get?.isNone = true then _ else _ : Page σ Unit).run e w = _
      rw [hclient]
      rfl
    exact ⟨fun w hw => by rwa [hrun w hw], fun _ _ _ _ => trivial,
      fun w hw f hf => by simp [hrun w hw] at hf⟩

variable {I : Session Client → Prop}

/-- **The page of a session that is signed in** signs nobody out, and shows every refusal. -/
theorem keeps_body (hI : Upheld e I) (hlog : logsOut e = false) :
    Keeps e I (fun _ => True) body := by
  have := steady_sidebar hlog
  have hsession : Keeps e I I Page.session :=
    ⟨fun _ hw => hw, fun w hw s hs => Except.ok.inj hs ▸ hw, fun _ _ _ hf => by cases hf⟩
  unfold body
  refine .steady_bind hI.ofStanding fun _ => hI.keeps_ensureClient.bind fun _ _ => ?_
  refine hsession.bind fun s hs => ?_
  rw [if_pos (hI.isAuthenticated hs)]
  exact .of_steady hI.ofStanding _

/-- A fault that is no refusal is shown. -/
theorem steady_rescue {f : Fault} (h : f.isRefusal = false) : Steady e (rescue f) := by
  unfold rescue
  split
  · cases h
  · infer_instance

theorem holds_console (hI : Upheld e I) (hlog : logsOut e = false) {w : World σ}
    (hw : I w.session) : I (console.run e w).2.session := by
  suffices Keeps e I (fun _ => True) console from this.holds w hw
  unfold console
  -- the settings of the log and the title of the page come before anything else
  refine .steady_bind hI.ofStanding fun _ => .steady_bind hI.ofStanding fun _ => ?_
  refine .steady_bind hI.ofStanding fun title => .steady_bind hI.ofStanding fun _ => ?_
  refine (keeps_body hI hlog).attempt.bind fun r hr => ?_
  cases r with
  | ok a => exact .of_steady hI.ofStanding _
  | error f =>
      have := steady_rescue (e := e) (hr.isRefusal_eq_false rfl)
      exact .of_steady hI.ofStanding _

/-! ## Run after run -/

/-- The world after some runs, each on an empty page and in surroundings of its own. -/
def afterRuns : List (Surroundings σ) → World σ → World σ
  | [], w => w
  | e :: rest, w => afterRuns rest (console.run e { w with shown := [] }).2

theorem holds_afterRuns (hI : ∀ e : Surroundings σ, Upheld e I) : ∀ (es : List (Surroundings σ))
    (w : World σ), (∀ e ∈ es, logsOut e = false) → I w.session → I (afterRuns es w).session
  | [], _, _, hw => hw
  | e :: rest, _, hlog, hw =>
      holds_afterRuns hI rest _ (fun _ hd => hlog _ (List.mem_cons_of_mem e hd))
        (holds_console (hI e) (hlog e List.mem_cons_self) hw)

/-- **Who is signed in stays signed in**, run after run, until the user logs out, whatever the server
answers to the requests of the pages.

* With a connection, it is the same account throughout.
* No refusal gets to the place where a refusal because nobody is signed in would lead back to the
  login form. -/
theorem signedIn_afterRuns {es : List (Surroundings σ)} {w : World σ}
    (hsigned : w.session.isAuthenticated = true) (hlog : ∀ e ∈ es, logsOut e = false) :
    (afterRuns es w).session.isAuthenticated = true ∧
    (w.session.client.get?.isSome = true →
      (afterRuns es w).session.account = w.session.account) ∧
    ∀ e ∈ es, ∀ v : World σ, v.session.isAuthenticated = true →
      ∀ f, (body.run e v).1 = .error (.fault f) → f.isRefusal = false := by
  refine ⟨holds_afterRuns (fun _ => upheld_signedIn) es w hlog hsigned, fun hclient => ?_,
    fun e he => (keeps_body upheld_signedIn (hlog e he)).isRefusal_eq_false⟩
  have hkept := holds_afterRuns (fun _ => upheld_signedInAs w.session.account) es w hlog
    ⟨Prod.ext rfl hclient, hsigned⟩
  exact congrArg Prod.fst hkept.1

/-! ## Requests that are refused -/

/-- A session on a page, with `admin` signed in and a connection. -/
def adminOn (page : String) : World Nat :=
  { settings := { file := .missing }
    session := {
      notes := [(Session.pageKey, .text page),
        (Session.accountKey, .object [("username", .text "admin")])]
      client := .held { address := "http://localhost:8089",
                        base := { scheme := "http", host := "localhost", port := some 8089 } } }
    server := 0 }

/-- A server that refuses every request because nobody is signed in, and counts them. -/
def refusing : Http.Wire Nat := fun _ count => (.ok { status := 401 }, count + 1)

/-- Two runs that are refused, the second one after the user has chosen another page. -/
def refusedRuns : List (Surroundings Nat) :=
  [{ wire := refusing }, { wire := refusing, touched := [("Select View:", .text "acl")] }]

/-- `admin` is signed in after both runs, neither of which ends with a refusal. -/
theorem signedIn_afterRuns_refusedRuns :
    (adminOn "entities").session.isAuthenticated = true ∧
    (∀ e ∈ refusedRuns, logsOut e = false) ∧
    (afterRuns refusedRuns (adminOn "entities")).session.isAuthenticated = true ∧
    (afterRuns refusedRuns (adminOn "entities")).session.account =
      .object [("username", .text "admin")] ∧
    ∀ e ∈ refusedRuns, ∀ f, (body.run e (adminOn "entities")).1 = .error (.fault f) →
      f.isRefusal = false := by
  have hsigned : (adminOn "entities").session.isAuthenticated = true := by decide +kernel
  have hlog : ∀ e ∈ refusedRuns, logsOut e = false := by decide +kernel
  have hkept := signedIn_afterRuns hsigned hlog
  exact ⟨hsigned, hlog, hkept.1, hkept.2.1 rfl, fun e he => hkept.2.2 e he _ hsigned⟩

/-- **Nobody is led back to the login form.**  Every page asks the server and is told that nobody is
signed in; the account stays, and the next run does not show the login form. -/
theorem signedIn_refused : (Session.pages.all fun page =>
    let once := afterRuns [{ wire := refusing }] (adminOn page)
    let twice := afterRuns [{ wire := refusing }] once
    once.server == 1 && once.session.isAuthenticated
      && !twice.shown.contains (.form "login_form")) = true := by
  decide +kernel

end Pages

end AdminConsole
