import ChainFollower.Proofs.SameTasksAndClient

/-! Work in which no session begins or ends: it may move the session between running and synced and
may take links away, but starts and runs stay as they are. -/
namespace ChainFollower

/-- A backend is attached and its run has not come back. -/
def SyncState.Attached (state : SyncState) : Prop := state = .running ∨ state = .synced

instance : DecidablePred SyncState.Attached :=
  fun state => inferInstanceAs (Decidable (state = .running ∨ state = .synced))

theorem SyncState.Attached.active {state : SyncState} (attached : state.Attached) :
    state.isActive = true := by
  rcases attached with rfl | rfl <;> rfl

def RunLoop.launched (run : RunLoop) : RunLoop := { run with begun := false }

def Happening.TellsEnd : Happening → Prop
  | heard _ event => event.endsSync = true
  | _ => False

def Happening.Heard : Happening → Prop
  | heard _ _ => True
  | _ => False

def Happening.Gives : Happening → Prop
  | saw (.walletBackend (some _) _) => True
  | saw (.loaderBackend (some _) _) => True
  | _ => False

theorem Happening.SparesSync.tells_no_end {happening : Happening} (spares : happening.SparesSync) :
    ¬ happening.TellsEnd := by
  cases happening with
  | heard position event =>
    have goesOn : event.endsSync = false := spares
    simp [Happening.TellsEnd, goesOn]
  | _ => exact id

theorem Happening.SparesSync.gives_nothing {happening : Happening} (spares : happening.SparesSync) :
    ¬ happening.Gives := by
  unfold Happening.Gives
  split
  · exact fun _ => spares
  · exact fun _ => spares
  · exact id

namespace Follower

def Without (kind : Happening → Prop) (f g : Follower) : Prop :=
  ∃ new, g.history = new ++ f.history ∧ ∀ happening ∈ new, ¬ kind happening

namespace Without

variable {kind : Happening → Prop} {f g h : Follower}

theorem of_same (history : g.history = f.history) : Without kind f g := ⟨[], history, by simp⟩

theorem refl (f : Follower) : Without kind f f := of_same rfl

theorem trans (first : Without kind f g) (second : Without kind g h) : Without kind f h := by
  obtain ⟨new, grown, none⟩ := first
  obtain ⟨new', grown', none'⟩ := second
  refine ⟨new' ++ new, by rw [grown', grown, List.append_assoc], fun happening member => ?_⟩
  rcases List.mem_append.mp member with member | member
  · exact none' happening member
  · exact none happening member

instance : IsTrans Follower (Without kind) := ⟨fun _ _ _ => trans⟩

theorem note (f : Follower) {happening : Happening} (other : ¬ kind happening) :
    Without kind f (f.note happening) :=
  ⟨[happening], rfl, by simpa using other⟩

theorem of_sameSync (others : ∀ happening, happening.SparesSync → ¬ kind happening)
    (sync : SameSync f g) : Without kind f g := by
  obtain ⟨new, grown, spares⟩ := sync.history
  exact ⟨new, grown, fun happening member => others happening (spares happening member)⟩

theorem mem (none : Without kind f g) {new : List Happening} (grown : g.history = new ++ f.history)
    {happening : Happening} (member : happening ∈ new) : ¬ kind happening := by
  obtain ⟨new', grown', others⟩ := none
  have same : new = new' := List.append_cancel_right (grown.symm.trans grown')
  exact others happening (same ▸ member)

/-- What did not happen since `f` did not happen since a later follower. -/
theorem tail {other : Happening → Prop} (none : Without kind f h) (first : Without other f g)
    (second : Without other g h) : Without kind g h := by
  obtain ⟨new, grown, _⟩ := first
  obtain ⟨new', grown', _⟩ := second
  have since : h.history = (new' ++ new) ++ f.history := by
    rw [grown', grown, List.append_assoc]
  exact ⟨new', grown', fun happening member => none.mem since (List.mem_append_left _ member)⟩

/-- What did not happen since `f` did not happen before an earlier follower. -/
theorem init {other : Happening → Prop} (none : Without kind f h) (first : Without other f g)
    (second : Without other g h) : Without kind f g := by
  obtain ⟨new, grown, _⟩ := first
  obtain ⟨new', grown', _⟩ := second
  have since : h.history = (new' ++ new) ++ f.history := by
    rw [grown', grown, List.append_assoc]
  exact ⟨new, grown, fun happening member => none.mem since (List.mem_append_right _ member)⟩

theorem heard_ends (none : Without Happening.TellsEnd f g) (position : Nat) :
    (heardBy position g.history).filter Event.endsSync =
      (heardBy position f.history).filter Event.endsSync := by
  obtain ⟨new, grown, others⟩ := none
  have silent : (heardBy position new).filter Event.endsSync = [] := by
    rw [List.filter_eq_nil_iff]
    intro event member ends
    obtain ⟨happening, inside, same⟩ := List.mem_filterMap.mp member
    have other := others happening inside
    cases happening with
    | heard listener heard =>
      simp only [Option.ite_none_right_eq_some, Option.some.injEq] at same
      exact other (same.2 ▸ ends)
    | _ => contradiction
  rw [grown, heardBy_append, List.filter_append, silent, List.nil_append]

theorem heard_same (none : Without Happening.Heard f g) (position : Nat) :
    heardBy position g.history = heardBy position f.history := by
  obtain ⟨new, grown, others⟩ := none
  have silent : heardBy position new = [] := by
    refine List.filterMap_eq_nil_iff.mpr fun happening member => ?_
    have other := others happening member
    cases happening with
    | heard listener event => exact absurd trivial other
    | _ => rfl
  rw [grown, heardBy_append, silent, List.nil_append]

end Without

/-- Between `f` and `g` no start and no run began or ended. -/
structure SameSessions (f g : Follower) : Prop where
  backend : g.session.backend = f.session.backend
  token : g.session.token = f.session.token
  state : g.session.state = f.session.state ∨ f.session.state.Attached ∧ g.session.state.Attached
  starts : g.starts = f.starts
  runs : g.runs.map RunLoop.launched = f.runs.map RunLoop.launched
  attempts : g.counts.startAttempts = f.counts.startAttempts
  syncs : g.counts.syncs = f.counts.syncs
  silent : Without Happening.TellsEnd f g

namespace SameSessions

variable {f g h : Follower}

theorem of_sameSync (sync : SameSync f g) : SameSessions f g where
  backend := by rw [sync.session]
  token := by rw [sync.session]
  state := Or.inl (by rw [sync.session])
  starts := sync.starts
  runs := by rw [sync.runs]
  attempts := sync.attempts
  syncs := sync.syncs
  silent := Without.of_sameSync (fun _ spares => spares.tells_no_end) sync

theorem of_sameTasksAndClient (spared : SameTasksAndClient f g) : SameSessions f g :=
  of_sameSync spared.sameSync

theorem refl (f : Follower) : SameSessions f f := of_sameSync (SameSync.refl f)

theorem trans (first : SameSessions f g) (second : SameSessions g h) : SameSessions f h where
  backend := second.backend.trans first.backend
  token := second.token.trans first.token
  state := by
    rcases first.state with same | ⟨before, between⟩
    · rcases second.state with same' | ⟨between', after⟩
      · exact Or.inl (same'.trans same)
      · exact Or.inr ⟨same ▸ between', after⟩
    · rcases second.state with same' | ⟨_, after⟩
      · exact Or.inr ⟨before, same' ▸ between⟩
      · exact Or.inr ⟨before, after⟩
  starts := second.starts.trans first.starts
  runs := second.runs.trans first.runs
  attempts := second.attempts.trans first.attempts
  syncs := second.syncs.trans first.syncs
  silent := first.silent.trans second.silent

instance : Std.Refl SameSessions := ⟨refl⟩

instance : IsTrans Follower SameSessions := ⟨fun _ _ _ => trans⟩

theorem note (f : Follower) {happening : Happening} (silent : ¬ happening.TellsEnd) :
    SameSessions f (f.note happening) :=
  ⟨rfl, rfl, Or.inl rfl, rfl, rfl, rfl, rfl, Without.note f silent⟩

end SameSessions

/-- Since `f` nobody was given a backend, and a link that there is was there in `f`. -/
structure Unlinks (f g : Follower) : Prop where
  wallet : g.wallet.link = f.wallet.link ∨ g.wallet.link = none
  loader : g.loader.link = f.loader.link ∨ g.loader.link = none
  gives : Without Happening.Gives f g

namespace Unlinks

variable {f g h : Follower}

theorem of_sameSync (sync : SameSync f g) : Unlinks f g :=
  ⟨Or.inl sync.walletLink, Or.inl sync.loaderLink,
    Without.of_sameSync (fun _ spares => spares.gives_nothing) sync⟩

theorem of_sameTasksAndClient (spared : SameTasksAndClient f g) : Unlinks f g :=
  of_sameSync spared.sameSync

theorem refl (f : Follower) : Unlinks f f := of_sameSync (SameSync.refl f)

theorem link_trans {a b c : Option Link} (first : b = a ∨ b = none) (second : c = b ∨ c = none) :
    c = a ∨ c = none := by
  rcases second with rfl | gone
  · exact first
  · exact Or.inr gone

theorem trans (first : Unlinks f g) (second : Unlinks g h) : Unlinks f h :=
  ⟨link_trans first.wallet second.wallet, link_trans first.loader second.loader,
    first.gives.trans second.gives⟩

instance : Std.Refl Unlinks := ⟨refl⟩

instance : IsTrans Follower Unlinks := ⟨fun _ _ _ => trans⟩

theorem note (f : Follower) {happening : Happening} (other : ¬ happening.Gives) :
    Unlinks f (f.note happening) :=
  ⟨Or.inl rfl, Or.inl rfl, Without.note f other⟩

end Unlinks

open Act

def walletLinked (f : Follower) (link : Option Link) : Follower :=
  (f.saw (.walletBackend link f.session.state)).setLink link

def loaderLinked (f : Follower) (link : Option Link) : Follower :=
  let f := f.saw (.loaderBackend link f.session.state)
  { f with loader := { f.loader with link := link } }

def recorded (place : Place) (sight : Follower → Sight) (change : Follower → Follower) :
    Act Unit := do
  Act.update (fun f => f.saw (sight f))
  Act.panicAt place
  Act.update change

theorem recorded_cases (place : Place) (sight : Follower → Sight) (change : Follower → Follower)
    (f : Follower) :
    f.Holds place ∧ (recorded place sight change).run f = (.ok (), change (f.saw (sight f))) ∨
      ¬ f.Holds place ∧ ∃ text,
        (recorded place sight change).run f = (.error (.panicked text), f.saw (sight f)) := by
  unfold recorded
  rw [run_bind, run_update]
  dsimp only
  rw [run_bind]
  rcases panicAt_cases place (f.saw (sight f)) with ⟨hold, came⟩ | ⟨breaks, text, came⟩
  · rw [came]
    exact Or.inl ⟨hold, rfl⟩
  · rw [came]
    exact Or.inr ⟨breaks, text, rfl⟩

theorem setWalletLink_cases (link : Option Link) (f : Follower) :
    f.Holds .walletBackend ∧ (setWalletLink link).run f = (.ok (), f.walletLinked link) ∨
      ¬ f.Holds .walletBackend ∧ ∃ text, (setWalletLink link).run f =
        (.error (.panicked text), f.saw (.walletBackend link f.session.state)) :=
  recorded_cases .walletBackend (fun f => .walletBackend link f.session.state)
    (fun f => f.setLink link) f

theorem setLoaderLink_cases (link : Option Link) (f : Follower) :
    f.Holds .loaderBackend ∧ (setLoaderLink link).run f = (.ok (), f.loaderLinked link) ∨
      ¬ f.Holds .loaderBackend ∧ ∃ text, (setLoaderLink link).run f =
        (.error (.panicked text), f.saw (.loaderBackend link f.session.state)) :=
  recorded_cases .loaderBackend (fun f => .loaderBackend link f.session.state)
    (fun f => { f with loader := { f.loader with link := link } }) f

theorem SameSessions.setWalletLink (link : Option Link) :
    Keeps SameSessions (setWalletLink link) := by
  refine keeps_bind (keeps_update fun f => note f id) fun _ => ?_
  refine keeps_bind (keeps_panicAt _) fun _ => keeps_update fun f => ?_
  exact ⟨rfl, rfl, Or.inl rfl, rfl, rfl, rfl, rfl, Without.of_same rfl⟩

theorem SameSessions.setLoaderLink (link : Option Link) :
    Keeps SameSessions (setLoaderLink link) := by
  refine keeps_bind (keeps_update fun f => note f id) fun _ => ?_
  refine keeps_bind (keeps_panicAt _) fun _ => keeps_update fun f => ?_
  exact ⟨rfl, rfl, Or.inl rfl, rfl, rfl, rfl, rfl, Without.of_same rfl⟩

theorem Unlinks.setWalletLink : Keeps Unlinks (setWalletLink none) := by
  refine keeps_bind (keeps_update fun f => note f id) fun _ => ?_
  refine keeps_bind (keeps_panicAt _) fun _ => keeps_update fun f => ?_
  exact ⟨Or.inr rfl, Or.inl rfl, Without.of_same rfl⟩

theorem Unlinks.setLoaderLink : Keeps Unlinks (setLoaderLink none) := by
  refine keeps_bind (keeps_update fun f => note f id) fun _ => ?_
  refine keeps_bind (keeps_panicAt _) fun _ => keeps_update fun f => ?_
  exact ⟨Or.inl rfl, Or.inr rfl, Without.of_same rfl⟩

section
variable {related : Follower → Follower → Prop} [Std.Refl related] [IsTrans Follower related]

theorem keeps_unlink (wallet : Keeps related (setWalletLink none))
    (loader : Keeps related (setLoaderLink none)) : Keeps related unlink := by
  refine keeps_bind keeps_get fun f => ?_
  split
  · exact keeps_bind wallet fun _ => loader
  · exact loader

/-- Closing takes links away and leaves sync and rescans alone otherwise. -/
theorem keeps_close (calls : ∀ {f g}, CallsOnly True f g → related f g)
    (closes : ∀ f number, related f (f.saw (.indexClose number)))
    (wallet : Keeps related (setWalletLink none)) (loader : Keeps related (setLoaderLink none)) :
    Keeps related close := by
  refine keeps_bind (keeps_unlink wallet loader) fun _ => ?_
  have dropped : Keeps related dropIndex :=
    keeps_dropIndex (fun f => calls (.opened trivial rfl)) closes
      fun f record => calls (.log f record)
  refine keeps_bind dropped fun _ => ?_
  refine keeps_bind (fun f => calls (CallsOnly.unloadWallet f)) fun result => ?_
  refine keeps_bind (fun f => calls (CallsOnly.orFail result f)) fun _ => ?_
  exact keeps_update fun f => calls (CallsOnly.log f .closed)

/-- A notification may change the state between running and synced, and leaves sync and rescans
alone otherwise. -/
theorem related_notify (logs : ∀ f record, related f (f.log record))
    (sends : ∀ f {event}, event.endsSync = false → related f (f.broadcast event))
    (flips : ∀ {f : Follower} {caughtUp state},
      syncedState? f.session.state caughtUp = some state → related f (f.setState state))
    (kind : BackendKind) (notification : Notification) (f : Follower) :
    related f (f.notify kind notification) := by
  have told (record : LogRecord) {event : Event} (goesOn : event.endsSync = false) (f : Follower) :
      related f ((f.log record).broadcast event) :=
    IsTrans.trans f _ _ (logs f record) (sends _ goesOn)
  cases notification with
  | peerConnected count =>
    simp only [Follower.notify]
    split
    · exact told _ rfl f
    · exact Std.Refl.refl f
  | peerDisconnected count =>
    simp only [Follower.notify]
    split
    · exact told _ rfl f
    · exact Std.Refl.refl f
  | synced caughtUp =>
    simp only [Follower.notify]
    split
    · rename_i state changes
      exact IsTrans.trans f _ _ (flips changes) (told _ rfl _)
    · exact sends f rfl
  | rescanProgress height => exact sends f rfl
  | rescanFinished height => exact sends f rfl

theorem related_notifyEach
    (notified : ∀ kind notification f, related f (notify kind f notification))
    (kind : BackendKind) (notices : List Notification) (f : Follower) :
    related f (notices.foldl (notify kind) f) := by
  induction notices generalizing f with
  | nil => exact Std.Refl.refl f
  | cons notice rest ih => exact IsTrans.trans f _ _ (notified kind notice f) (ih _)

end

theorem SameSessions.notify (kind : BackendKind) (notification : Notification) (f : Follower) :
    SameSessions f (f.notify kind notification) := by
  refine related_notify (fun f record => of_sameTasksAndClient (.log f record))
    (fun f _ goesOn => of_sameTasksAndClient (.broadcast f goesOn)) ?_ kind notification f
  intro f caughtUp state changes
  have flips : f.session.state.Attached ∧ state.Attached := by
    unfold syncedState? at changes
    split at changes
    · rename_i running
      cases changes
      exact ⟨Or.inl running, Or.inr rfl⟩
    · rename_i synced
      cases changes
      exact ⟨Or.inr synced, Or.inl rfl⟩
    · contradiction
  exact ⟨rfl, rfl, Or.inr flips, rfl, rfl, rfl, rfl, Without.note f id⟩

theorem Unlinks.notify (kind : BackendKind) (notification : Notification) (f : Follower) :
    Unlinks f (f.notify kind notification) :=
  related_notify (fun f record => of_sameTasksAndClient (.log f record))
    (fun f _ goesOn => of_sameTasksAndClient (.broadcast f goesOn))
    (fun _ => ⟨Or.inl rfl, Or.inl rfl, Without.note _ id⟩) kind notification f

/-- Marking a run as begun leaves it the run that was launched. -/
theorem map_launched_begun (runs : List RunLoop) (number : Nat) :
    (runs.map (fun other =>
      if other.number = number then { other with begun := true } else other)).map
        RunLoop.launched = runs.map RunLoop.launched := by
  rw [List.map_map]
  refine List.map_congr_left fun run _ => ?_
  unfold Function.comp RunLoop.launched
  dsimp only
  split <;> rfl

theorem SameSessions.callRun (f : Follower) (run : RunLoop) : SameSessions f (f.callRun run) := by
  refine trans ?_ (related_notifyEach notify _ _ _)
  exact ⟨rfl, rfl, Or.inl rfl, rfl, map_launched_begun f.runs run.number, rfl, rfl,
    Without.note f id⟩

theorem Unlinks.callRun (f : Follower) (run : RunLoop) : Unlinks f (f.callRun run) := by
  refine trans ?_ (related_notifyEach notify _ _ _)
  exact ⟨Or.inl rfl, Or.inl rfl, Without.note f id⟩

theorem SameSessions.close : Keeps SameSessions close :=
  keeps_close (fun calls => of_sameTasksAndClient calls.sameTasksAndClient)
    (fun f _ => of_sameTasksAndClient (.saw f trivial)) (setWalletLink none) (setLoaderLink none)

theorem Unlinks.close : Keeps Unlinks close :=
  keeps_close (fun calls => of_sameTasksAndClient calls.sameTasksAndClient)
    (fun f _ => of_sameTasksAndClient (.saw f trivial)) setWalletLink setLoaderLink

end Follower

end ChainFollower
