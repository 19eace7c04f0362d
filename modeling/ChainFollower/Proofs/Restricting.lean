import ChainFollower.Proofs.Dialling
import ChainFollower.Proofs.Entries
import ChainFollower.Proofs.Normalizing
import ChainFollower.Proofs.Voices

/-!
A start with peers: listeners are told of each entry that is no address and of nothing else, and the
syncer that is built has the addresses before it can be run.
-/

namespace ChainFollower

namespace Endpoint

def normals (port : UInt16) (entries : List String) : List String :=
  entries.filterMap fun entry => (normal port entry).toOption

def complaint? (port : UInt16) (entry : String) : Option Event :=
  match normal port entry with
  | .ok _ => none
  | .error e => some (.syncError .invalidPeerAddress (.address e))

def complaints (port : UInt16) (entries : List String) : List Event :=
  entries.filterMap (complaint? port)

section

variable {port : UInt16} {entry : String} {rest : List String}

theorem normals_cons_ok {endpoint : Endpoint} (read : ofAddress port entry = .ok endpoint) :
    normals port (entry :: rest) = endpoint.render :: normals port rest := by
  have accepted : normal port entry = .ok endpoint.render := by rw [normal, read]; rfl
  simp [normals, accepted, Except.toOption]

theorem normals_cons_error {e : AddressError} (refused : ofAddress port entry = .error e) :
    normals port (entry :: rest) = normals port rest := by
  have refused : normal port entry = .error e := by rw [normal, refused]; rfl
  simp [normals, refused, Except.toOption]

theorem complaints_cons_ok {endpoint : Endpoint} (read : ofAddress port entry = .ok endpoint) :
    complaints port (entry :: rest) = complaints port rest := by
  have accepted : normal port entry = .ok endpoint.render := by rw [normal, read]; rfl
  simp [complaints, complaint?, accepted]

theorem complaints_cons_error {e : AddressError} (refused : ofAddress port entry = .error e) :
    complaints port (entry :: rest) =
      .syncError .invalidPeerAddress (.address e) :: complaints port rest := by
  have refused : normal port entry = .error e := by rw [normal, refused]; rfl
  simp [complaints, complaint?, refused]

theorem ne_synced_of_mem_complaints {entries : List String} {event : Event}
    (member : event ∈ complaints port entries) : event ≠ .synced false := by
  obtain ⟨entry, -, told⟩ := List.mem_filterMap.mp member
  rintro rfl
  simp only [complaint?] at told
  split at told <;> cases told

end

end Endpoint

def Happening.sight? : Happening → Option Sight
  | saw sight => some sight
  | _ => none

def Sight.makesSpv : Sight → Bool
  | spvSyncer _ _ => true
  | _ => false

namespace Follower

open Act

def sights (f : Follower) : List Sight :=
  (f.history.filterMap Happening.sight?).reverse

/-- Between `f` and `g` just these events were sent, each once to every listener, the first first. What
listeners send by cancelling the sync meanwhile comes on top. -/
def Utters (events : List Event) (f g : Follower) : Prop :=
  ∃ dispatches, Voices dispatches f g ∧ dispatches.map Dispatch.event = events ∧
    ∀ position, f.hears position = true →
      (g.hearing position).filter (· ≠ .synced false) =
        (f.hearing position).filter (· ≠ .synced false) ++ events ∧
      ((∀ dispatch ∈ dispatches, dispatch.round.sent = 0) →
        g.hearing position = f.hearing position ++ events)

theorem Voices.utters {dispatches : List Dispatch} {f g : Follower} (voices : Voices dispatches f g)
    (others : ∀ event ∈ dispatches.map Dispatch.event, event ≠ .synced false) :
    Utters (dispatches.map Dispatch.event) f g := by
  refine ⟨dispatches, voices, rfl, fun position hears => ?_⟩
  refine ⟨voices.hearing_filter hears fun dispatch member => ?_, voices.hearing_exact hears⟩
  exact others _ (List.mem_map_of_mem member)

/-- Between `f` and `g` these events were sent and these calls made, the first first. The same calls
are set up to fail, and syncers of peers are counted. -/
structure Comes (dispatches : List Dispatch) (calls : List Sight) (f g : Follower) : Prop where
  voices : Voices dispatches f g
  sights : g.sights = f.sights ++ calls
  faults : g.faults = f.faults
  count : g.counts.spvSyncers = f.counts.spvSyncers + calls.countP Sight.makesSpv

namespace Comes

variable {dispatches : List Dispatch} {f g h : Follower}

theorem silent (new : List Happening) (listeners : g.listeners = f.listeners)
    (faults : g.faults = f.faults) (grown : g.history = new ++ f.history)
    (unheard : ∀ happening ∈ new, ¬ happening.Heard)
    (count : g.counts.spvSyncers =
      f.counts.spvSyncers + (new.filterMap Happening.sight?).reverse.countP Sight.makesSpv) :
    Comes [] (new.filterMap Happening.sight?).reverse f g where
  voices := by
    refine .silent (Retains.of_same listeners) fun position => ?_
    have none : Without Happening.Heard f g := ⟨new, grown, unheard⟩
    rw [Follower.hearing, none.heard_same, Follower.hearing]
  sights := by rw [Follower.sights, grown, List.filterMap_append, List.reverse_append]; rfl
  faults := faults
  count := count

theorem refl (f : Follower) : Comes [] [] f f :=
  silent [] rfl rfl rfl (by simp) rfl

theorem trans {later : List Dispatch} {calls calls' : List Sight}
    (first : Comes dispatches calls f g) (second : Comes later calls' g h) :
    Comes (dispatches ++ later) (calls ++ calls') f h where
  voices := first.voices.trans second.voices
  sights := by rw [second.sights, first.sights, List.append_assoc]
  faults := second.faults.trans first.faults
  count := by rw [second.count, first.count, List.countP_append, Nat.add_assoc]

theorem log (f : Follower) (record : LogRecord) : Comes [] [] f (f.log record) :=
  silent [.logged record] rfl rfl rfl (by simp [Happening.Heard]) rfl

theorem saw (f : Follower) {sight : Sight} (other : sight.makesSpv = false) :
    Comes [] [sight] f (f.saw sight) := by
  refine silent [.saw sight] rfl rfl rfl (by simp [Happening.Heard]) ?_
  simp [Happening.sight?, other, Follower.saw, note]

theorem broadcast (f : Follower) (event : Event) :
    ∃ round, Comes [⟨event, round⟩] [] f (f.broadcast event) := by
  obtain ⟨round, everyone, sends⟩ := sends_broadcast event f
  obtain ⟨ls, ts, hs, same, -, -, telling⟩ := Told.broadcast event f
  refine ⟨round, .sends everyone sends, ?_, by rw [same], by rw [same]; rfl⟩
  have none : hs.filterMap Happening.sight? = [] := by
    refine List.filterMap_eq_nil_iff.mpr fun happening member => ?_
    have kind := telling happening member
    cases happening with
    | saw sight => exact kind.elim
    | _ => rfl
  rw [same, Follower.sights, List.filterMap_append, none, List.nil_append, List.append_nil]
  rfl

theorem walletLinked (f : Follower) (link : Option Link) :
    Comes [] [.walletBackend link f.session.state] f (f.walletLinked link) :=
  silent [.saw _] rfl rfl rfl (by simp [Happening.Heard]) rfl

theorem loaderLinked (f : Follower) (link : Option Link) :
    Comes [] [.loaderBackend link f.session.state] f (f.loaderLinked link) :=
  silent [.saw _] rfl rfl rfl (by simp [Happening.Heard]) rfl

theorem abortStart (f : Follower) : Comes [] [] f f.abortStart := by
  refine silent [.stateSet .idle] ?_ ?_ (abortStart_history f) (by simp [Happening.Heard]) ?_
  all_goals
    unfold Follower.abortStart cancelQuietly
    split <;> rfl

theorem entered (f : Follower) (config : BackendConfig) : Comes [] [] f (f.entered config) :=
  silent [.logged (.starting config), .stateSet .starting] rfl rfl rfl
    (by simp [Happening.Heard]) rfl

end Comes

theorem normalizeEach_fst (port : UInt16) (entries : List String) (f : Follower) :
    (normalizeEach port entries f).1 = Endpoint.normals port entries := by
  induction entries generalizing f with
  | nil => rfl
  | cons entry rest ih =>
    unfold normalizeEach
    split
    · rename_i endpoint read
      rw [Endpoint.normals_cons_ok read, ← ih f]
    · rename_i e refused
      rw [Endpoint.normals_cons_error refused, ih]

theorem Comes.complains {dispatches : List Dispatch} {calls : List Sight} {f g : Follower}
    {port : UInt16} {entries : List String} (comes : Comes dispatches calls f g)
    (told : dispatches.map Dispatch.event = Endpoint.complaints port entries) :
    Utters (Endpoint.complaints port entries) f g := by
  rw [← told]
  refine comes.voices.utters fun event member => ?_
  exact Endpoint.ne_synced_of_mem_complaints (told ▸ member)

theorem normalizeEach_comes (port : UInt16) (entries : List String) (f : Follower) :
    ∃ dispatches, dispatches.map Dispatch.event = Endpoint.complaints port entries ∧
      Comes dispatches [] f (normalizeEach port entries f).2 := by
  induction entries generalizing f with
  | nil => exact ⟨[], rfl, .refl f⟩
  | cons entry rest ih =>
    unfold normalizeEach
    split
    · rename_i endpoint read
      rw [Endpoint.complaints_cons_ok read]
      exact ih f
    · rename_i e refused
      obtain ⟨round, told⟩ := Comes.broadcast (f.log (.peerInvalid e))
        (.syncError .invalidPeerAddress (.address e))
      obtain ⟨dispatches, same, comes⟩ := ih _
      refine ⟨⟨_, round⟩ :: dispatches, ?_, (Comes.log f _).trans (told.trans comes)⟩
      rw [Endpoint.complaints_cons_error refused, List.map_cons, same]

/-- Nothing else is changed by that. -/
theorem normalizeEach_told (port : UInt16) (entries : List String) (f : Follower) :
    Told (fun _ => True) f (normalizeEach port entries f).2 := by
  induction entries generalizing f with
  | nil => exact .refl f
  | cons entry rest ih =>
    unfold normalizeEach
    split
    · exact ih f
    · exact ((Told.log f _).trans ((Told.broadcast _ _).mono fun _ _ => trivial)).trans (ih _)

theorem run_normalizePeers (entries : List String) (f : Follower) :
    (normalizePeers entries).run f =
      let port := f.config.network.peerPort
      (if entries ≠ [] ∧ Endpoint.normals port entries = [] then .error (.failed .invalidPeers)
        else .ok (Endpoint.normals port entries), (normalizeEach port entries f).2) := by
  cases entries with
  | nil => rfl
  | cons entry rest =>
    have given : (entry :: rest).isEmpty = false := rfl
    unfold normalizePeers
    rw [given, if_neg Bool.false_ne_true, run_bind, run_get]
    dsimp only
    rw [run_bind, run_set]
    dsimp only
    rw [normalizeEach_fst]
    cases Endpoint.normals f.config.network.peerPort (entry :: rest) with
    | nil => simp
    | cons address others => simp

/-- What work comes to that makes these calls at these places: the value if none of them panics, and
else it stops at one that does. -/
inductive Calling {α : Type} (calls : List Sight) (places : List Place) (value : α) (f : Follower) :
    Except Stop α × Follower → Prop where
  | done {g : Follower} (hold : ∀ place ∈ places, f.Holds place) (comes : Comes [] calls f g) :
    Calling calls places value f (.ok value, g)
  | broken {made : List Sight} {place : Place} {text : String} {g : Follower}
      (called : place ∈ places) (breaks : ¬ f.Holds place) (before : made <+: calls)
      (comes : Comes [] made f g) : Calling calls places value f (.error (.panicked text), g)

namespace Calling

variable {α β : Type} {calls calls' : List Sight} {places places' : List Place} {value : α}
  {value' : β} {f : Follower}

theorem pure (value : α) (f : Follower) : Calling [] [] value f ((pure value : Act α).run f) :=
  .done (by simp) (.refl f)

/-- More is called after the calls were made. -/
theorem next {g : Follower} {result : Except Stop β × Follower}
    (hold : ∀ place ∈ places, f.Holds place) (comes : Comes [] calls f g)
    (rest : Calling calls' places' value' g result) :
    Calling (calls ++ calls') (places ++ places') value' f result := by
  cases rest with
  | done hold' comes' =>
    refine .done (fun place member => ?_) (comes.trans comes')
    rcases List.mem_append.mp member with inside | inside
    · exact hold place inside
    · exact (hold' place inside).of_faults comes.faults.symm
  | broken called breaks before comes' =>
    refine .broken (List.mem_append_right _ called) ?_ ?_ (comes.trans comes')
    · exact fun holds => breaks (holds.of_faults comes.faults)
    · exact (List.prefix_append_right_inj _).mpr before

theorem bind {work : Act α} {next : α → Act β}
    (first : Calling calls places value f (work.run f))
    (rest : ∀ g, Calling calls' places' value' g ((next value).run g)) :
    Calling (calls ++ calls') (places ++ places') value' f ((work >>= next).run f) := by
  rw [run_bind]
  generalize work.run f = result at first
  cases first with
  | done hold comes => exact .next hold comes (rest _)
  | broken called breaks before comes =>
    have inside := before.trans (List.prefix_append calls calls')
    exact .broken (List.mem_append_left _ called) breaks inside comes

/-- The calls of the launch come after those that build the backend. -/
theorem launch {attempt number : Nat} {backend : Backend} {built : Except Stop Backend × Follower}
    (building : Calling calls places backend f built)
    (launching : Calling calls' places' number built.2
      ((Follower.launch attempt backend).run built.2)) :
    Calling (calls ++ calls') (places ++ places') number f (launchOrAbort attempt built) := by
  cases building with
  | done hold comes => exact .next hold comes launching
  | @broken made place text g called breaks before comes =>
    have ended := comes.trans (.abortStart g)
    simp only [List.append_nil] at ended
    have inside := before.trans (List.prefix_append calls calls')
    exact .broken (List.mem_append_left _ called) breaks inside ended

theorem value_eq {value' : α} {f g : Follower}
    (calling : Calling calls places value f (.ok value', g)) : value' = value := by
  cases calling
  rfl

/-- A call is made before it may panic. -/
theorem call (place : Place) {sight : Sight} (other : sight.makesSpv = false) (f : Follower) :
    Calling [sight] [place] () f ((do
      Act.update (fun f => f.saw sight)
      Act.panicAt place : Act Unit).run f) := by
  rw [run_bind, run_update]
  dsimp only
  rcases panicAt_cases place (f.saw sight) with ⟨hold, came⟩ | ⟨breaks, text, came⟩
  · rw [came]
    refine .done (fun other same => ?_) (.saw f other)
    rw [List.mem_singleton.mp same]
    exact hold
  · rw [came]
    exact .broken List.mem_cons_self breaks (List.prefix_refl _) (.saw f other)

theorem after {g : Follower} {result : Except Stop α × Follower} (before : Comes [] [] f g)
    (calling : Calling calls places value g result) : Calling calls places value f result := by
  cases calling with
  | done hold comes =>
    exact .done (fun place member => (hold place member).of_faults before.faults.symm)
      (before.trans comes)
  | broken called breaks reached comes =>
    exact .broken called (fun holds => breaks (holds.of_faults before.faults)) reached
      (before.trans comes)

end Calling

def nextSpv (f : Follower) : Syncer := ⟨.spv, f.counts.spvSyncers + 1⟩

def restriction (syncer : Syncer) (addresses : List String) : List Sight :=
  if addresses = [] then [] else [.peers syncer addresses]

def buildCalls (f : Follower) (addresses : List String) : List Sight :=
  [.spvSyncer f.nextSpv f.config.network.name, .notifications f.nextSpv] ++
    restriction f.nextSpv addresses

def buildPlaces (addresses : List String) : List Place :=
  [.spvSyncer, .notifications] ++ if addresses = [] then [] else [.peers]

def attachCalls (f : Follower) : List Sight :=
  [.walletBackend (some (.syncer f.nextSpv)) .starting,
    .loaderBackend (some (.syncer f.nextSpv)) .starting]

def attachPlaces : List Place := [.backendLink, .walletBackend, .loaderBackend]

section

variable {f g : Follower}

theorem calling_makeSpvSyncer (f : Follower) :
    Calling [.spvSyncer f.nextSpv f.config.network.name] [.spvSyncer] f.nextSpv.number f
      (makeSpvSyncer.run f) := by
  let sight := Sight.spvSyncer f.nextSpv f.config.network.name
  let called := Follower.saw
    { f with counts := { f.counts with spvSyncers := f.nextSpv.number } } sight
  have comes : Comes [] [sight] f called :=
    .silent [.saw sight] rfl rfl rfl (by simp [Happening.Heard]) rfl
  have calls : makeSpvSyncer.run f = (do
      Act.panicAt .spvSyncer
      Act.update (fun g => { g with syncers := (f.nextSpv, g.scripts.spvRun) :: g.syncers })
      pure f.nextSpv.number : Act Nat).run called := rfl
  rw [calls, run_bind]
  rcases panicAt_cases .spvSyncer called with ⟨hold, came⟩ | ⟨breaks, text, came⟩
  · rw [came]
    refine .done (fun place same => ?_) (comes.trans (.silent [] rfl rfl rfl (by simp) rfl))
    rw [List.mem_singleton.mp same]
    exact hold
  · rw [came]
    exact .broken List.mem_cons_self breaks (List.prefix_refl _) comes

theorem calling_restrictPeers (syncer : Syncer) (addresses : List String) (f : Follower) :
    Calling (restriction syncer addresses) (if addresses = [] then [] else [.peers]) () f
      ((restrictPeers syncer addresses).run f) := by
  cases addresses with
  | nil => exact .pure () f
  | cons address rest =>
    have other : (Sight.peers syncer (address :: rest)).makesSpv = false := rfl
    have called := Calling.call .peers other (f.log (.peersRestricted (address :: rest).length))
    exact .after (.log f _) called

theorem calling_buildSpv {entries : List String} {f : Follower}
    (accepted : entries = [] ∨ Endpoint.normals f.config.network.peerPort entries ≠ []) :
    let addresses := Endpoint.normals f.config.network.peerPort entries
    let e := (normalizeEach f.config.network.peerPort entries f).2
    Calling (f.buildCalls addresses) (buildPlaces addresses) (.spv f.nextSpv.number) e
      ((buildSpv entries).run f) := by
  intro addresses e
  obtain ⟨ls, ts, hs, same, -⟩ := normalizeEach_told f.config.network.peerPort entries f
  have next : e.nextSpv = f.nextSpv := by simp only [e, nextSpv, same]
  have network : e.config.network.name = f.config.network.name := by simp only [e, same]
  have made := calling_makeSpvSyncer e
  rw [next, network] at made
  have told (g : Follower) : Calling [.notifications f.nextSpv] [.notifications] () g
      ((setNotifications f.nextSpv).run g) := .call _ rfl g
  have restricted := calling_restrictPeers f.nextSpv addresses
  have finished := Calling.pure (Backend.spv f.nextSpv.number)
  unfold buildSpv
  rw [run_bind, run_normalizePeers]
  have goesOn : ¬ (entries ≠ [] ∧ addresses = []) := by
    rintro ⟨some, none⟩
    exact accepted.elim some fun other => other none
  dsimp only
  rw [if_neg goesOn]
  have calls : f.buildCalls addresses =
      [.spvSyncer f.nextSpv f.config.network.name] ++ ([.notifications f.nextSpv] ++
        (restriction f.nextSpv addresses ++ [])) := by simp [buildCalls]
  have places : buildPlaces addresses =
      [.spvSyncer] ++ ([.notifications] ++ ((if addresses = [] then [] else [.peers]) ++ [])) := by
    simp [buildPlaces]
  rw [calls, places]
  exact made.bind fun g => (told g).bind fun g => (restricted g).bind finished

theorem calling_attach (attempt : Nat) {f g : Follower} (state : g.session.state = .starting) :
    Calling (f.attachCalls) attachPlaces (g.counts.syncs + 1) g
      ((launch attempt (.spv f.nextSpv.number)).run g) := by
  let backend := Backend.spv f.nextSpv.number
  let link := some (Link.syncer f.nextSpv)
  have calls : f.attachCalls =
      [.walletBackend link g.session.state, .loaderBackend link g.session.state] := by
    rw [state]
    rfl
  have wallet := Comes.walletLinked g link
  have linked := wallet.trans (.loaderLinked _ link)
  rcases launch_cases attempt backend g with ⟨calm, came⟩ | ⟨text, h, came, breaks⟩
  · rw [came, calls]
    refine .done ?_ ?_
    · intro place member
      simp only [attachPlaces, List.mem_cons, List.not_mem_nil, or_false] at member
      rcases member with rfl | rfl | rfl
      · exact calm.backend
      · exact calm.wallet
      · exact calm.loader
    · have started : Comes [] [] ((g.walletLinked link).loaderLinked link)
          (((g.attached backend).announced backend).withRun attempt backend) :=
        .silent [.stateSet .running] rfl rfl rfl (by simp [Happening.Heard]) rfl
      exact linked.trans started
  · rw [came, calls]
    cases breaks with
    | backend breaks =>
      have called : Place.backendLink ∈ attachPlaces := by simp [attachPlaces]
      exact .broken called breaks List.nil_prefix (.refl g)
    | wallet holds breaks =>
      have called : Place.walletBackend ∈ attachPlaces := by simp [attachPlaces]
      exact .broken called breaks (List.prefix_append [_] _) (.saw g rfl)
    | loader holds given breaks =>
      have called : Place.loaderBackend ∈ attachPlaces := by simp [attachPlaces]
      exact .broken called breaks (List.prefix_refl _) (wallet.trans (.saw _ rfl))

end

theorem countP_peerCalls (f : Follower) (addresses : List String) :
    (f.buildCalls addresses ++ f.attachCalls).countP Sight.makesSpv = 1 := by
  cases addresses with
  | nil => rfl
  | cons address rest =>
    simp only [buildCalls, attachCalls, restriction, if_neg (List.cons_ne_nil address rest)]
    rfl

/-- What a start comes to whose peers are accepted: a syncer is made, told of the addresses and
attached, and its run is yet to be called, or one of the calls panics. -/
inductive Launches (addresses : List String) (f : Follower) :
    Except Stop Started × Follower → Prop where
  | launched {g : Follower} (hold : ∀ place ∈ buildPlaces addresses ++ attachPlaces, f.Holds place)
      (calls : g.sights = f.sights ++ (f.buildCalls addresses ++ f.attachCalls))
      (count : g.counts.spvSyncers = f.counts.spvSyncers + 1)
      (runs : g.runs = f.runs ++ [⟨f.counts.syncs + 1, f.counts.startAttempts + 1,
        .spv f.nextSpv.number, false⟩]) :
    Launches addresses f (.ok (.launched (f.counts.syncs + 1)), g)
  | panicked {text : String} {made : List Sight} {place : Place} {g : Follower}
      (called : place ∈ buildPlaces addresses ++ attachPlaces) (breaks : ¬ f.Holds place)
      (before : made <+: f.buildCalls addresses ++ f.attachCalls)
      (calls : g.sights = f.sights ++ made)
      (count : g.counts.spvSyncers = f.counts.spvSyncers + made.countP Sight.makesSpv)
      (runs : g.runs = f.runs) : Launches addresses f (.error (.panicked text), g)

/-- What a start with these entries comes to that is not barred. -/
structure PeerStart (entries : List String) (f : Follower) (came : Except Stop Started × Follower) :
    Prop where
  /-- Each entry that is no address is complained of once, in their order. -/
  told : Utters (Endpoint.complaints f.config.network.peerPort entries) f came.2
  /-- Entries none of which is an address make no syncer. -/
  refused : entries ≠ [] → Endpoint.normals f.config.network.peerPort entries = [] →
    came.1 = .error (.failed .invalidPeers) ∧ came.2.sights = f.sights ∧
      came.2.counts.spvSyncers = f.counts.spvSyncers ∧ came.2.runs = f.runs
  launches : entries = [] ∨ Endpoint.normals f.config.network.peerPort entries ≠ [] →
    Launches (Endpoint.normals f.config.network.peerPort entries) f came

theorem run_startSync_spv (entries : List String) {f : Follower} (free : f.startBarrier? = none) :
    (startSync (.spv entries)).run f =
      let came := launchOrAbort (f.counts.startAttempts + 1)
        ((buildSpv entries).run (f.entered (.spv entries)))
      (came.1.map Started.launched, came.2) :=
  run_startSync_ready free rfl

theorem runs_launch (attempt : Nat) (backend : Backend) (f : Follower) :
    match (launch attempt backend).run f with
    | (.ok number, g) => g.runs = f.runs ++ [⟨number, attempt, backend, false⟩]
    | (.error _, g) => g.runs = f.runs := by
  rcases launch_cases attempt backend f with ⟨-, came⟩ | ⟨text, g, came, breaks⟩
  · rw [came]
    dsimp only
    rw [withRun, (SameSync.announced (f.attached backend) backend).runs]
    rfl
  · rw [came]
    cases breaks <;> rfl

theorem runs_launchOrAbort (attempt : Nat) (built : Except Stop Backend × Follower) :
    match launchOrAbort attempt built with
    | (.ok number, g) =>
      ∃ backend, built.1 = .ok backend ∧
        g.runs = built.2.runs ++ [⟨number, attempt, backend, false⟩]
    | (.error _, g) => g.runs = built.2.runs := by
  rcases built with ⟨stop | backend, h⟩
  · exact congrArg Standing.runs (stopped_standing h stop)
  · have launching : launchOrAbort attempt (.ok backend, h) = (launch attempt backend).run h := rfl
    have runs := runs_launch attempt backend h
    rw [launching]
    generalize (launch attempt backend).run h = result at runs
    rcases result with ⟨stop | number, g⟩
    · exact runs
    · exact ⟨backend, rfl, runs⟩

section

variable {entries : List String} {f : Follower}

theorem peerStart_refused (free : f.startBarrier? = none) (given : entries ≠ [])
    (none : Endpoint.normals f.config.network.peerPort entries = []) :
    PeerStart entries f ((startSync (.spv entries)).run f) := by
  let e := f.entered (.spv entries)
  let g := (normalizeEach f.config.network.peerPort entries e).2
  have refuses : (buildSpv entries).run e = (.error (.failed .invalidPeers), g) := by
    unfold buildSpv
    rw [run_bind, run_normalizePeers]
    dsimp only
    rw [if_pos ⟨given, none⟩]
    rfl
  have sync := (builds_buildSpv entries).dialled.sameSync e
  rw [refuses] at sync
  have runs : (g.log (.startFailed .invalidPeers)).abortStart.runs = f.runs :=
    (congrArg Standing.runs (abortStart_standing _)).trans sync.runs
  obtain ⟨dispatches, events, told⟩ := normalizeEach_comes f.config.network.peerPort entries e
  have ended := (Comes.log g (.startFailed .invalidPeers)).trans (.abortStart _)
  have comes : Comes dispatches [] f (g.log (.startFailed .invalidPeers)).abortStart := by
    simpa using ((Comes.entered f (.spv entries)).trans told).trans ended
  have sights := comes.sights.trans (List.append_nil _)
  rw [run_startSync_spv entries free, refuses]
  refine ⟨comes.complains events, fun _ _ => ⟨rfl, sights, comes.count, runs⟩, ?_⟩
  rintro (nothing | some)
  · exact absurd nothing given
  · exact absurd none some

theorem peerStart_accepted (free : f.startBarrier? = none)
    (accepted : entries = [] ∨ Endpoint.normals f.config.network.peerPort entries ≠ []) :
    PeerStart entries f ((startSync (.spv entries)).run f) := by
  let addresses := Endpoint.normals f.config.network.peerPort entries
  let attempt := f.counts.startAttempts + 1
  let e := f.entered (.spv entries)
  let built := (buildSpv entries).run e
  obtain ⟨dispatches, events, told⟩ := normalizeEach_comes f.config.network.peerPort entries e
  have sync : SameSync e built.2 := (builds_buildSpv entries).dialled.sameSync e
  have accepts : entries = [] ∨ Endpoint.normals e.config.network.peerPort entries ≠ [] := accepted
  have before : Comes dispatches [] f (normalizeEach f.config.network.peerPort entries e).2 :=
    (Comes.entered f _).trans told
  have building : Calling (f.buildCalls addresses) (buildPlaces addresses)
      (.spv f.nextSpv.number) _ built := calling_buildSpv accepts
  have state : built.2.session.state = .starting := congrArg Session.state sync.session
  have launching := building.launch (calling_attach attempt state)
  have runs := runs_launchOrAbort attempt built
  have still : built.2.runs = f.runs := sync.runs
  have syncs : built.2.counts.syncs = f.counts.syncs := sync.syncs
  have refused {came : Prop} (given : entries ≠ []) (none : addresses = []) : came :=
    absurd none (accepted.resolve_left given)
  rw [run_startSync_spv entries free]
  change PeerStart entries f
    ((launchOrAbort attempt built).1.map Started.launched, (launchOrAbort attempt built).2)
  rw [syncs] at launching
  rw [still] at runs
  generalize launchOrAbort attempt built = result at launching runs
  cases launching with
  | @done g hold comes =>
    obtain ⟨backend, raised, runs⟩ := runs
    have same : backend = .spv f.nextSpv.number := by
      have raised' : built = (.ok backend, built.2) := Prod.ext raised rfl
      rw [raised'] at building
      exact building.value_eq
    have all := before.trans comes
    simp only [List.append_nil, List.nil_append] at all
    refine ⟨all.complains events, refused, fun _ => ?_⟩
    refine .launched (fun place member => ?_) all.sights ?_ (same ▸ runs)
    · exact (hold place member).of_faults before.faults.symm
    · rw [all.count, countP_peerCalls]
  | @broken made place text g called breaks reached comes =>
    have all := before.trans comes
    simp only [List.append_nil, List.nil_append] at all
    refine ⟨all.complains events, refused, fun _ => ?_⟩
    refine .panicked called (fun holds => breaks ?_) reached all.sights all.count runs
    exact holds.of_faults before.faults

theorem peerStart_startSync (entries : List String) (free : f.startBarrier? = none) :
    PeerStart entries f ((startSync (.spv entries)).run f) := by
  by_cases refused : entries ≠ [] ∧ Endpoint.normals f.config.network.peerPort entries = []
  · exact peerStart_refused free refused.1 refused.2
  · refine peerStart_accepted free ?_
    by_cases given : entries = []
    · exact .inl given
    · exact .inr fun none => refused ⟨given, none⟩

end

end Follower

end ChainFollower
