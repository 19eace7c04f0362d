import ChainFollower.Proofs.Course
import ChainFollower.Proofs.Ending

/-! Starts, runs, closings and openings on several threads. The work of each is cut at the sections
that exclude one another, and the sections of all come in any order. -/
namespace ChainFollower

namespace Follower

open Act

/-- The guard of a start that has found the wallet loaded. -/
def enterStart (f : Follower) : Except SyncError Follower :=
  if f.session.state.isActive || f.wallet.link.isSome then .error .syncAlreadyInProgress
  else .ok (f.setState .starting)

theorem beginStart_eq (f : Follower) :
    f.beginStart = if f.loader.loaded then f.enterStart else .error .walletNotLoaded := by
  unfold beginStart startBarrier? enterStart
  cases f.loader.loaded with
  | false => rfl
  | true => cases f.session.state.isActive || f.wallet.link.isSome <;> rfl

theorem enterStart_active {f : Follower} (active : f.session.state.isActive = true) :
    f.enterStart = .error .syncAlreadyInProgress := by
  unfold enterStart
  rw [active]
  rfl

theorem enterStart_ok {f g : Follower} (came : f.enterStart = .ok g) :
    f.session.state.isActive = false ∧ g = f.setState .starting := by
  unfold enterStart at came
  split at came
  · contradiction
  · rename_i free
    simp only [Bool.or_eq_true, not_or, Bool.not_eq_true] at free
    exact ⟨free.1, (Except.ok.inj came).symm⟩

theorem enterStart_linked {f : Follower} (linked : f.wallet.link.isSome = true) :
    f.enterStart = .error .syncAlreadyInProgress := by
  unfold enterStart
  rw [linked, Bool.or_true]
  rfl

def SameLink (f g : Follower) : Prop := g.wallet.link = f.wallet.link

instance : Std.Refl SameLink := ⟨fun _ => rfl⟩

instance : IsTrans Follower SameLink := ⟨fun _ _ _ first second => Eq.trans second first⟩

theorem SameLink.notify (kind : BackendKind) (notification : Notification) (f : Follower) :
    SameLink f (f.notify kind notification) := by
  have linked {f g : Follower} (spared : SameTasksAndClient f g) : SameLink f g :=
    spared.sameSync.walletLink
  exact related_notify (fun f record => linked (.log f record))
    (fun f _ goesOn => linked (.broadcast f goesOn)) (fun _ => rfl) kind notification f

def numbered (f : Follower) : Follower :=
  { f with counts := { f.counts with startAttempts := f.counts.startAttempts + 1 } }

/-- What closing and opening the wallet do, one after the other. -/
inductive Effect where
  | unlinkWallet
  | unlinkLoader
  | dropIndex
  | unload
  | load (publicPass : Bytes)
  | holdIndex

namespace Effect

def act : Effect → Act Unit
  | unlinkWallet => setWalletLink none
  | unlinkLoader => setLoaderLink none
  | dropIndex => Follower.dropIndex
  | unload => do
    orFail (← unloadWallet)
    Act.update (fun f => f.log .closed)
  | load publicPass => do
    match ← openWallet publicPass with
    | .error e =>
      Act.update (fun f => f.log (.openFailed e))
      Act.fail (.ofWallet e)
    | .ok _ => pure ()
  | holdIndex => do
    let path := (← get).config.indexPath
    match ← initIndex path with
    | .error e =>
      Act.update (fun f => f.log (.indexFailed e))
      Act.fail (.txIndex e.message)
    | .ok number =>
      Act.update (fun f => { f with index := some number })
      Act.update (fun f => f.log (.opened path))

theorem close_eq : close = (do
    if (← get).loader.loaded then unlinkWallet.act
    unlinkLoader.act
    dropIndex.act
    unload.act) := by
  unfold close unlink
  rw [bind_assoc]
  refine bind_congr fun f => ?_
  cases f.loader.loaded with
  | false => rfl
  | true => exact bind_assoc _ _ _

theorem openAll_eq (publicPass : Bytes) :
    openAll publicPass = (do
      (load publicPass).act
      holdIndex.act) := by
  unfold openAll act
  rw [bind_assoc]
  refine bind_congr fun result => ?_
  cases result with
  | error e => rfl
  | ok value => rfl

/-- Only the first two effects of closing have to do with the sync. -/
theorem sameTasksAndClient (effect : Effect) (wallet : effect ≠ unlinkWallet)
    (loader : effect ≠ unlinkLoader) : Keeps SameTasksAndClient effect.act := by
  cases effect with
  | unlinkWallet => contradiction
  | unlinkLoader => contradiction
  | dropIndex => exact SameTasksAndClient.dropIndex
  | unload =>
    refine keeps_bind SameTasksAndClient.unloadWallet fun result => ?_
    exact keeps_bind (SameTasksAndClient.orFail result) fun _ => SameTasksAndClient.noteRecord _
  | load publicPass =>
    refine keeps_bind (SameTasksAndClient.openWallet publicPass) fun result => ?_
    cases result with
    | error e => exact keeps_bind (SameTasksAndClient.noteRecord _) fun _ => keeps_fail _
    | ok value => exact keeps_pure _
  | holdIndex =>
    refine keeps_bind keeps_get fun f => keeps_bind (SameTasksAndClient.initIndex _) fun result => ?_
    cases result with
    | error e => exact keeps_bind (SameTasksAndClient.noteRecord _) fun _ => keeps_fail _
    | ok number =>
      refine keeps_bind (keeps_update fun f => SameTasksAndClient.same rfl) fun _ => ?_
      exact SameTasksAndClient.noteRecord _

theorem keeps {related : Follower → Follower → Prop} (effect : Effect)
    (spared : ∀ {f g}, SameTasksAndClient f g → related f g)
    (wallet : Keeps related (setWalletLink none)) (loader : Keeps related (setLoaderLink none)) :
    Keeps related effect.act := by
  by_cases unlinksWallet : effect = unlinkWallet
  · subst unlinksWallet
    exact wallet
  · by_cases unlinksLoader : effect = unlinkLoader
    · subst unlinksLoader
      exact loader
    · exact fun f => spared (effect.sameTasksAndClient unlinksWallet unlinksLoader f)

theorem sameSessions (effect : Effect) : Keeps SameSessions effect.act :=
  effect.keeps SameSessions.of_sameTasksAndClient (SameSessions.setWalletLink none)
    (SameSessions.setLoaderLink none)

theorem sameLink (effect : Effect) (other : effect ≠ unlinkWallet) :
    Keeps SameLink effect.act := by
  intro f
  by_cases loader : effect = unlinkLoader
  · subst loader
    unfold act
    rcases setLoaderLink_cases none f with ⟨_, came⟩ | ⟨_, text, came⟩ <;> rw [came] <;> rfl
  · exact (effect.sameTasksAndClient other loader f).sameSync.walletLink

end Effect

end Follower

/-- A follower while several threads work on it. A start, and the run that comes of it, are known by
the number of the start. -/
structure Weave where
  follower : Follower
  /-- How many starts have found the wallet loaded and are not through their guard. -/
  asking : Nat
  /-- The starts that passed their guard, neither launched nor aborted. -/
  begun : List Nat
  /-- The runs that were launched and did not come back. -/
  running : List Nat
  /-- The runs that came back and were not detached. -/
  ending : List Nat

namespace Weave

inductive Section where
  | ask
  | enter
  | store (attempt : Nat)
  | launch (attempt : Nat) (backend : Backend)
  | abort (attempt : Nat)
  | assign (attempt : Nat) (result : Option RunError)
  | detach (attempt : Nat)
  /-- The start panics at its launch, or the backend's run does. -/
  | lose (attempt : Nat)
  | cancelQuietly
  | effect (effect : Follower.Effect)
  | notify (kind : BackendKind) (notification : Notification)

def enter (w : Weave) : Weave :=
  match w.follower.enterStart with
  | .error _ => w
  | .ok f =>
    { w with follower := f.numbered, begun := w.begun ++ [f.numbered.counts.startAttempts] }

def launch (w : Weave) (attempt : Nat) (backend : Backend) : Weave :=
  let result := (Follower.attach backend).run w.follower
  { w with
    follower := result.2
    begun := w.begun.erase attempt
    running := if result.1.isOk then w.running ++ [attempt] else w.running }

def Enabled (w : Weave) : Section → Prop
  | .enter => 0 < w.asking
  | .store attempt | .launch attempt _ | .abort attempt => attempt ∈ w.begun
  | .assign attempt _ => attempt ∈ w.running
  | .detach attempt => attempt ∈ w.ending
  | .lose attempt => attempt ∈ w.begun ∨ attempt ∈ w.running
  | .ask | .cancelQuietly | .effect _ | .notify _ _ => True

instance (w : Weave) : (part : Section) → Decidable (w.Enabled part)
  | .enter => inferInstanceAs (Decidable (0 < w.asking))
  | .store attempt | .launch attempt _ | .abort attempt =>
    inferInstanceAs (Decidable (attempt ∈ w.begun))
  | .assign attempt _ => inferInstanceAs (Decidable (attempt ∈ w.running))
  | .detach attempt => inferInstanceAs (Decidable (attempt ∈ w.ending))
  | .lose attempt => inferInstanceAs (Decidable (attempt ∈ w.begun ∨ attempt ∈ w.running))
  | .ask | .cancelQuietly | .effect _ | .notify _ _ => inferInstanceAs (Decidable True)

def next (w : Weave) : Section → Weave
  | .ask => { w with asking := w.asking + if w.follower.loader.loaded then 1 else 0 }
  | .enter => { w with asking := w.asking - 1 }.enter
  | .store attempt => { w with follower := w.follower.storeToken (.start attempt) }
  | .launch attempt backend => w.launch attempt backend
  | .abort attempt =>
    { w with follower := w.follower.abortStart, begun := w.begun.erase attempt }
  | .assign attempt result =>
    { w with
      follower := w.follower.setState (SyncOutcome.ofRun result).state
      running := w.running.erase attempt
      ending := w.ending ++ [attempt] }
  | .detach attempt =>
    { w with
      follower := (Follower.detach.run w.follower).2
      ending := w.ending.erase attempt }
  | .lose attempt =>
    { w with begun := w.begun.erase attempt, running := w.running.erase attempt }
  | .cancelQuietly => { w with follower := w.follower.cancelQuietly }
  | .effect effect => { w with follower := (effect.act.run w.follower).2 }
  | .notify kind notification => { w with follower := w.follower.notify kind notification }

def after (w : Weave) (parts : List Section) : Weave := parts.foldl next w

def Woven (allowed : Weave → Section → Prop) (w : Weave) : List Section → Prop
  | [] => True
  | part :: rest => w.Enabled part ∧ allowed w part ∧ Woven allowed (w.next part) rest

instance Woven.decidable {allowed : Weave → Section → Prop}
    [∀ w part, Decidable (allowed w part)] :
    (w : Weave) → (parts : List Section) → Decidable (Woven allowed w parts)
  | _, [] => isTrue trivial
  | w, part :: rest =>
    have : Decidable (Woven allowed (w.next part) rest) := Woven.decidable (w.next part) rest
    inferInstanceAs (Decidable (_ ∧ _ ∧ _))

def only (f : Follower) : Weave := ⟨f, 0, [], [], []⟩

/-- No start passes its guard while a run that came back was not detached. -/
def Apart (w : Weave) (part : Section) : Prop :=
  w.ending = [] ∨ (w.next part).begun ⊆ w.begun

instance (w : Weave) (part : Section) : Decidable (w.Apart part) :=
  inferInstanceAs (Decidable (_ ∨ _))

def Section.Settles (attempt : Nat) : Section → Prop
  | launch other _ | abort other | lose other => other = attempt
  | _ => False

instance (attempt : Nat) : (part : Section) → Decidable (part.Settles attempt)
  | .launch other _ | .abort other | .lose other => inferInstanceAs (Decidable (other = attempt))
  | .ask | .enter | .store _ | .assign _ _ | .detach _ | .cancelQuietly | .effect _
  | .notify _ _ => inferInstanceAs (Decidable False)

theorem enter_cases (w : Weave) :
    w.enter = w ∨ w.follower.session.state.isActive = false ∧ w.enter = { w with
      follower := (w.follower.setState .starting).numbered
      begun := w.begun ++ [w.follower.counts.startAttempts + 1] } := by
  unfold enter
  split
  · exact Or.inl rfl
  · rename_i f came
    obtain ⟨inactive, rfl⟩ := Follower.enterStart_ok came
    exact Or.inr ⟨inactive, rfl⟩

theorem launch_cases (w : Weave) (attempt : Nat) (backend : Backend) :
    w.launch attempt backend = { w with
        follower := w.follower.attached backend
        begun := w.begun.erase attempt
        running := w.running ++ [attempt] } ∨
      ¬ w.follower.LinksHold ∧ ∃ g, w.launch attempt backend =
        { w with follower := g, begun := w.begun.erase attempt } := by
  unfold launch
  rcases Follower.attach_cases backend w.follower with ⟨_, came⟩ | ⟨text, g, came, breaks, _⟩
  · rw [came]
    exact Or.inl rfl
  · rw [came]
    exact Or.inr ⟨breaks, g, rfl⟩

/-- There is one start or run at most, and the session's state fits it. -/
inductive Orderly (w : Weave) : Prop where
  | vacant (begun : w.begun = []) (running : w.running = []) (ending : w.ending = [])
  | opening (attempt : Nat) (state : w.follower.session.state = .starting)
      (begun : w.begun = [attempt]) (running : w.running = []) (ending : w.ending = [])
  | held (attempt : Nat) (state : w.follower.session.state.Attached) (begun : w.begun = [])
      (running : w.running = [attempt]) (ending : w.ending = [])
  | leaving (attempt : Nat) (begun : w.begun = []) (running : w.running = [])
      (ending : w.ending = [attempt])

namespace Orderly

variable {w v : Weave} {attempt : Nat}

theorem begun (orderly : w.Orderly) (member : attempt ∈ w.begun) :
    w.follower.session.state = .starting ∧ w.begun = [attempt] ∧ w.running = [] ∧
      w.ending = [] := by
  cases orderly with
  | vacant begun => simp [begun] at member
  | opening other state begun running ending =>
    have same : attempt = other := by simpa [begun] using member
    subst same
    exact ⟨state, begun, running, ending⟩
  | held _ _ begun => simp [begun] at member
  | leaving _ begun => simp [begun] at member

theorem running (orderly : w.Orderly) (member : attempt ∈ w.running) :
    w.follower.session.state.Attached ∧ w.begun = [] ∧ w.running = [attempt] ∧
      w.ending = [] := by
  cases orderly with
  | vacant _ running => simp [running] at member
  | opening _ _ _ running => simp [running] at member
  | held other state begun running ending =>
    have same : attempt = other := by simpa [running] using member
    subst same
    exact ⟨state, begun, running, ending⟩
  | leaving _ _ running => simp [running] at member

theorem ending (orderly : w.Orderly) (member : attempt ∈ w.ending) :
    w.begun = [] ∧ w.running = [] ∧ w.ending = [attempt] := by
  cases orderly with
  | vacant _ _ ending => simp [ending] at member
  | opening _ _ _ _ ending => simp [ending] at member
  | held _ _ _ _ ending => simp [ending] at member
  | leaving other begun running ending =>
    have same : attempt = other := by simpa [ending] using member
    subst same
    exact ⟨begun, running, ending⟩

theorem of_state (orderly : w.Orderly)
    (state : v.follower.session.state = w.follower.session.state ∨
      w.follower.session.state.Attached ∧ v.follower.session.state.Attached)
    (begun : v.begun = w.begun) (running : v.running = w.running)
    (ending : v.ending = w.ending) : v.Orderly := by
  cases orderly with
  | vacant begun' running' ending' =>
    exact .vacant (begun.trans begun') (running.trans running') (ending.trans ending')
  | opening attempt starting begun' running' ending' =>
    refine .opening attempt ?_ (begun.trans begun') (running.trans running') (ending.trans ending')
    rcases state with same | ⟨attached, _⟩
    · exact same.trans starting
    · rcases attached with other | other <;> rw [starting] at other <;> contradiction
  | held attempt attached begun' running' ending' =>
    refine .held attempt ?_ (begun.trans begun') (running.trans running') (ending.trans ending')
    rcases state with same | ⟨_, after⟩
    · exact same ▸ attached
    · exact after
  | leaving attempt begun' running' ending' =>
    exact .leaving attempt (begun.trans begun') (running.trans running') (ending.trans ending')

/-- A start that passes its guard finds nothing under way, unless a run was not detached. -/
theorem enter (orderly : w.Orderly) (apart : w.ending = [] ∨ w.enter.begun ⊆ w.begun) :
    w.enter.Orderly := by
  rcases w.enter_cases with same | ⟨inactive, passed⟩
  · rw [same]
    exact orderly
  · rw [passed] at apart ⊢
    cases orderly with
    | vacant begun running ending =>
      exact .opening (w.follower.counts.startAttempts + 1) rfl (by simp [begun]) running ending
    | opening _ state =>
      rw [state] at inactive
      contradiction
    | held _ state =>
      rw [state.active] at inactive
      contradiction
    | leaving _ begun _ ending => simp [begun, ending] at apart

theorem launch (orderly : w.Orderly) (member : attempt ∈ w.begun) (backend : Backend) :
    (w.launch attempt backend).Orderly := by
  obtain ⟨_, begun, running, ending⟩ := orderly.begun member
  rcases w.launch_cases attempt backend with launched | ⟨_, g, panicked⟩
  · rw [launched]
    exact .held attempt (Or.inl rfl) (by simp [begun]) (by simp [running]) ending
  · rw [panicked]
    exact .vacant (by simp [begun]) running ending

theorem lose (orderly : w.Orderly) (attempt : Nat) :
    Orderly { w with begun := w.begun.erase attempt, running := w.running.erase attempt } := by
  have erased (other : Nat) : [other].erase attempt = [other] ∨ [other].erase attempt = [] := by
    by_cases same : other = attempt <;> simp [same]
  cases orderly with
  | vacant begun running ending => exact .vacant (by simp [begun]) (by simp [running]) ending
  | opening other state begun running ending =>
    rcases erased other with kept | gone
    · exact .opening other state (by simp [begun, kept]) (by simp [running]) ending
    · exact .vacant (by simp [begun, gone]) (by simp [running]) ending
  | held other state begun running ending =>
    rcases erased other with kept | gone
    · exact .held other state (by simp [begun]) (by simp [running, kept]) ending
    · exact .vacant (by simp [begun]) (by simp [running, gone]) ending
  | leaving other begun running ending =>
    exact .leaving other (by simp [begun]) (by simp [running]) ending

theorem next {part : Section} (orderly : w.Orderly) (enabled : w.Enabled part)
    (apart : w.Apart part) : (w.next part).Orderly := by
  cases part with
  | ask => exact orderly.of_state (Or.inl rfl) rfl rfl rfl
  | enter =>
    have fewer : Orderly { w with asking := w.asking - 1 } :=
      orderly.of_state (Or.inl rfl) rfl rfl rfl
    exact fewer.enter apart
  | store attempt => exact orderly.of_state (Or.inl rfl) rfl rfl rfl
  | launch attempt backend => exact orderly.launch enabled backend
  | abort attempt =>
    obtain ⟨_, begun, running, ending⟩ := orderly.begun enabled
    exact .vacant (by simp [Weave.next, begun]) running ending
  | assign attempt result =>
    obtain ⟨_, begun, running, ending⟩ := orderly.running enabled
    exact .leaving attempt begun (by simp [Weave.next, running]) (by simp [Weave.next, ending])
  | detach attempt =>
    obtain ⟨begun, running, ending⟩ := orderly.ending enabled
    exact .vacant begun running (by simp [Weave.next, ending])
  | lose attempt => exact orderly.lose attempt
  | cancelQuietly =>
    have same : w.follower.cancelQuietly.session = w.follower.session :=
      (Follower.SameSync.cancelQuietly w.follower).session
    exact orderly.of_state (Or.inl (congrArg Session.state same)) rfl rfl rfl
  | effect effect => exact orderly.of_state (effect.sameSessions w.follower).state rfl rfl rfl
  | notify kind notification =>
    have stays := Follower.SameSessions.notify kind notification w.follower
    exact orderly.of_state stays.state rfl rfl rfl

theorem after {parts : List Section} (orderly : w.Orderly) (woven : w.Woven Apart parts) :
    (w.after parts).Orderly := by
  induction parts generalizing w with
  | nil => exact orderly
  | cons part rest ih =>
    obtain ⟨enabled, apart, woven⟩ := woven
    exact ih (orderly.next enabled apart) woven

end Orderly

theorem only_orderly (f : Follower) : (only f).Orderly := .vacant rfl rfl rfl

/-- A start that passed its guard goes on until a section of its own ends it. -/
theorem begun_next {w : Weave} {part : Section} {attempt : Nat} (begun : attempt ∈ w.begun)
    (other : ¬ part.Settles attempt) : attempt ∈ (w.next part).begun := by
  cases part with
  | enter =>
    change attempt ∈ { w with asking := w.asking - 1 }.enter.begun
    rcases enter_cases { w with asking := w.asking - 1 } with same | ⟨_, passed⟩
    · rw [same]
      exact begun
    · rw [passed]
      exact List.mem_append_left _ begun
  | launch number backend => exact (List.mem_erase_of_ne (Ne.symm other)).mpr begun
  | abort number => exact (List.mem_erase_of_ne (Ne.symm other)).mpr begun
  | lose number => exact (List.mem_erase_of_ne (Ne.symm other)).mpr begun
  | _ => exact begun

/-- As long as a start goes on that found nothing under way, nothing else is. -/
theorem Orderly.after_begun {w : Weave} {parts : List Section} {attempt : Nat}
    (orderly : w.Orderly) (begun : attempt ∈ w.begun)
    (woven : w.Woven (fun _ part => ¬ part.Settles attempt) parts) :
    (w.after parts).Orderly ∧ attempt ∈ (w.after parts).begun := by
  induction parts generalizing w with
  | nil => exact ⟨orderly, begun⟩
  | cons part rest ih =>
    obtain ⟨enabled, other, woven⟩ := woven
    obtain ⟨_, _, _, ending⟩ := orderly.begun begun
    exact ih (orderly.next enabled (Or.inl ending)) (begun_next begun other) woven

structure Undisturbed (w : Weave) : Prop where
  starting : w.follower.session.state = .starting
  barred : w.follower.enterStart = .error .syncAlreadyInProgress
  refused : w.follower.beginStart =
    .error (if w.follower.loader.loaded then .syncAlreadyInProgress else .walletNotLoaded)

theorem undisturbed_of_starting {w : Weave} (starting : w.follower.session.state = .starting) :
    w.Undisturbed := by
  have barred := Follower.enterStart_active (f := w.follower) (by rw [starting]; rfl)
  refine ⟨starting, barred, ?_⟩
  rw [Follower.beginStart_eq, barred]
  split <;> rfl

/-- From when a start passes its guard until it is launched or aborted the session is starting, and
every other start is refused, whatever starts, runs, closings and openings do in between. -/
theorem start_undisturbed {f : Follower} {before since : List Section} {attempt : Nat}
    (apart : (only f).Woven Apart (before ++ [.enter]))
    (passed : ((only f).after (before ++ [.enter])).begun =
      ((only f).after before).begun ++ [attempt])
    (goesOn : ((only f).after (before ++ [.enter])).Woven
      (fun _ part => ¬ part.Settles attempt) since) :
    (((only f).after (before ++ [.enter])).after since).Undisturbed := by
  have entered : ((only f).after (before ++ [.enter])).Orderly := (only_orderly f).after apart
  obtain ⟨orderly, begun⟩ := entered.after_begun (by simp [passed]) goesOn
  obtain ⟨starting, _⟩ := orderly.begun begun
  exact undisturbed_of_starting starting

def closing : List Section := [.unlinkWallet, .unlinkLoader, .dropIndex, .unload].map .effect

def opening (publicPass : Bytes) : List Section := [.load publicPass, .holdIndex].map .effect

/-- A wallet that is closed and opened while a start goes on does not let another one pass. -/
theorem start_undisturbed_reopened :
    let begun := (only Course.standard.follower).after ([.ask] ++ [.enter])
    let v := begun.after
      ([.store 1, .cancelQuietly] ++ closing ++ opening Passphrase.insecurePublic ++ [.ask, .enter])
    v.Undisturbed ∧ v.follower.loader.loaded = true ∧ v.begun = [1] := by
  intro begun v
  have apart : (only Course.standard.follower).Woven Apart ([.ask] ++ [.enter]) := by
    decide +kernel
  have goesOn : begun.Woven (fun _ part => ¬ part.Settles 1)
      ([.store 1, .cancelQuietly] ++ closing ++ opening Passphrase.insecurePublic ++
        [.ask, .enter]) := by
    decide +kernel
  refine ⟨start_undisturbed apart (by decide +kernel) goesOn, ?_, ?_⟩
  · decide +kernel
  · decide +kernel

/-- A start is told that no wallet is loaded once the wallet was closed. And when it is closed and
opened between the coming back of a run and its detaching, a start passes whose state that detaching
takes away, so that yet another one passes. -/
theorem start_disturbed :
    let first := only Course.standard.follower
    let closed := [.ask, .enter] ++ closing
    let returned := [.ask, .enter, .store 1, .launch 1 (.spv 1), .assign 1 none]
    let raced := returned ++ closing ++ opening Passphrase.insecurePublic ++
      [.ask, .enter, .detach 1]
    first.Woven (fun _ _ => True) closed ∧ (first.after closed).begun = [1] ∧
      (first.after closed).follower.beginStart = .error .walletNotLoaded ∧
      first.Woven (fun _ _ => True) (raced ++ [.ask, .enter]) ∧ (first.after raced).begun = [2] ∧
      (first.after raced).follower.session.state = .idle ∧
      (first.after (raced ++ [.ask, .enter])).begun = [2, 3] := by
  intro first closed returned raced
  have unloaded : ¬ (first.after closed).follower.loader.loaded := by decide +kernel
  have told : (first.after closed).follower.beginStart = .error .walletNotLoaded := by
    rw [Follower.beginStart_eq, if_neg unloaded]
  exact ⟨by decide +kernel, by decide +kernel, told, by decide +kernel, by decide +kernel,
    by decide +kernel, by decide +kernel⟩

def Spares (w : Weave) (part : Section) : Prop :=
  part = .effect .unlinkWallet → w.running = [] ∧ w.ending = []

def Linked (w : Weave) : Prop :=
  w.running ≠ [] ∨ w.ending ≠ [] → w.follower.wallet.link.isSome = true

namespace Linked

variable {w v : Weave}

theorem of_none (running : w.running = []) (ending : w.ending = []) : w.Linked := by
  rintro (left | left) <;> contradiction

theorem of_same (linked : w.Linked) (same : w.follower.SameLink v.follower)
    (left : v.running ≠ [] ∨ v.ending ≠ [] → w.running ≠ [] ∨ w.ending ≠ []) : v.Linked := by
  intro after
  have before := linked (left after)
  rw [← same] at before
  exact before

theorem next {part : Section} (linked : w.Linked) (orderly : w.Orderly)
    (enabled : w.Enabled part) (spares : w.Spares part) : (w.next part).Linked := by
  cases part with
  | ask => exact linked
  | enter =>
    change { w with asking := w.asking - 1 }.enter.Linked
    rcases enter_cases { w with asking := w.asking - 1 } with same | ⟨_, passed⟩
    · rw [same]
      exact linked
    · rw [passed]
      exact linked
  | store attempt => exact linked
  | launch attempt backend =>
    obtain ⟨_, _, running, ending⟩ := orderly.begun enabled
    change (w.launch attempt backend).Linked
    rcases w.launch_cases attempt backend with launched | ⟨_, g, panicked⟩
    · rw [launched]
      exact fun _ => rfl
    · rw [panicked]
      exact of_none running ending
  | abort attempt =>
    obtain ⟨_, _, running, ending⟩ := orderly.begun enabled
    exact of_none running ending
  | assign attempt result =>
    exact linked.of_same rfl fun _ => Or.inl (List.ne_nil_of_mem enabled)
  | detach attempt =>
    obtain ⟨_, running, ending⟩ := orderly.ending enabled
    exact of_none running (by simp [Weave.next, ending])
  | lose attempt =>
    refine linked.of_same rfl (Or.imp_left fun left none => left ?_)
    simp [Weave.next, none]
  | cancelQuietly =>
    exact linked.of_same (Follower.SameSync.cancelQuietly w.follower).walletLink id
  | effect effect =>
    by_cases unlinks : effect = .unlinkWallet
    · obtain ⟨running, ending⟩ := spares (congrArg Section.effect unlinks)
      exact of_none running ending
    · exact linked.of_same (effect.sameLink unlinks w.follower) id
  | notify kind notification =>
    exact linked.of_same (Follower.SameLink.notify kind notification w.follower) id

/-- The link alone refuses every start while a run is left. -/
theorem apart (linked : w.Linked) (part : Section) : w.Apart part := by
  by_cases none : w.ending = []
  · exact Or.inl none
  · have refused := Follower.enterStart_linked (linked (Or.inr none))
    refine Or.inr ?_
    cases part with
    | enter => simp [Weave.next, enter, refused]
    | launch attempt backend => exact List.erase_subset
    | abort attempt => exact List.erase_subset
    | lose attempt => exact List.erase_subset
    | _ => exact List.Subset.refl _

theorem woven {parts : List Section} (linked : w.Linked) (orderly : w.Orderly)
    (woven : w.Woven Spares parts) : w.Woven Apart parts := by
  induction parts generalizing w with
  | nil => trivial
  | cons part rest ih =>
    obtain ⟨enabled, spares, woven⟩ := woven
    have apart := linked.apart part
    exact ⟨enabled, apart,
      ih (linked.next orderly enabled spares) (orderly.next enabled apart) woven⟩

end Linked

/-- No start passes its guard between the coming back of a run and its detaching, unless the wallet
is closed while a run is left. -/
theorem apart_of_spares {f : Follower} {parts : List Section}
    (spares : (only f).Woven Spares parts) : (only f).Woven Apart parts :=
  (Linked.of_none rfl rfl).woven (only_orderly f) spares

end Weave

end ChainFollower
