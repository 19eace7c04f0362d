import ChainFollower.Proofs.Peerless
import ChainFollower.Proofs.Restricting

/-!
What becomes of a syncer of peers: once its start is over it is never made or set up again, and it is
run only if that start launched it. So a restriction to peers is there before the first run.
-/

namespace ChainFollower

def Happening.Unpeered : Happening → Prop
  | saw sight => ∀ syncer ∈ sight.syncer?, syncer.kind = .rpc
  | _ => True

theorem Happening.Ordinary.unpeered {opens : Prop} {happening : Happening}
    (ordinary : happening.Ordinary opens) : happening.Unpeered := by
  cases happening with
  | saw sight =>
    cases sight with
    | indexClose number => exact nofun
    | _ => exact ordinary
  | _ => trivial

theorem Happening.Telling.unpeered {sent : Event → Prop} {happening : Happening}
    (telling : happening.Telling sent) : happening.Unpeered := by
  cases happening with
  | saw sight => exact telling.elim
  | _ => trivial

theorem Sight.Domestic.unpeered {sight : Sight} (domestic : sight.Domestic) :
    (Happening.saw sight).Unpeered := by
  cases sight <;> first | exact domestic.elim | exact nofun

namespace Follower

def callsOf (f : Follower) (syncer : Syncer) : List Sight :=
  f.sights.filter (·.syncer? = some syncer)

theorem callsOf_append {f g : Follower} {calls : List Sight} (grown : g.sights = f.sights ++ calls)
    (syncer : Syncer) :
    g.callsOf syncer = f.callsOf syncer ++ calls.filter (·.syncer? = some syncer) := by
  rw [callsOf, grown, List.filter_append]
  rfl

/-- No syncer of peers is made or called between `f` and `g`, and none is to be run that was not. -/
structure LeavesSyncers (f g : Follower) : Prop where
  count : g.counts.spvSyncers = f.counts.spvSyncers
  calls : ∀ number, g.callsOf ⟨.spv, number⟩ = f.callsOf ⟨.spv, number⟩
  runs : ∀ run ∈ g.runs, run.backend.kind = .spv →
    ∃ earlier ∈ f.runs, earlier.backend = run.backend

namespace LeavesSyncers

variable {f g h : Follower}

theorem of_unpeered (new : List Happening) (count : g.counts.spvSyncers = f.counts.spvSyncers)
    (runs : g.runs = f.runs) (grown : g.history = new ++ f.history)
    (unpeered : ∀ happening ∈ new, happening.Unpeered) : LeavesSyncers f g where
  count := count
  calls number := by
    have sights : g.sights = f.sights ++ (new.filterMap Happening.sight?).reverse := by
      rw [Follower.sights, grown, List.filterMap_append, List.reverse_append]
      rfl
    rw [callsOf_append sights, List.filter_eq_nil_iff.mpr, List.append_nil]
    intro sight member called
    obtain ⟨happening, among, seen⟩ := List.mem_filterMap.mp (List.mem_reverse.mp member)
    cases happening with
    | saw other =>
      cases seen
      cases unpeered _ among _ (of_decide_eq_true called)
    | _ => contradiction
  runs run member _ := ⟨run, runs ▸ member, rfl⟩

theorem of_same (count : g.counts.spvSyncers = f.counts.spvSyncers) (runs : g.runs = f.runs)
    (history : g.history = f.history) : LeavesSyncers f g :=
  of_unpeered [] count runs history fun _ member => absurd member List.not_mem_nil

theorem refl (f : Follower) : LeavesSyncers f f := of_same rfl rfl rfl

theorem note (f : Follower) {happening : Happening} (unpeered : happening.Unpeered) :
    LeavesSyncers f (f.note happening) :=
  of_unpeered [happening] rfl rfl rfl (List.forall_mem_singleton.mpr unpeered)

theorem trans (first : LeavesSyncers f g) (second : LeavesSyncers g h) : LeavesSyncers f h where
  count := second.count.trans first.count
  calls number := (second.calls number).trans (first.calls number)
  runs run member spv := by
    obtain ⟨middle, among, same⟩ := second.runs run member spv
    obtain ⟨earlier, before, same'⟩ := first.runs middle among (same ▸ spv)
    exact ⟨earlier, before, same'.trans same⟩

theorem of_told {sent : Event → Prop} (told : Told sent f g) : LeavesSyncers f g := by
  obtain ⟨ls, ts, hs, rfl, _, _, telling⟩ := told
  exact of_unpeered hs rfl rfl rfl fun happening member => (telling happening member).unpeered

theorem of_callsOnly {opens : Prop} (calls : CallsOnly opens f g) : LeavesSyncers f g := by
  induction calls with
  | @same f g rest =>
    simp only [Prod.mk.injEq] at rest
    obtain ⟨standing, _, _, _, _, _, _, count, history⟩ := rest
    exact of_same count (congrArg Standing.runs standing) history
  | @opened f g may rest =>
    simp only [Prod.mk.injEq] at rest
    obtain ⟨standing, _, _, _, _, _, count, history⟩ := rest
    exact of_same count (congrArg Standing.runs standing) history
  | log f record => exact note f trivial
  | saw f domestic => exact note f domestic.unpeered
  | trans _ _ first second => exact first.trans second

theorem of_rescans (rescans : Rescans f g) : LeavesSyncers f g := by
  induction rescans with
  | @same f g rest =>
    simp only [Prod.mk.injEq] at rest
    obtain ⟨standing, _, _, _, count, history⟩ := rest
    exact of_same count (congrArg Standing.runs standing) history
  | log f record => exact note f trivial
  | called f link => exact note f nofun
  | tells f scan => exact of_told (Told.broadcast _ f)
  | ended f number outcome => exact note f trivial
  | trans _ _ first second => exact first.trans second

theorem of_peerless {opens reports : Prop} (peerless : Peerless opens reports f g) :
    LeavesSyncers f g := by
  induction peerless with
  | @same f g rest =>
    simp only [Prod.mk.injEq] at rest
    obtain ⟨_, _, count, runs, history⟩ := rest
    exact of_same count runs history
  | calls calls => exact of_callsOnly calls
  | rescans rescans => exact of_rescans rescans
  | note f ordinary => exact note f ordinary.unpeered
  | told told => exact of_told told
  | @runs f runs known =>
    have same : LeavesSyncers f { f with runs := f.runs } := refl f
    exact ⟨rfl, same.calls, known⟩
  | trans _ _ first second => exact first.trans second

end LeavesSyncers

structure SyncersCounted (f : Follower) : Prop where
  unmade : ∀ number, f.counts.spvSyncers < number → f.callsOf ⟨.spv, number⟩ = []
  waiting : ∀ run ∈ f.runs, ∀ number, run.backend = .spv number → number ≤ f.counts.spvSyncers

/-- Between `f` and `g` the syncers of peers that there were are at most run, if they were to be. -/
structure RunsSyncers (f g : Follower) : Prop where
  count : f.counts.spvSyncers ≤ g.counts.spvSyncers
  calls : ∀ number ≤ f.counts.spvSyncers, ∃ states : List SyncState,
    g.callsOf ⟨.spv, number⟩ = f.callsOf ⟨.spv, number⟩ ++ states.map (Sight.run ⟨.spv, number⟩) ∧
      (states ≠ [] → ∃ run ∈ f.runs, run.backend = .spv number)
  runs : ∀ run ∈ g.runs, ∀ number ≤ f.counts.spvSyncers, run.backend = .spv number →
    ∃ earlier ∈ f.runs, earlier.backend = .spv number

namespace RunsSyncers

variable {f g h : Follower}

theorem refl (f : Follower) : RunsSyncers f f where
  count := Nat.le_refl _
  calls _ _ := ⟨[], (List.append_nil _).symm, fun some => absurd rfl some⟩
  runs run member _ _ backend := ⟨run, member, backend⟩

theorem trans (first : RunsSyncers f g) (second : RunsSyncers g h) : RunsSyncers f h where
  count := Nat.le_trans first.count second.count
  calls number made := by
    obtain ⟨states, called, waiting⟩ := first.calls number made
    obtain ⟨later, called', waiting'⟩ := second.calls number (Nat.le_trans made first.count)
    refine ⟨states ++ later, ?_, fun _ => ?_⟩
    · rw [called', called, List.map_append, List.append_assoc]
    · by_cases none : later = []
      · exact waiting (by simp_all)
      · obtain ⟨run, member, backend⟩ := waiting' none
        exact first.runs run member number made backend
  runs run member number made backend := by
    obtain ⟨middle, among, same⟩ :=
      second.runs run member number (Nat.le_trans made first.count) backend
    exact first.runs middle among number made same

end RunsSyncers

section

variable {f g : Follower}

theorem LeavesSyncers.runsSyncers (leaves : LeavesSyncers f g) : RunsSyncers f g where
  count := Nat.le_of_eq leaves.count.symm
  calls number _ :=
    ⟨[], (leaves.calls number).trans (List.append_nil _).symm, fun some => absurd rfl some⟩
  runs run member number _ backend := by
    obtain ⟨earlier, before, same⟩ := leaves.runs run member (by rw [backend]; rfl)
    exact ⟨earlier, before, same.trans backend⟩

theorem LeavesSyncers.counted (leaves : LeavesSyncers f g) (counted : f.SyncersCounted) :
    g.SyncersCounted where
  unmade number unmade := (leaves.calls number).trans (counted.unmade number (leaves.count ▸ unmade))
  waiting run member number backend := by
    obtain ⟨earlier, before, same⟩ := leaves.runs run member (by rw [backend]; rfl)
    exact leaves.count ▸ counted.waiting earlier before number (same.trans backend)

theorem callsOf_saw_run {backend : Backend} (state : SyncState) (number : Nat) :
    (f.saw (.run backend.syncer state)).callsOf ⟨.spv, number⟩ = f.callsOf ⟨.spv, number⟩ ++
      if backend = .spv number then [.run ⟨.spv, number⟩ state] else [] := by
  have grown : (f.saw (.run backend.syncer state)).sights =
      f.sights ++ [.run backend.syncer state] := by
    simp [sights, saw, Follower.note, Happening.sight?]
  rw [callsOf_append grown]
  cases backend with
  | spv other => by_cases same : other = number <;> simp [Backend.syncer, Sight.syncer?, same]
  | rpc other client => simp [Backend.syncer, Sight.syncer?]

theorem counted_saw_run {run : RunLoop} (counted : f.SyncersCounted) (member : run ∈ f.runs)
    (state : SyncState) : (f.saw (.run run.backend.syncer state)).SyncersCounted where
  unmade number unmade := by
    have other : run.backend ≠ .spv number := fun backend =>
      absurd (counted.waiting run member number backend) (Nat.not_le.mpr unmade)
    rw [callsOf_saw_run, if_neg other, List.append_nil]
    exact counted.unmade number unmade
  waiting := counted.waiting

theorem runsSyncers_saw_run {run : RunLoop} (member : run ∈ f.runs) (state : SyncState) :
    RunsSyncers f (f.saw (.run run.backend.syncer state)) where
  count := Nat.le_refl _
  calls number _ := by
    rw [callsOf_saw_run]
    by_cases same : run.backend = .spv number
    · rw [if_pos same]
      exact ⟨[state], rfl, fun _ => ⟨run, member, same⟩⟩
    · rw [if_neg same]
      exact ⟨[], rfl, fun some => absurd rfl some⟩
  runs earlier before _ _ backend := ⟨earlier, before, backend⟩

/-- A run that is called is one that was launched. -/
theorem syncers_callRun {run : RunLoop} (counted : f.SyncersCounted) (member : run ∈ f.runs) :
    (f.callRun run).SyncersCounted ∧ RunsSyncers f (f.callRun run) := by
  let calling := (f.marked run.number).saw (.run run.backend.syncer f.session.state)
  have marked : Peerless False True f (f.marked run.number) := .marked f _
  have begun := LeavesSyncers.of_peerless marked
  have inside : { run with begun := true } ∈ (f.marked run.number).runs :=
    List.mem_map.mpr ⟨run, member, if_pos rfl⟩
  have called : calling.SyncersCounted :=
    counted_saw_run (begun.counted counted) inside f.session.state
  have seen : RunsSyncers (f.marked run.number) calling :=
    runsSyncers_saw_run inside f.session.state
  have notified : Peerless False True calling (f.callRun run) :=
    related_notifyEach Peerless.notify _ _ _
  have after := LeavesSyncers.of_peerless notified
  exact ⟨after.counted called, (begun.runsSyncers.trans seen).trans after.runsSyncers⟩

variable {addresses : List String}

/-- The calls of a start go to the syncer that it makes. -/
theorem eq_nextSpv {sight : Sight} (member : sight ∈ f.buildCalls addresses ++ f.attachCalls)
    {syncer : Syncer} (called : sight.syncer? = some syncer) : syncer = f.nextSpv := by
  have calls : ∀ sight ∈ f.buildCalls addresses ++ f.attachCalls,
      sight.syncer? = some f.nextSpv ∨ sight.syncer? = none := by
    cases addresses <;> simp [buildCalls, restriction, attachCalls, Sight.syncer?]
  rcases calls sight member with same | none
  · exact Option.some.inj (called.symm.trans same)
  · rw [none] at called
    contradiction

theorem run_not_mem_peerCalls {syncer : Syncer} {state : SyncState} :
    .run syncer state ∉ f.buildCalls addresses ++ f.attachCalls := by
  cases addresses <;> simp [buildCalls, restriction, attachCalls]

theorem filter_peerCalls :
    (f.buildCalls addresses ++ f.attachCalls).filter (·.syncer? = some f.nextSpv) =
      f.buildCalls addresses := by
  cases addresses <;> simp [buildCalls, restriction, attachCalls, Sight.syncer?]

theorem filter_older {made : List Sight} (before : made <+: f.buildCalls addresses ++ f.attachCalls)
    {number : Nat} (other : number ≠ f.nextSpv.number) :
    made.filter (·.syncer? = some ⟨.spv, number⟩) = [] := by
  refine List.filter_eq_nil_iff.mpr fun sight member called => other ?_
  have same := eq_nextSpv (before.subset member) (of_decide_eq_true called)
  rw [← same]

theorem countP_made {made : List Sight} (before : made <+: f.buildCalls addresses ++ f.attachCalls)
    (some : made ≠ []) : made.countP Sight.makesSpv = 1 := by
  obtain ⟨rest, calls⟩ := before
  have all := countP_peerCalls f addresses
  rw [← calls, List.countP_append] at all
  cases made with
  | nil => exact absurd rfl some
  | cons sight others =>
    have first : sight = .spvSyncer f.nextSpv f.config.network.name := (List.cons.inj calls).1
    rw [first, List.countP_cons_of_pos rfl] at all ⊢
    omega

/-- What a start changes about syncers of peers. -/
structure Makes (addresses : List String) (made : List Sight) (f g : Follower) : Prop where
  before : made <+: f.buildCalls addresses ++ f.attachCalls
  calls : g.sights = f.sights ++ made
  count : g.counts.spvSyncers = f.counts.spvSyncers + made.countP Sight.makesSpv
  runs : ∀ run ∈ g.runs, run ∈ f.runs ∨ run.backend = .spv f.nextSpv.number ∧ made ≠ []

theorem Makes.callsOf_next {made : List Sight} (makes : Makes addresses made f g)
    (counted : f.SyncersCounted) :
    g.callsOf f.nextSpv = made.filter (·.syncer? = some f.nextSpv) := by
  have before : f.callsOf f.nextSpv = [] := counted.unmade _ (Nat.lt_succ_self _)
  rw [callsOf_append makes.calls, before, List.nil_append]

theorem Makes.counted {made : List Sight} (makes : Makes addresses made f g)
    (counted : f.SyncersCounted) : g.SyncersCounted where
  unmade number unmade := by
    rw [makes.count] at unmade
    rw [callsOf_append makes.calls, counted.unmade number (by omega), List.nil_append]
    by_cases none : made = []
    · rw [none]
      rfl
    · rw [countP_made makes.before none] at unmade
      exact filter_older makes.before (Nat.ne_of_gt unmade)
  waiting run member number backend := by
    rw [makes.count]
    rcases makes.runs run member with old | ⟨same, some⟩
    · exact Nat.le_trans (counted.waiting run old number backend) (Nat.le_add_right _ _)
    · rw [countP_made makes.before some]
      rw [same] at backend
      cases backend
      exact Nat.le_refl _

theorem Makes.runsSyncers {made : List Sight} (makes : Makes addresses made f g) :
    RunsSyncers f g where
  count := Nat.le.intro makes.count.symm
  calls number old := by
    have other : number ≠ f.nextSpv.number := Nat.ne_of_lt (Nat.lt_succ_of_le old)
    refine ⟨[], ?_, fun some => absurd rfl some⟩
    rw [callsOf_append makes.calls, filter_older makes.before other]
    rfl
  runs run member number old backend := by
    rcases makes.runs run member with before | ⟨same, -⟩
    · exact ⟨run, before, backend⟩
    · rw [same] at backend
      cases backend
      exact absurd old (Nat.not_succ_le_self _)

end

section

variable {entries : List String} {f : Follower} {came : Except Stop Started × Follower}

/-- A start makes at most one syncer of peers, and a run waits for it exactly if it is launched. -/
theorem PeerStart.makes (start : PeerStart entries f came) :
    let addresses := Endpoint.normals f.config.network.peerPort entries
    ∃ made, Makes addresses made f came.2 ∧
      (∀ number, came.1 = .ok (.launched number) → made = f.buildCalls addresses ++ f.attachCalls) ∧
      ((∀ number, came.1 ≠ .ok (.launched number)) → came.2.runs = f.runs) := by
  intro addresses
  by_cases refused : entries ≠ [] ∧ addresses = []
  · obtain ⟨stopped, calls, count, runs⟩ := start.refused refused.1 refused.2
    refine ⟨[], ⟨List.nil_prefix, calls.trans (List.append_nil _).symm, count, ?_⟩, ?_, fun _ => runs⟩
    · exact fun run member => .inl (runs ▸ member)
    · intro number launched
      rw [stopped] at launched
      contradiction
  · have accepted : entries = [] ∨ addresses ≠ [] := by
      simpa [or_iff_not_imp_left] using refused
    cases start.launches accepted with
    | @launched g hold calls count runs =>
      have some : f.buildCalls addresses ++ f.attachCalls ≠ [] := List.cons_ne_nil _ _
      refine ⟨_, ⟨List.prefix_refl _, calls, ?_, ?_⟩, fun _ _ => rfl, fun other => ?_⟩
      · rw [countP_peerCalls, count]
      · intro run member
        rw [runs] at member
        rcases List.mem_append.mp member with old | new
        · exact .inl old
        · rw [List.mem_singleton.mp new]
          exact .inr ⟨rfl, some⟩
      · exact absurd rfl (other _)
    | @panicked text made place g called breaks before calls count runs =>
      refine ⟨made, ⟨before, calls, count, ?_⟩, nofun, fun _ => runs⟩
      exact fun run member => .inl (runs ▸ member)

theorem syncers_startSync (entries : List String) (counted : f.SyncersCounted) :
    ((startSync (.spv entries)).run f).2.SyncersCounted ∧
      RunsSyncers f ((startSync (.spv entries)).run f).2 := by
  cases barrier : f.startBarrier? with
  | some e =>
    rw [run_startSync, barrier]
    exact ⟨counted, .refl f⟩
  | none =>
    obtain ⟨made, makes, -⟩ := (peerStart_startSync entries barrier).makes
    exact ⟨makes.counted counted, makes.runsSyncers⟩

/-- Every move counts the syncers of peers that it makes, and those that there were it runs at most. -/
theorem syncers_move {g : Follower} {move : Move} (counted : f.SyncersCounted)
    (made : f.move? move = some g) : g.SyncersCounted ∧ RunsSyncers f g := by
  by_cases peers : move.Peers
  · cases move with
    | step step =>
      cases made
      cases step with
      | start config =>
        cases config with
        | spv entries => exact syncers_startSync entries counted
        | rpc address username password certificate => contradiction
      | _ => exact peers.elim
    | call number =>
      obtain ⟨run, found, called⟩ := Option.bind_eq_some_iff.mp made
      split at called
      · contradiction
      · cases called
        exact syncers_callRun counted (List.mem_of_find?_eq_some found)
    | _ => exact peers.elim
  · have leaves := LeavesSyncers.of_peerless (.of_move made peers)
    exact ⟨leaves.counted counted, leaves.runsSyncers⟩

end

end Follower

open Follower

namespace Course

theorem Ran.syncers {allowed : Follower → Move → Follower → Prop} {c d : Course}
    (ran : Ran allowed c d) (counted : c.follower.SyncersCounted) :
    d.follower.SyncersCounted ∧ RunsSyncers c.follower d.follower := by
  induction ran with
  | start => exact ⟨counted, .refl _⟩
  | move before made may ih =>
    obtain ⟨counted', runs⟩ := syncers_move ih.1 made
    exact ⟨counted', ih.2.trans runs⟩

theorem Reached.syncersCounted {c : Course} (reached : c.Reached) : c.follower.SyncersCounted := by
  obtain ⟨first, initial, ran⟩ := reached
  have fresh := initial.fresh
  have counted : first.follower.SyncersCounted := by
    refine ⟨fun number _ => ?_, fun run member => ?_⟩
    · rw [callsOf, sights, fresh.history]
      rfl
    · rw [fresh.runs] at member
      contradiction
  exact (ran.syncers counted).1

section

variable {c d : Course} {entries : List String} {came : Except Stop Started × Follower}

/-- The syncer that a start launches has been told of the addresses before it is run, and is never told
of others. -/
theorem callsOf_launched {number : Nat} {allowed : Follower → Move → Follower → Prop} {move : Move}
    (counted : c.follower.SyncersCounted) (start : PeerStart entries c.follower came)
    (launched : came.1 = .ok (.launched number)) (ran : Ran allowed (c.next move came.2) d) :
    ∃ states : List SyncState, d.follower.callsOf c.follower.nextSpv =
      c.follower.buildCalls (Endpoint.normals c.follower.config.network.peerPort entries) ++
        states.map (Sight.run c.follower.nextSpv) := by
  obtain ⟨made, makes, all, -⟩ := start.makes
  have whole := all number launched
  have counted' : came.2.SyncersCounted := makes.counted counted
  have known : c.follower.nextSpv.number ≤ came.2.counts.spvSyncers := by
    rw [makes.count, whole, countP_peerCalls]
    exact Nat.le_refl _
  obtain ⟨states, called, -⟩ := (ran.syncers counted').2.calls _ known
  have built := makes.callsOf_next counted
  rw [whole, filter_peerCalls] at built
  exact ⟨states, called.trans (congrArg (· ++ _) built)⟩

/-- A syncer whose start came to nothing is never run. -/
theorem run_not_mem_callsOf {allowed : Follower → Move → Follower → Prop} {move : Move}
    (counted : c.follower.SyncersCounted) (start : PeerStart entries c.follower came)
    (stopped : ∀ number, came.1 ≠ .ok (.launched number))
    (made : c.follower.nextSpv.number ≤ came.2.counts.spvSyncers)
    (ran : Ran allowed (c.next move came.2) d) (state : SyncState) :
    .run c.follower.nextSpv state ∉ d.follower.callsOf c.follower.nextSpv := by
  obtain ⟨calls, makes, -, still⟩ := start.makes
  have counted' : came.2.SyncersCounted := makes.counted counted
  obtain ⟨states, called, waiting⟩ := (ran.syncers counted').2.calls _ made
  have none : states = [] := by
    by_contra some
    obtain ⟨run, member, backend⟩ := waiting some
    have among : run ∈ c.follower.runs := still stopped ▸ member
    exact Nat.not_succ_le_self _ (counted.waiting run among _ backend)
  have same : d.follower.callsOf c.follower.nextSpv = came.2.callsOf c.follower.nextSpv := by
    rw [none] at called
    exact called.trans (List.append_nil _)
  rw [same, makes.callsOf_next counted]
  intro member
  exact run_not_mem_peerCalls (makes.before.subset (List.mem_filter.mp member).1)

end

/-- A restriction to peers is not lost. Every listener is told of each entry that is no address, and
of nothing else. If there are entries and none is an address, the start fails and makes no syncer. If
there are none, or one is an address, it makes one; a syncer that is launched has been told once of
just the addresses if there were entries, and is told of nothing more, however the run goes on. -/
theorem peer_restriction_kept {c : Course} (reached : c.Reached)
    (free : c.follower.startBarrier? = none) (text : String) :
    let f := c.follower
    let came := (startSync (.ofPeerText text)).run f
    ∃ entries, PeerEntries text entries ∧ PeerStart entries f came ∧
      let addresses := Endpoint.normals f.config.network.peerPort entries
      (∀ number, came.1 = .ok (.launched number) → addresses = [] → entries = []) ∧
      ∀ {allowed : Follower → Move → Follower → Prop} {d : Course},
        Ran allowed (c.next (.step (.start (.ofPeerText text))) came.2) d →
          (∀ number, came.1 = .ok (.launched number) → ∃ states : List SyncState,
            d.follower.callsOf f.nextSpv =
              f.buildCalls addresses ++ states.map (Sight.run f.nextSpv)) ∧
          ((∀ number, came.1 ≠ .ok (.launched number)) →
            f.nextSpv.number ≤ came.2.counts.spvSyncers →
              ∀ state, .run f.nextSpv state ∉ d.follower.callsOf f.nextSpv) := by
  intro f came
  have counted : f.SyncersCounted := reached.syncersCounted
  have start : PeerStart (BackendConfig.peersOf text) f came := peerStart_startSync _ free
  refine ⟨BackendConfig.peersOf text, peerEntries_iff.mpr rfl, start, ?_, ?_⟩
  · intro number launched none
    by_contra given
    obtain ⟨stopped, -⟩ := start.refused given none
    rw [stopped] at launched
    contradiction
  · intro allowed d ran
    constructor
    · intro number launched
      exact callsOf_launched counted start launched ran
    · exact fun stopped made => run_not_mem_callsOf counted start stopped made ran

/-- The standard follower is given one address twice, a blank and something that is no address. -/
theorem peer_restriction_kept_twice :
    standard.Reached ∧ standard.follower.startBarrier? = none ∧
      ∃ config g, config = BackendConfig.ofPeerText "10.0.0.1; ;-;10.0.0.1:19108" ∧
        (startSync config).run standard.follower = (.ok (.launched 1), g) ∧
        (∀ position, standard.follower.hears position = true →
          (g.hearing position).filter (· ≠ .synced false) =
            [.syncError .invalidPeerAddress (.address (.invalidHost "-"))]) ∧
        ∀ {allowed : Follower → Move → Follower → Prop} {d : Course},
          Ran allowed (standard.next (.step (.start config)) g) d →
            ∃ states : List SyncState, d.follower.callsOf ⟨.spv, 1⟩ =
              [.spvSyncer ⟨.spv, 1⟩ "testnet3", .notifications ⟨.spv, 1⟩,
                .peers ⟨.spv, 1⟩ ["10.0.0.1:19108", "10.0.0.1:19108"]] ++
                states.map (Sight.run ⟨.spv, 1⟩) := by
  let text := "10.0.0.1; ;-;10.0.0.1:19108"
  let entries := ["10.0.0.1", "-", "10.0.0.1:19108"]
  have reached : standard.Reached := ⟨standard, standard_initial, .start⟩
  have free : standard.follower.startBarrier? = none := rfl
  have normals : Endpoint.normals standard.follower.config.network.peerPort entries =
      ["10.0.0.1:19108", "10.0.0.1:19108"] := by decide +kernel
  have complaints : Endpoint.complaints standard.follower.config.network.peerPort entries =
      [.syncError .invalidPeerAddress (.address (.invalidHost "-"))] := by decide +kernel
  obtain ⟨found, given, start, -, later⟩ := peer_restriction_kept reached free text
  have same : found = entries := (peerEntries_iff.mp given).trans (by decide +kernel)
  subst same
  generalize came : (startSync (.ofPeerText text)).run standard.follower = result at start later
  have launching := start.launches (.inr (by rw [normals]; exact List.cons_ne_nil _ _))
  obtain ⟨dispatches, -, -, heard⟩ := start.told
  cases launching with
  | @launched g hold calls count runs =>
    refine ⟨reached, free, .ofPeerText text, g, rfl, came, fun position hears => ?_, fun ran => ?_⟩
    · rw [(heard position hears).1, complaints]
      rfl
    · obtain ⟨states, calls⟩ := (later ran).1 1 rfl
      rw [normals] at calls
      exact ⟨states, calls⟩
  | @panicked text made place g called breaks =>
    -- No call is set up to fail.
    exact absurd (fun text => nofun) breaks

end Course

end ChainFollower
