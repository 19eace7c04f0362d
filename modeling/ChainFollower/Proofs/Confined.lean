import ChainFollower.Proofs.Peerless

/-! Which moves load a wallet, open an index or change the public passphrase, and which tell listeners
of peers: all others are confined to the rest. -/
namespace ChainFollower

def Happening.Within (opens : Prop) : Happening → Prop
  | heard _ _ => False
  | saw (.indexClose _) => opens
  | _ => True

theorem Happening.Within.unheard {opens : Prop} {happening : Happening}
    (within : happening.Within opens) : ¬ happening.Heard := by
  cases happening with
  | heard position event => exact within.elim
  | _ => exact id

theorem Happening.Ordinary.within {opens : Prop} {happening : Happening}
    (ordinary : happening.Ordinary opens) : happening.Within opens := by
  cases happening with
  | heard position event => exact ordinary.elim
  | saw sight =>
    cases sight with
    | indexClose number => exact ordinary
    | _ => trivial
  | _ => trivial

theorem Sight.Mild.within {opens : Prop} {sight : Sight} (mild : sight.Mild) :
    (Happening.saw sight).Within opens := by
  cases sight with
  | indexClose number => exact mild.elim
  | _ => trivial

def Happening.closed? : Happening → Option Nat
  | saw (.indexClose number) => some number
  | _ => none

theorem Happening.Within.closed? {happening : Happening} (within : happening.Within False) :
    happening.closed? = none := by
  unfold Happening.closed?
  split
  · exact within.elim
  · rfl

namespace Follower

open Act

def closed (f : Follower) : List Nat := f.history.filterMap Happening.closed?

def Sealed (f g : Follower) : Prop := g.vault = f.vault ∧ g.closed = f.closed

instance : IsTrans Follower Sealed :=
  ⟨fun _ _ _ first second => ⟨second.1.trans first.1, second.2.trans first.2⟩⟩

theorem Sealed.note (f : Follower) {happening : Happening} (within : happening.Within False) :
    Sealed f (f.note happening) :=
  ⟨rfl, List.filterMap_cons_none within.closed?⟩

theorem Sealed.of_told {sent : Event → Prop} {f g : Follower} (told : Told sent f g) :
    Sealed f g := by
  obtain ⟨ls, ts, hs, rfl, _, _, telling⟩ := told
  refine ⟨rfl, ?_⟩
  have none : hs.filterMap Happening.closed? = [] := by
    refine List.filterMap_eq_nil_iff.mpr fun happening member => ?_
    have kind := telling happening member
    cases happening with
    | saw sight => exact kind.elim
    | _ => rfl
  change (hs ++ f.history).filterMap Happening.closed? = f.closed
  rw [List.filterMap_append, none, List.nil_append]
  rfl

/-- Work that loads and opens nothing and changes no public passphrase unless it `opens`, and tells
nobody of peers unless it `reports`. -/
inductive Confined (opens reports : Prop) : Follower → Follower → Prop where
  | same {f g : Follower}
      (rest : (g.listeners, g.vault, g.history) = (f.listeners, f.vault, f.history)) :
    Confined opens reports f g
  | opened {f g : Follower} (may : opens)
      (rest : (g.listeners, g.history) = (f.listeners, f.history)) : Confined opens reports f g
  | note (f : Follower) {happening : Happening} (within : happening.Within opens) :
    Confined opens reports f (f.note happening)
  | told {f g : Follower} {sent : Event → Prop} (told : Told sent f g)
      (others : ∀ event, sent event → event.isPeer = true → reports) : Confined opens reports f g
  | trans {f g h : Follower} (first : Confined opens reports f g)
      (second : Confined opens reports g h) : Confined opens reports f h

namespace Confined

variable {opens reports : Prop} {f g : Follower}

theorem refl (f : Follower) : Confined opens reports f f := same rfl

instance : Std.Refl (Confined opens reports) := ⟨refl⟩

instance : IsTrans Follower (Confined opens reports) := ⟨fun _ _ _ => trans⟩

theorem sealed (confined : Confined False reports f g) : Sealed f g := by
  induction confined with
  | @same f g rest =>
    simp only [Prod.mk.injEq] at rest
    exact ⟨rest.2.1, congrArg (List.filterMap Happening.closed?) rest.2.2⟩
  | opened may => exact may.elim
  | note f within => exact Sealed.note f within
  | told told => exact Sealed.of_told told
  | trans _ _ first second => exact IsTrans.trans _ _ _ first second

/-- Without opening, what is loaded and which index is held stay. -/
theorem kept (confined : Confined False reports f g) :
    g.loader.loaded = f.loader.loaded ∧ g.index = f.index :=
  ⟨congrArg Vault.loaded confined.sealed.1, congrArg Vault.index confined.sealed.1⟩

theorem unreported (confined : Confined opens False f g) (position : Nat) :
    (heardBy position g.history).filter Event.isPeer =
      (heardBy position f.history).filter Event.isPeer := by
  induction confined with
  | @same f g rest =>
    simp only [Prod.mk.injEq] at rest
    rw [rest.2.2]
  | @opened f g may rest =>
    simp only [Prod.mk.injEq] at rest
    rw [rest.2]
  | note f within => rw [(Without.note f within.unheard).heard_same]
  | told told others =>
    refine told.heardBy_filter (fun event sent => ?_) position
    exact Bool.eq_false_iff.mpr (others event sent)
  | trans _ _ first second => exact second.trans first

/-- Listeners that hear events go on hearing them. -/
theorem hears (confined : Confined opens reports f g) {position : Nat}
    (heard : f.hears position = true) : g.hears position = true := by
  induction confined with
  | @same f g rest =>
    simp only [Prod.mk.injEq] at rest
    rw [← heard, Follower.hears, Follower.hears, rest.1]
  | @opened f g may rest =>
    simp only [Prod.mk.injEq] at rest
    rw [← heard, Follower.hears, Follower.hears, rest.1]
  | note f within => exact heard
  | told told => exact (told.hears_eq (registered_of_hears heard)).trans heard
  | trans _ _ first second => exact second (first heard)

theorem log (f : Follower) (record : LogRecord) : Confined opens reports f (f.log record) :=
  note f trivial

theorem broadcast (f : Follower) (event : Event) (may : event.isPeer = true → reports) :
    Confined opens reports f (f.broadcast event) := by
  refine told (Told.broadcast event f) ?_
  rintro heard (rfl | rfl)
  · exact may
  · exact nofun

theorem broadcast_plain (f : Follower) (event : Event) (plain : event.isPeer = false) :
    Confined opens reports f (f.broadcast event) :=
  broadcast f event fun peer => absurd (plain.symm.trans peer) Bool.false_ne_true

theorem of_complainsOnly (complains : ComplainsOnly opens f g) : Confined opens reports f g := by
  induction complains with
  | @same f g rest =>
    refine same ?_
    simp only [Prod.mk.injEq] at rest ⊢
    obtain ⟨_, _, listeners, _, _, _, vault, history⟩ := rest
    exact ⟨listeners, vault, history⟩
  | @opened f g may rest =>
    refine opened may ?_
    simp only [Prod.mk.injEq] at rest ⊢
    exact ⟨rest.2.2.1, rest.2.2.2.2.2.2⟩
  | log f record => exact log f record
  | saw f mild => exact note f mild.within
  | complains f e => exact broadcast_plain f _ rfl
  | trans _ _ first second => exact first.trans second

theorem of_rescans (rescans : Rescans f g) : Confined opens reports f g := by
  induction rescans with
  | @same f g rest =>
    refine same ?_
    simp only [Prod.mk.injEq] at rest ⊢
    obtain ⟨_, listeners, _, vault, _, history⟩ := rest
    exact ⟨listeners, vault, history⟩
  | log f record => exact log f record
  | called f link => exact note f trivial
  | tells f scan => exact broadcast_plain f _ scan.unpeered
  | ended f number outcome => exact note f trivial
  | trans _ _ first second => exact first.trans second

theorem of_peerless (peerless : Peerless opens reports f g) : Confined opens reports f g := by
  induction peerless with
  | @same f g rest =>
    refine same ?_
    simp only [Prod.mk.injEq] at rest ⊢
    obtain ⟨listeners, vault, _, _, history⟩ := rest
    exact ⟨listeners, vault, history⟩
  | calls calls => exact of_complainsOnly calls.complainsOnly
  | rescans rescans => exact of_rescans rescans
  | note f ordinary => exact note f ordinary.within
  | told sent others => exact told sent others
  | runs f known => exact same rfl
  | trans _ _ first second => exact first.trans second

/-- Work that only calls closes no index, also if it opens one. -/
theorem closed_callsOnly (calls : CallsOnly opens f g) : g.closed = f.closed := by
  induction calls with
  | @same f g rest =>
    simp only [Prod.mk.injEq] at rest
    exact congrArg (List.filterMap Happening.closed?) rest.2.2.2.2.2.2.2.2
  | @opened f g may rest =>
    simp only [Prod.mk.injEq] at rest
    exact congrArg (List.filterMap Happening.closed?) rest.2.2.2.2.2.2.2
  | log f record => rfl
  | saw f domestic => exact (Sealed.note f domestic.mild.within).2
  | trans _ _ first second => exact second.trans first

theorem setState (f : Follower) (state : SyncState) :
    Confined opens reports f (f.setState state) :=
  of_peerless (.setState f state)

theorem walletLinked (f : Follower) (link : Option Link) :
    Confined opens reports f (f.walletLinked link) := by
  have called : Confined opens reports f (f.saw (.walletBackend link f.session.state)) :=
    note f trivial
  exact called.trans (same rfl)

theorem loaderLinked (f : Follower) (link : Option Link) :
    Confined opens reports f (f.loaderLinked link) := by
  have called : Confined opens reports f (f.saw (.loaderBackend link f.session.state)) :=
    note f trivial
  exact called.trans (same rfl)

theorem attached (f : Follower) (backend : Backend) :
    Confined opens reports f (f.attached backend) := by
  let wired := (f.walletLinked (some backend.link)).loaderLinked (some backend.link)
  have linked : Confined opens reports f wired := (walletLinked f _).trans (loaderLinked _ _)
  have stored : Confined opens reports wired
    { wired with session := { wired.session with backend := some backend } } := same rfl
  exact (linked.trans stored).trans (setState _ .running)

theorem unlink : Keeps (Confined opens reports) Follower.unlink := by
  refine keeps_unlink ?_ ?_
  · exact fun f => of_peerless (.setWalletLink none f)
  · exact fun f => of_peerless (.setLoaderLink none f)

theorem cancelTasks (f : Follower) : Confined opens reports f f.cancelQuietly.cancelRescan :=
  of_peerless (.cancelTasks f)

theorem connected (attempt : Nat) (client : Client) (address : String)
    (reply : Reply ConnectError) :
    Keeps (Confined opens reports) (connected attempt client address reply) :=
  fun f => of_peerless (.connected attempt client address reply f)

theorem build (attempt : Nat) (config : BackendConfig) :
    Keeps (Confined opens reports) (build attempt config) := by
  cases config with
  | spv peers =>
    exact keeps_map some fun f => of_complainsOnly ((builds_buildSpv peers).keeps f).opening
  | rpc address username password certificate => exact fun f => of_peerless (.build attempt rfl f)

theorem entered (f : Follower) (config : BackendConfig) :
    Confined opens reports f (f.entered config) :=
  of_peerless (.entered f config)

theorem warn (f : Follower) (stop : Stop) : Confined opens reports f (f.warn stop) :=
  of_peerless (.warn f stop)

theorem abortStart (f : Follower) : Confined opens reports f f.abortStart :=
  of_peerless (.abortStart f)

theorem launch (attempt : Nat) (backend : Backend) :
    Keeps (Confined opens True) (launch attempt backend) := by
  intro f
  rcases launch_cases attempt backend f with ⟨-, came⟩ | ⟨text, g, came, breaks⟩
  · have announced : Confined opens True (f.attached backend)
        ((f.attached backend).announced backend) := by
      unfold announced
      split
      · exact refl _
      · exact broadcast _ _ fun _ => trivial
    rw [came]
    exact ((attached f backend).trans announced).trans (same rfl)
  · rw [came]
    cases breaks with
    | backend => exact refl f
    | wallet => exact note f trivial
    | loader => exact (walletLinked f _).trans (note _ trivial)

theorem startSync (config : BackendConfig) : Keeps (Confined opens True) (startSync config) := by
  intro f
  rw [run_startSync]
  cases f.startBarrier? with
  | some e => exact refl f
  | none =>
    let attempt := f.counts.startAttempts + 1
    have built : Confined opens True f
        ((Follower.build attempt config).run (f.entered config)).2 :=
      (entered f config).trans (build attempt config (f.entered config))
    dsimp only
    split
    · rename_i backend g came
      rw [came] at built
      have launched : Keeps (Confined opens True)
          (Started.launched <$> Follower.launch attempt backend) := keeps_map _ (launch attempt backend)
      exact built.trans (launched g)
    · rename_i g came
      rw [came] at built
      exact built
    · rename_i stop g came
      rw [came] at built
      exact (built.trans (warn g stop)).trans (abortStart _)

theorem notify (kind : BackendKind) (notification : Notification) (f : Follower) :
    Confined opens True f (f.notify kind notification) :=
  of_peerless (.notify kind notification f)

theorem callRun (f : Follower) (run : RunLoop) : Confined opens True f (f.callRun run) := by
  have called : Confined opens True (f.marked run.number)
    ((f.marked run.number).saw (.run run.backend.syncer f.session.state)) := note _ trivial
  have begun : Confined opens True f (f.marked run.number) := of_peerless (.marked f _)
  exact (begun.trans called).trans (related_notifyEach notify _ _ _)

theorem perform (step : Scenario.Step) (f : Follower) :
    Confined step.Opens (Move.Reports (.step step)) f (step.perform f).2 := by
  by_cases peers : (Move.step step).Peers
  · cases step with
    | start config => exact startSync config f
    | _ => exact peers.elim
  · exact of_peerless (.perform peers f)

theorem of_move {move : Move} (made : f.move? move = some g) :
    Confined move.Opens move.Reports f g := by
  by_cases peers : move.Peers
  · cases move with
    | step step =>
      cases made
      exact perform step f
    | call number =>
      obtain ⟨run, _, called⟩ := Option.bind_eq_some_iff.mp made
      split at called
      · contradiction
      · cases called
        exact callRun f run
    | _ => exact peers.elim
  · exact of_peerless (.of_move made peers)

end Confined

end Follower

end ChainFollower
