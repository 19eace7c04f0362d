import ChainFollower.Proofs.Releasing

/-! Closing again until the loader unloads the wallet. A call that the loader refuses has released all
but the wallet, and leaves nothing to do but to ask the loader again. -/
namespace ChainFollower

structure CloseReplies where
  index : Option WalletError
  unload : Option WalletError

def CloseReplies.answer (replies : CloseReplies) : Except Stop Unit :=
  match replies.unload with
  | none => .ok ()
  | some e => .error (.failed (.ofWallet e))

def Happening.asksUnload : Happening → Bool
  | saw .unload => true
  | _ => false

namespace Follower

open Act Scenario.Step

theorem lookup_filter (kept : Place → Bool) (place : Place) (faults : List (Place × Fault)) :
    (faults.filter (fun entry => kept entry.1)).lookup place =
      if kept place then faults.lookup place else none := by
  induction faults with
  | nil => simp
  | cons entry others ih =>
    obtain ⟨other, fault⟩ := entry
    by_cases here : place = other
    · subst here
      cases keeps : kept place <;> simp [keeps, ih]
    · have missed : (place == other) = false := beq_eq_false_iff_ne.mpr here
      cases keeps : kept other <;> simp [keeps, List.lookup_cons, missed, ih]

theorem fault_setFault (f : Follower) (place other : Place) (fault : Option Fault) :
    (setFault f other fault).fault? place = if place = other then fault else f.fault? place := by
  have others := lookup_filter (fun place => decide (place ≠ other)) place f.faults
  unfold setFault fault?
  cases fault with
  | none =>
    apply others.trans
    by_cases same : place = other <;> simp [same]
  | some fault =>
    dsimp only
    rw [List.lookup_cons, others]
    by_cases same : place = other
    · simp [same]
    · have missed : (place == other) = false := beq_eq_false_iff_ne.mpr same
      simp [missed, same]

def replying (f : Follower) (replies : CloseReplies) : Follower :=
  setFault (setFault f .indexClose (replies.index.map .error)) .unload (replies.unload.map .error)

def closeEach : List CloseReplies → Follower → List (Except Stop Unit) × Follower
  | [], f => ([], f)
  | replies :: later, f =>
    let came := close.run (f.replying replies)
    let others := closeEach later came.2
    (came.1 :: others.1, others.2)

def unloads (f : Follower) : Nat := f.history.countP Happening.asksUnload

def rest (f : Follower) : Follower :=
  { f with history := [], faults := [] }

def released (f : Follower) (unloaded : Bool) : Follower :=
  { f with
    index := none
    wallet := { f.wallet with link := if f.loader.loaded then none else f.wallet.link }
    loader := { f.loader with link := none, loaded := if unloaded then false else f.loader.loaded } }

theorem released_released (f : Follower) (unloaded : Bool) :
    (f.released false).released unloaded = f.released unloaded := by
  unfold released
  cases f.loader.loaded <;> rfl

section
variable {f g : Follower}

theorem Logged.same (logged : Logged f g) : g.rest = f.rest ∧ g.unloads = f.unloads := by
  rcases logged with rfl | ⟨record, rfl⟩ <;> exact ⟨rfl, rfl⟩

theorem unloads_unindexed (f : Follower) : f.unlinked.unindexed.unloads = f.unloads := by
  unfold unindexed unlinked
  split <;> split <;> rfl

theorem rest_unlinked (f : Follower) :
    f.unlinked.rest = ({ f.released false with index := f.unlinked.index } : Follower).rest := by
  unfold unlinked released
  split <;> rfl

theorem rest_unindexed (f : Follower) : f.unlinked.unindexed.rest = (f.released false).rest := by
  have unlinked := rest_unlinked f
  unfold unindexed
  split
  · rename_i none
    rw [none] at unlinked
    exact unlinked
  · exact congrArg (fun f : Follower => { f with index := none }) unlinked

theorem released_of_rest (same : f.rest = g.rest) (unloaded : Bool) :
    (f.released unloaded).rest = (g.released unloaded).rest :=
  congrArg (released · unloaded) same

end

/-- With the links and the index gone, the loader's answer decides whether the wallet goes too. -/
theorem CloseComesTo.released {f g : Follower} {result : Except Stop Unit}
    (comes : CloseComesTo f (result, g)) (returned : ∀ text, result ≠ .error (.panicked text))
    {replies : CloseReplies} (replying : f.fault? .unload = replies.unload.map .error) :
    result = replies.answer ∧ g.rest = (f.released replies.unload.isNone).rest ∧
      g.unloads = f.unloads + 1 := by
  have linkless := rest_unindexed f
  have asked {g : Follower} (logged : Logged f.unlinked.unindexed g) :
      (g.saw .unload).unloads = f.unloads + 1 := by
    rw [← unloads_unindexed f, ← logged.same.2]
    exact List.countP_cons_of_pos rfl
  unfold CloseReplies.answer
  cases comes with
  | unlinking text => exact absurd rfl (returned text)
  | dropping text => exact absurd rfl (returned text)
  | @unloading text => exact absurd rfl (returned text)
  | @refused e g refuses logged =>
    cases reply : replies.unload with
    | none =>
      rw [refuses, reply] at replying
      contradiction
    | some other =>
      rw [refuses, reply] at replying
      cases replying
      exact ⟨rfl, logged.same.1.trans linkless, asked logged⟩
  | @closed g agrees logged =>
    cases reply : replies.unload with
    | none =>
      have unloaded := congrArg (withLoaded · false) (logged.same.1.trans linkless)
      exact ⟨rfl, unloaded, asked logged⟩
    | some other =>
      rw [agrees, reply] at replying
      contradiction

theorem replying_same (f : Follower) (replies : CloseReplies) :
    ∃ faults, f.replying replies = { f with faults := faults } := by
  unfold replying
  cases replies.index <;> cases replies.unload <;> exact ⟨_, rfl⟩

theorem fault_replying (f : Follower) (replies : CloseReplies) (place : Place) :
    (f.replying replies).fault? place =
      if place = .unload then replies.unload.map .error
      else if place = .indexClose then replies.index.map .error
      else f.fault? place := by
  unfold replying
  rw [fault_setFault, fault_setFault]

/-- What a call of `close` leaves that returns. -/
structure Released (f : Follower) (replies : CloseReplies) (result : Except Stop Unit)
    (g : Follower) : Prop where
  /-- The loader's error comes out, translated; that of the index does not. -/
  answer : result = replies.answer
  index : g.index = none
  loader : g.loader.link = none
  wallet : f.loader.loaded = true → g.wallet.link = none
  /-- The loader is asked, whatever the index came to. -/
  asked : g.unloads = f.unloads + 1
  closed : g.closed = f.index.toList ++ f.closed
  /-- Nothing else is changed. -/
  rest : g.rest = (f.released replies.unload.isNone).rest

theorem released_close (f : Follower) (replies : CloseReplies) {result : Except Stop Unit}
    {g : Follower} (came : close.run (f.replying replies) = (result, g))
    (returned : ∀ text, result ≠ .error (.panicked text)) : Released f replies result g := by
  have comes := comesTo_close (f.replying replies)
  rw [came] at comes
  have unload : (f.replying replies).fault? .unload = replies.unload.map .error := by
    rw [fault_replying, if_pos rfl]
  obtain ⟨answer, rest, asked⟩ := comes.released returned unload
  -- The replies are all that tells the follower that closes from `f`.
  obtain ⟨faults, same⟩ := replying_same f replies
  rw [same] at comes rest asked
  constructor
  · exact answer
  · exact congrArg Follower.index rest
  · exact congrArg (fun f : Follower => f.loader.link) rest
  · intro loaded
    have link := congrArg (fun f : Follower => f.wallet.link) rest
    exact link.trans (if_pos loaded)
  · exact asked
  · rcases comes.closesIndex with ⟨_, text, panicked⟩ | closes
    · exact absurd panicked (returned text)
    · exact closes.closed
  · exact rest

theorem LinksHold.replying {f : Follower} (hold : f.LinksHold) (replies : CloseReplies) :
    (f.replying replies).LinksHold := by
  constructor
  · intro text
    rw [fault_replying]
    exact hold.wallet text
  · intro text
    rw [fault_replying]
    exact hold.loader text

theorem close_returns {f : Follower} (hold : f.LinksHold) (replies : CloseReplies) :
    ∃ g, close.run (f.replying replies) = (replies.answer, g) ∧
      Released f replies replies.answer g ∧ g.LinksHold := by
  have links := hold.replying replies
  have index : (f.replying replies).Holds .indexClose := by
    intro text
    rw [fault_replying]
    cases replies.index <;> exact nofun
  have unload : (f.replying replies).Holds .unload := by
    intro text
    rw [fault_replying]
    cases replies.unload <;> exact nofun
  have comes := comesTo_close (f.replying replies)
  cases came : close.run (f.replying replies) with
  | mk result g =>
    rw [came] at comes
    have returned := comes.returns links index unload
    have released := released_close f replies came returned
    cases released.answer
    exact ⟨g, rfl, released, links.of_faults (comes.faults returned)⟩

theorem closeEach_released {f : Follower} (hold : f.LinksHold) {refusals : List CloseReplies}
    (refused : ∀ replies ∈ refusals, replies.unload ≠ none) {last : CloseReplies}
    (agrees : last.unload = none) :
    ∃ g, closeEach (refusals ++ [last]) f =
        (refusals.map CloseReplies.answer ++ [.ok ()], g) ∧
      g.rest = (f.released true).rest ∧ g.closed = f.index.toList ++ f.closed := by
  induction refusals generalizing f with
  | nil =>
    obtain ⟨g, came, released, _⟩ := close_returns hold last
    have answer : last.answer = .ok () := by rw [CloseReplies.answer, agrees]
    have rest := released.rest
    rw [agrees] at rest
    refine ⟨g, ?_, rest, released.closed⟩
    simp only [closeEach, List.nil_append, came, answer, List.map_nil]
  | cons replies refusals ih =>
    obtain ⟨g, came, released, hold⟩ := close_returns hold replies
    obtain ⟨h, others, rest, closed⟩ :=
      ih hold fun replies member => refused replies (List.mem_cons_of_mem _ member)
    have refuses : replies.unload.isNone = false := by
      simpa [Option.isSome_iff_ne_none] using refused replies List.mem_cons_self
    have half := released.rest
    rw [refuses] at half
    refine ⟨h, ?_, ?_, ?_⟩
    · simp only [closeEach, List.cons_append, came, others, List.map_cons]
    -- All that the loader's refusal left over is the wallet, so that the next call starts from there.
    · rw [rest, released_of_rest half true]
      exact congrArg Follower.rest (released_released f true)
    · rw [closed, released.index, released.closed]
      rfl

/-- Whatever errors the index and the loader come to, closing releases all but the wallet and comes
to the loader's answer. Closing again until the loader agrees ends where closing once does. -/
theorem close_releases (f : Follower) :
    (∀ replies result g, close.run (f.replying replies) = (result, g) →
      (∀ text, result ≠ .error (.panicked text)) → Released f replies result g) ∧
    (f.LinksHold → ∀ replies, ∃ g, close.run (f.replying replies) = (replies.answer, g)) ∧
    (f.LinksHold → ∀ refusals last once, (∀ replies ∈ refusals, replies.unload ≠ none) →
      last.unload = none → once.unload = none →
      ∃ g h, closeEach (refusals ++ [last]) f =
          (refusals.map CloseReplies.answer ++ [.ok ()], g) ∧
        close.run (f.replying once) = (.ok (), h) ∧ g.rest = h.rest ∧ g.closed = h.closed ∧
        h.closed = f.index.toList ++ f.closed) := by
  constructor
  · intro replies result g came returned
    exact released_close f replies came returned
  constructor
  · intro hold replies
    obtain ⟨g, came, _⟩ := close_returns hold replies
    exact ⟨g, came⟩
  · intro hold refusals last once refused agrees agreed
    obtain ⟨g, each, rest, closed⟩ := closeEach_released hold refused agrees
    obtain ⟨h, came, released, _⟩ := close_returns hold once
    have answer : once.answer = .ok () := by rw [CloseReplies.answer, agreed]
    have same := released.rest
    rw [agreed] at same
    rw [answer] at came
    exact ⟨g, h, each, came, rest.trans same.symm, closed.trans released.closed.symm,
      released.closed⟩

/-- The loader refuses once, and the index does not close either. -/
theorem close_releases_opened : ∃ f g h : Follower,
    (openAll Passphrase.insecurePublic).run Course.standard.follower = (.ok (), f) ∧
    f.loader.loaded = true ∧ f.index = some 0 ∧
    Released f ⟨some .locked, some (.other "busy")⟩
      (.error (.failed (.wallet (.other "busy")))) g ∧
    closeEach [⟨some .locked, some (.other "busy")⟩, ⟨none, none⟩] f =
      ([.error (.failed (.wallet (.other "busy"))), .ok ()], h) ∧ h.closed = [0] := by
  let f := ((openAll Passphrase.insecurePublic).run Course.standard.follower).2
  have hold : f.LinksHold := (Calm.of_none rfl).toLinksHold
  obtain ⟨releases, _, retried⟩ := close_releases f
  obtain ⟨h, _, each, _, _, same, closed⟩ := retried hold [⟨some .locked, some (.other "busy")⟩]
    ⟨none, none⟩ ⟨none, none⟩ (by simp) rfl rfl
  exact ⟨f, _, h, rfl, rfl, rfl, releases _ _ _ rfl nofun, each, same.trans closed⟩

end Follower

end ChainFollower
