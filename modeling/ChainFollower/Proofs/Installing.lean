import ChainFollower.Proofs.Deciding

/-!
The log of a process from its environment and the calls that install a filter: the directives of the
environment decide but for its levels for everything, and the first call whose directives can all be
read has its filter installed for good.
-/

namespace ChainFollower

namespace Directive

def parse? (text : List Char) : Option Directive :=
  (parse text).toOption

/-- The text cannot be cut where a part of it begins or ends, so that reading it panics. -/
def Tears (text : List Char) : Prop :=
  ∃ cut, parse text = .error (.miscut cut)

instance (text : List Char) : Decidable (Tears text) :=
  match read : parse text with
  | .error (.miscut cut) => .isTrue ⟨cut, read⟩
  | .error .malformed => .isFalse (by simp [Tears, read])
  | .error .unknownLevel => .isFalse (by simp [Tears, read])
  | .error (.field _) => .isFalse (by simp [Tears, read])
  | .ok _ => .isFalse (by simp [Tears, read])

theorem Problem.stop_panicked {problem : Problem} {text message : String}
    (panicked : problem.stop text = .panicked message) : ∃ cut, problem = .miscut cut := by
  cases problem with
  | miscut cut => exact ⟨cut, rfl⟩
  | malformed => cases panicked
  | unknownLevel => cases panicked
  | field problem => cases panicked

theorem Problem.stop_failed {problem : Problem} (text : String)
    (whole : ∀ cut, problem ≠ .miscut cut) : ∃ reason, problem.stop text =
      .failed (.logging ("invalid directive " ++ Text.quote text ++ ": " ++ reason)) := by
  cases problem with
  | miscut cut => exact absurd rfl (whole cut)
  | malformed => exact ⟨_, rfl⟩
  | unknownLevel => exact ⟨_, rfl⟩
  | field problem => exact ⟨_, rfl⟩

end Directive

namespace Filter

open Directive

def pieces (environment : String) : List (List Char) :=
  environment.toList.splitOn ','

/-- The directives of the environment, in their order; what cannot be read is left out. -/
def outside (environment : String) : Filter :=
  (pieces environment).filterMap parse?

def Reads (texts : List String) (given : Filter) : Prop :=
  List.Forall₂ (fun text directive => parse text.toList = .ok directive) texts given

/-- The first of the texts that cannot be read. -/
def FirstUnread (texts : List String) (text : String) : Prop :=
  ∃ before after given, texts = before ++ text :: after ∧ Reads before given ∧
    ∀ directive, parse text.toList ≠ .ok directive

theorem valid_of_whole {texts : List (List Char)} (whole : ∀ text ∈ texts, ¬ Tears text) :
    valid texts = .ok (texts.filterMap parse?) := by
  induction texts with
  | nil => rfl
  | cons text texts ih =>
    have rest := ih fun other among => whole other (List.mem_cons_of_mem _ among)
    rw [valid, List.filterMap_cons, parse?]
    cases read : parse text with
    | ok directive => simp [rest, Except.map, Except.toOption]
    | error problem =>
      cases problem with
      | miscut cut => exact absurd ⟨cut, read⟩ (whole text List.mem_cons_self)
      | malformed => simp [rest, Except.toOption]
      | unknownLevel => simp [rest, Except.toOption]
      | field problem => simp [rest, Except.toOption]

theorem valid_of_torn {texts : List (List Char)} (torn : ∃ text ∈ texts, Tears text) :
    ∃ message, valid texts = .error (.panicked message) := by
  induction texts with
  | nil => simp at torn
  | cons text texts ih =>
    rw [valid]
    obtain ⟨other, among, cut, unread⟩ := torn
    rcases List.mem_cons.mp among with rfl | later
    · exact ⟨_, by rw [unread]⟩
    · obtain ⟨message, stopped⟩ := ih ⟨other, later, cut, unread⟩
      rw [stopped]
      cases parse text with
      | ok directive => exact ⟨message, rfl⟩
      | error problem =>
        cases problem with
        | miscut cut => exact ⟨cut.message, rfl⟩
        | malformed => exact ⟨message, rfl⟩
        | unknownLevel => exact ⟨message, rfl⟩
        | field problem => exact ⟨message, rfl⟩

theorem ofText_eq (environment : String) : ofText environment = valid (pieces environment) := by
  rw [ofText, Text.splitWhen_eq_splitOn, pieces]

theorem ofList_of_reads {texts : List String} {given : Filter} (reads : Reads texts given) :
    ofList texts = .ok given := by
  induction reads with
  | nil => rfl
  | cons read _ ih => simp [ofList, read, ih, Except.map]

theorem ofList_eq_ok {texts : List String} {given : Filter} :
    ofList texts = .ok given ↔ Reads texts given := by
  constructor
  · intro came
    induction texts generalizing given with
    | nil =>
      cases came
      exact .nil
    | cons text texts ih =>
      rw [ofList] at came
      split at came
      · cases came
      · rename_i directive read
        cases rest : ofList texts with
        | error stop =>
          rw [rest] at came
          cases came
        | ok others =>
          rw [rest] at came
          cases came
          exact .cons read (ih rest)
  · exact ofList_of_reads

def given? (texts : List String) : Option Filter :=
  (ofList texts).toOption

theorem given?_eq_some {texts : List String} {given : Filter} :
    given? texts = some given ↔ Reads texts given := by
  rw [← ofList_eq_ok, given?]
  cases ofList texts <;> simp [Except.toOption]

theorem given?_eq_none {texts : List String} :
    given? texts = none ↔ ∀ given, ¬ Reads texts given := by
  simp [Option.eq_none_iff_forall_ne_some, given?_eq_some]

theorem ofList_of_firstUnread {texts : List String} {text : String} (first : FirstUnread texts text) :
    ∃ problem, parse text.toList = .error problem ∧ ofList texts = .error (problem.stop text) := by
  obtain ⟨before, after, given, rfl, reads, unread⟩ := first
  induction reads with
  | nil =>
    cases read : parse text.toList with
    | ok directive => exact absurd read (unread directive)
    | error problem => exact ⟨problem, rfl, by simp [ofList, read]⟩
  | @cons other directive before given parsed reads ih =>
    obtain ⟨problem, read, stopped⟩ := ih
    exact ⟨problem, read, by simp [ofList, parsed, stopped, Except.map]⟩

theorem firstUnread_of_error {texts : List String} {stop : Stop} (stopped : ofList texts = .error stop) :
    ∃ text, FirstUnread texts text ∧ text ∈ texts := by
  induction texts generalizing stop with
  | nil => cases stopped
  | cons text texts ih =>
    cases read : parse text.toList with
    | error problem => exact ⟨text, ⟨[], texts, [], rfl, .nil, by simp [read]⟩, List.mem_cons_self⟩
    | ok directive =>
      cases rest : ofList texts with
      | ok others => simp [ofList, read, rest, Except.map] at stopped
      | error stop =>
        obtain ⟨other, ⟨before, after, given, rfl, reads, unread⟩, among⟩ := ih rest
        exact ⟨other, ⟨text :: before, after, directive :: given, rfl, .cons read reads, unread⟩,
          List.mem_cons_of_mem _ among⟩

theorem assemble_of_whole {environment : String} (texts : List String)
    (whole : ∀ piece ∈ pieces environment, ¬ Tears piece) : assemble environment texts =
      (ofList texts).map fun given => outside environment ++ standard :: given := by
  simp only [assemble, ofText_eq, valid_of_whole whole, outside]
  cases ofList texts <;> rfl

/-- The level for everything stands behind the environment and takes the place of its own ones. -/
theorem decisive_standard {filter : Filter} {area : List Char} : decisive (filter ++ [standard]) area =
      some (match filter.decisive area with
        | some directive => if directive.IsBare then standard else directive
        | none => standard) := by
  have bare : standard.IsBare := ⟨rfl, rfl⟩
  have applies : standard.applies area = true := rfl
  rw [decisive_concat, if_pos applies]
  cases filter.decisive area with
  | none => rfl
  | some directive =>
    have either : standard.outweighs directive = true ↔ directive.IsBare := by
      rw [outweighs_iff, isBare_iff bare]
    by_cases outweighs : standard.outweighs directive = true
    · simp [better, outweighs, either.mp outweighs]
    · simp [better, outweighs, mt either.mpr outweighs]

end Filter

namespace LogOutput

open ChainFollower.Directive ChainFollower.Filter

def reply (output : LogOutput) (texts : List String) : Except Stop Unit × LogOutput :=
  match output.install texts with
  | .error stop => (.error stop, output)
  | .ok installed => (.ok (), installed)

theorem installAll_cons (output : LogOutput) (texts : List String) (calls : List (List String)) :
    output.installAll (texts :: calls) =
      ((output.reply texts).1 :: ((output.reply texts).2.installAll calls).1,
        ((output.reply texts).2.installAll calls).2) := by
  rw [installAll, reply]
  cases output.install texts <;> rfl

theorem installAll_append (output : LogOutput) (calls more : List (List String)) :
    output.installAll (calls ++ more) =
      ((output.installAll calls).1 ++ ((output.installAll calls).2.installAll more).1,
        ((output.installAll calls).2.installAll more).2) := by
  induction calls generalizing output with
  | nil => rfl
  | cons texts calls ih => simp [installAll_cons, ih]

theorem length_installAll (output : LogOutput) (calls : List (List String)) :
    (output.installAll calls).1.length = calls.length := by
  induction calls generalizing output with
  | nil => rfl
  | cons texts calls ih => simp [installAll_cons, ih]

theorem installAll_getElem? (output : LogOutput) (before : List (List String)) (texts : List String)
    (after : List (List String)) : (output.installAll (before ++ texts :: after)).1[before.length]? =
      some ((output.installAll before).2.reply texts).1 := by
  rw [installAll_append, ← length_installAll output before,
    List.getElem?_append_right (Nat.le_refl _), installAll_cons]
  simp

/-- What a call comes to in a process whose environment can be read. -/
theorem reply_eq {environment : String} (whole : ∀ piece ∈ pieces environment, ¬ Tears piece)
    (filter : Option Filter) (texts : List String) : (LogOutput.mk environment filter).reply texts =
      match ofList texts, filter with
      | .error stop, filter => (.error stop, ⟨environment, filter⟩)
      | .ok _, some filter =>
        (.error (.failed (.logging "a global default trace dispatcher has already been set")),
          ⟨environment, some filter⟩)
      | .ok given, none => (.ok (), ⟨environment, some (outside environment ++ standard :: given)⟩) := by
  rw [reply, install, assemble_of_whole texts whole]
  cases ofList texts with
  | error stop => rfl
  | ok given => cases filter <;> rfl

/-- The filter of the first call that can be read is the one that is installed. -/
theorem after_installAll {environment : String} (whole : ∀ piece ∈ pieces environment, ¬ Tears piece)
    (calls : List (List String)) : ((start environment).installAll calls).2 =
      ⟨environment, (calls.findSome? given?).map (outside environment ++ standard :: ·)⟩ := by
  induction calls using List.reverseRecOn with
  | nil => rfl
  | append_singleton calls texts ih =>
    rw [installAll_append, ih, installAll_cons, reply_eq whole, List.findSome?_append,
      List.findSome?_singleton, given?]
    cases ofList texts <;> cases calls.findSome? given? <;> rfl

/-- Some call has succeeded exactly if some call could be read. -/
theorem ok_mem_installAll {environment : String}
    (whole : ∀ piece ∈ pieces environment, ¬ Tears piece) (calls : List (List String)) :
    .ok () ∈ ((start environment).installAll calls).1 ↔ calls.findSome? given? ≠ none := by
  induction calls using List.reverseRecOn with
  | nil => simp [installAll]
  | append_singleton calls texts ih =>
    rw [installAll_append, List.mem_append, ih, after_installAll whole, installAll_cons,
      reply_eq whole, List.findSome?_append, List.findSome?_singleton, given?]
    cases ofList texts <;> cases calls.findSome? given? <;> simp [installAll, Except.toOption]

/-- What a call is answered that comes after calls with these answers. -/
structure Answered (earlier : List (Except Stop Unit)) (texts : List String)
    (answer : Except Stop Unit) : Prop where
  /-- A call succeeds if all its directives can be read and no call before it succeeded. -/
  succeeds : answer = .ok () ↔ (∃ given, Reads texts given) ∧ .ok () ∉ earlier
  /-- Otherwise the first directive is named that cannot be read. -/
  named : ∀ text, FirstUnread texts text → ¬ Tears text.toList → ∃ reason, answer =
    .error (.failed (.logging ("invalid directive " ++ Text.quote text ++ ": " ++ reason)))
  calm : (∀ text ∈ texts, ¬ Tears text.toList) → ∀ message, answer ≠ .error (.panicked message)

theorem answered_reply {environment : String} (whole : ∀ piece ∈ pieces environment, ¬ Tears piece)
    (before : List (List String)) (texts : List String) :
    Answered ((start environment).installAll before).1 texts
      (((start environment).installAll before).2.reply texts).1 := by
  have earlier := ok_mem_installAll whole before
  rw [after_installAll whole, reply_eq whole]
  constructor
  · rw [earlier, not_not]
    simp only [← given?_eq_some, given?]
    cases ofList texts <;> cases before.findSome? given? <;> simp [Except.toOption]
  · intro text first untorn
    obtain ⟨problem, read, stopped⟩ := ofList_of_firstUnread first
    obtain ⟨reason, failed⟩ := problem.stop_failed text fun cut same => untorn ⟨cut, same ▸ read⟩
    exact ⟨reason, by rw [stopped, failed]⟩
  · intro untorn message panicked
    cases read : ofList texts with
    | ok given =>
      rw [read] at panicked
      cases found : before.findSome? given? <;> simp [found] at panicked
    | error stop =>
      obtain ⟨text, first, among⟩ := firstUnread_of_error read
      obtain ⟨problem, unread, stopped⟩ := ofList_of_firstUnread first
      simp only [stopped, Except.error.injEq] at panicked
      obtain ⟨cut, rfl⟩ := Directive.Problem.stop_panicked panicked
      exact untorn text among ⟨cut, unread⟩

/-- A call panics if the first of its directives that cannot be read cannot be cut. -/
theorem reply_of_torn {environment : String} (whole : ∀ piece ∈ pieces environment, ¬ Tears piece)
    (before : List (List String)) {texts : List String} {text : String}
    (first : FirstUnread texts text) (torn : Tears text.toList) : ∃ message,
      (((start environment).installAll before).2.reply texts).1 = .error (.panicked message) := by
  obtain ⟨problem, read, stopped⟩ := ofList_of_firstUnread first
  obtain ⟨cut, miscut⟩ := torn
  rw [after_installAll whole, reply_eq whole, stopped]
  rw [miscut] at read
  cases read
  exact ⟨cut.message, rfl⟩

theorem admits_eq_true {output : LogOutput} {filter : Filter} {record : LogRecord}
    (installed : output.filter = some filter) : output.admits record = true ↔
      ∃ directive, filter.Decides record.area.target.toList directive ∧
        directive.threshold.passes record.level = true := by
  simp only [admits, installed, Filter.admits, ← decisive_eq_some]
  cases filter.decisive record.area.target.toList <;> simp

/-- The environment decides what is printed unless a caller gives directives, and informative records
are printed where it says nothing. Its levels for everything are not heeded: where one of them should
decide, informative records are printed as if it were not there. -/
theorem environment_decides (environment : String) :
    ((∃ piece ∈ pieces environment, Tears piece) →
      ∃ message, (start environment).install [] = .error (.panicked message)) ∧
    ((∀ piece ∈ pieces environment, ¬ Tears piece) →
      ∃ output, (start environment).install [] = .ok output ∧ ∀ record : LogRecord,
        (∀ directive, (outside environment).Decides record.area.target.toList directive →
          (output.admits record = true ↔
            if directive.IsBare then record.level.rank ≤ Level.info.rank
            else directive.threshold.passes record.level = true)) ∧
        ((∀ directive ∈ outside environment,
            directive.applies record.area.target.toList = false) →
          (output.admits record = true ↔ record.level.rank ≤ Level.info.rank))) := by
  constructor
  · intro torn
    obtain ⟨message, stopped⟩ := valid_of_torn torn
    rw [← ofText_eq] at stopped
    refine ⟨message, ?_⟩
    simp [install, assemble, start, stopped, bind, Except.bind]
  · intro whole
    refine ⟨⟨environment, some (outside environment ++ [standard])⟩, ?_, fun record => ?_⟩
    · rw [install, start, assemble_of_whole [] whole]
      rfl
    · have informative : standard.threshold.passes record.level = true ↔
          record.level.rank ≤ Level.info.rank := decide_eq_true_iff
      constructor
      · intro directive decides
        rw [← decisive_eq_some] at decides
        simp only [admits, Filter.admits, decisive_standard, decides]
        split <;> simp_all
      · intro silent
        rw [← decisive_eq_none] at silent
        simpa only [admits, Filter.admits, decisive_standard, silent] using informative

/-- A directive with a target decides for its areas; elsewhere informative records are printed, although
the level for everything lets warnings pass only. -/
theorem environment_decides_targeted :
    (∀ piece ∈ pieces "wallet_sync::backend=debug,warn", ¬ Tears piece) ∧
    ∃ output, (start "wallet_sync::backend=debug,warn").install [] = .ok output ∧
      output.admits .cacheInvalidated = true ∧ output.admits .rescanCancelling = true ∧
      output.admits .clientReused = false := by
  have whole : ∀ piece ∈ pieces "wallet_sync::backend=debug,warn", ¬ Tears piece := by
    decide +kernel
  have targeted : (outside "wallet_sync::backend=debug,warn").Decides
      LogRecord.cacheInvalidated.area.target.toList
      ⟨some "wallet_sync::backend".toList, false, [], some .debug⟩ := by decide +kernel
  have bare (record : LogRecord) (elsewhere : record.area = .rescan ∨ record.area = .selection) :
      (outside "wallet_sync::backend=debug,warn").Decides record.area.target.toList
        (ofThreshold (some .warn)) := by
    rcases elsewhere with area | area <;> rw [area] <;> decide +kernel
  obtain ⟨output, installed, decided⟩ :=
    (environment_decides "wallet_sync::backend=debug,warn").2 whole
  refine ⟨whole, output, installed, ?_, ?_, ?_⟩
  · exact ((decided .cacheInvalidated).1 _ targeted).mpr rfl
  · exact ((decided .rescanCancelling).1 _ (bare _ (.inl rfl))).mpr (by decide)
  · exact Bool.eq_false_iff.mpr (mt ((decided .clientReused).1 _ (bare _ (.inr rfl))).mp (by decide))

/-- The environment asks for the debugging records of everything, and they are not printed. -/
theorem environment_level_lost :
    (outside "debug").Decides LogRecord.cacheInvalidated.area.target.toList
      (ofThreshold (some .debug)) ∧
    Threshold.passes (some .debug) LogRecord.cacheInvalidated.level = true ∧
    ∃ output, (start "debug").install [] = .ok output ∧ output.admits .cacheInvalidated = false :=
  ⟨by decide +kernel, rfl, ⟨"debug", some [ofThreshold (some .debug), standard]⟩, rfl,
    by decide +kernel⟩

/-- In a process whose environment can be read the first call whose directives can all be read installs
its filter for good, and of that filter the directive decides that names most, the last of equals. -/
theorem first_valid_installs {environment : String}
    (whole : ∀ piece ∈ pieces environment, ¬ Tears piece) (calls : List (List String)) :
    (∀ before texts after, calls = before ++ texts :: after →
      ∃ answer, ((start environment).installAll calls).1[before.length]? = some answer ∧
        Answered (((start environment).installAll calls).1.take before.length) texts answer) ∧
    ((∀ texts ∈ calls, ∀ given, ¬ Reads texts given) →
      ∀ record, ((start environment).installAll calls).2.admits record = false) ∧
    ∀ before texts after given, calls = before ++ texts :: after →
      (∀ earlier ∈ before, ∀ given, ¬ Reads earlier given) → Reads texts given →
      ∀ record, ((start environment).installAll calls).2.admits record = true ↔
        ∃ directive, (outside environment ++ standard :: given).Decides
          record.area.target.toList directive ∧ directive.threshold.passes record.level = true := by
  refine ⟨?_, ?_, ?_⟩
  · rintro before texts after rfl
    refine ⟨_, installAll_getElem? _ before texts after, ?_⟩
    rw [installAll_append, ← length_installAll (start environment) before, List.take_left]
    exact answered_reply whole before texts
  · intro unread record
    have none : calls.findSome? given? = none := List.findSome?_eq_none_iff.mpr fun texts among =>
      given?_eq_none.mpr (unread texts among)
    rw [after_installAll whole, none]
    rfl
  · rintro before texts after given rfl unread reads record
    have none : before.findSome? given? = none := List.findSome?_eq_none_iff.mpr fun texts among =>
      given?_eq_none.mpr (unread texts among)
    have first : (before ++ texts :: after).findSome? given? = some given := by
      rw [List.findSome?_append, none, List.findSome?_cons, given?_eq_some.mpr reads]
      rfl
    apply admits_eq_true
    rw [after_installAll whole, first]
    rfl

/-- The first call is refused for a level that is none, the second one installs its filter, and the third
one comes too late. -/
theorem first_valid_installs_second :
    let calls := [["x=y"], ["wallet_sync::wallet=debug"], ["off"]]
    let run := (start "wallet_sync=warn").installAll calls
    (∀ piece ∈ pieces "wallet_sync=warn", ¬ Tears piece) ∧ run.1[1]? = some (.ok ()) ∧
      run.2.admits .clientReused = true ∧ run.2.admits .cacheInvalidated = false := by
  intro calls run
  have whole : ∀ piece ∈ pieces "wallet_sync=warn", ¬ Tears piece := by decide +kernel
  have unread : ∀ given, ¬ Reads ["x=y"] given := given?_eq_none.mp (by decide +kernel)
  have reads : Reads ["wallet_sync::wallet=debug"]
      [⟨some "wallet_sync::wallet".toList, false, [], some .debug⟩] :=
    given?_eq_some.mp (by decide +kernel)
  obtain ⟨answers, -, printed⟩ := first_valid_installs whole calls
  obtain ⟨refusal, first, refused⟩ := answers [] ["x=y"] _ rfl
  obtain ⟨answer, second, answered⟩ := answers [["x=y"]] _ _ rfl
  have only : .ok () ∉ run.1.take 1 := by
    have fails : .ok () ≠ refusal := fun same =>
      unread _ (refused.succeeds.mp same.symm).1.choose_spec
    have head : run.1.head? = some refusal := List.head?_eq_getElem?.trans first
    simpa [List.take_one, head] using fails
  have succeeds : answer = .ok () := answered.succeeds.mpr ⟨⟨_, reads⟩, only⟩
  have prints := printed [["x=y"]] _ [["off"]] _ rfl (by simpa using unread) reads
  refine ⟨whole, succeeds ▸ second, ?_, ?_⟩
  · apply (prints .clientReused).mpr
    exact ⟨⟨some "wallet_sync::wallet".toList, false, [], some .debug⟩, by decide +kernel, rfl⟩
  · rw [Bool.eq_false_iff, Ne, prints]
    rintro ⟨directive, decides, passes⟩
    have others : (outside "wallet_sync=warn" ++ [standard,
        ⟨some "wallet_sync::wallet".toList, false, [], some .debug⟩]).Decides
        LogRecord.cacheInvalidated.area.target.toList
        ⟨some "wallet_sync".toList, false, [], some .warn⟩ := by decide +kernel
    rw [decides.unique others] at passes
    cases passes

/-- A directive with a field stays before a later one for the same target, and a call with a directive
that cannot be cut panics. -/
theorem fielded_directive_stays :
    let calls := [["wallet_sync[\x7bmessage\x7d]=trace", "wallet_sync=error"], ["\u3000ab=debug"]]
    let run := (start "").installAll calls
    run.1[0]? = some (.ok ()) ∧
      (Reads ["wallet_sync[\x7bmessage\x7d]=trace", "wallet_sync=error"]
        [⟨some "wallet_sync".toList, false, [⟨"message".toList, false⟩], some .trace⟩,
          ⟨some "wallet_sync".toList, false, [], some .error⟩]) ∧
      run.2.admits .cacheInvalidated = true ∧
      ∃ message, run.1[1]? = some (.error (.panicked message)) := by
  intro calls run
  have whole : ∀ piece ∈ pieces "", ¬ Tears piece := by decide +kernel
  have reads : Reads ["wallet_sync[\x7bmessage\x7d]=trace", "wallet_sync=error"]
      [⟨some "wallet_sync".toList, false, [⟨"message".toList, false⟩], some .trace⟩,
        ⟨some "wallet_sync".toList, false, [], some .error⟩] :=
    given?_eq_some.mp (by decide +kernel)
  have torn : Tears "\u3000ab=debug".toList := by decide +kernel
  have unread : FirstUnread ["\u3000ab=debug"] "\u3000ab=debug" := by
    obtain ⟨cut, miscut⟩ := torn
    refine ⟨[], [], [], rfl, .nil, fun directive read => ?_⟩
    rw [miscut] at read
    cases read
  refine ⟨?_, reads, by decide +kernel, ?_⟩
  · have succeeds := (answered_reply whole [] _).succeeds.mpr ⟨⟨_, reads⟩, by simp [installAll]⟩
    rw [← succeeds]
    exact installAll_getElem? (start "") [] _ _
  · obtain ⟨message, panics⟩ := reply_of_torn whole (calls.take 1) unread torn
    exact ⟨message, panics ▸ installAll_getElem? (start "") (calls.take 1) _ _⟩

end LogOutput

end ChainFollower
