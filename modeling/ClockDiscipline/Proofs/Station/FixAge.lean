import ClockDiscipline.Proofs.Station.Progress
import ClockDiscipline.Proofs.Station.Watching
import ClockDiscipline.Proofs.Station.WindowOutcome
import ClockDiscipline.Proofs.Sync.Preparation

/-!
The age of a fix. The step of synchronisation is told of a fix if and only if an active
sentence of the kind that matters was handled since the fix was last cleared, at most two
seconds ago. So the first settling time begins only with such a fix, obtained since the
receiver was last prepared.
-/

namespace ClockDiscipline

private theorem Sync.Rule.of_settle1 {before after : Sync.State} {inputs : Sync.Inputs}
    {effects : List Sync.Effect} (rule : Sync.Rule before inputs effects after)
    (elsewhere : before.phase ≠ .settle1) (settles : after.phase = .settle1) :
    before.phase = .waitForFirstFix ∧ inputs.hasFix = true := by
  cases rule with
  | acquireFix _ phase _ hasFix => exact ⟨phase, hasFix⟩
  | _ => simp_all

def Sync.Effect.isClearFix : Sync.Effect → Bool
  | .clearFix => true
  | _ => false

private theorem Sync.Effect.isClearFix_iff {effect : Sync.Effect} :
    effect.isClearFix = true ↔ effect = .clearFix := by
  cases effect <;> simp [isClearFix]

/-! ## Sentences that confirm a fix -/

def Nmea.Sentence.confirmsFix (sentence : Nmea.Sentence) : Bool :=
  let fields := Nmea.Fields.ofBytes sentence.bytes
  fields.tag = fixTag && fields.isActive

private theorem Nmea.Sentence.fixAfter_eq (sentence : Nmea.Sentence) (now : Nat)
    (fix : Fix) :
    sentence.fixAfter now fix = ([sentence].find? confirmsFix).elim fix
      fun sentence => Reception.confirm (.ofBytes sentence.bytes) now := by
  unfold fixAfter
  cases confirms : sentence.confirmsFix with
  | true =>
      rw [List.find?_cons_of_pos confirms, Option.elim_some]
      apply if_pos
      simpa [confirmsFix] using confirms
  | false =>
      rw [List.find?_cons_of_neg (by simp [confirms]), List.find?_nil, Option.elim_none]
      apply if_neg
      simpa [confirmsFix] using confirms

namespace Fix

theorem hear_eq (now : Nat) (sentences : List Nmea.Sentence) : ∀ fix : Fix,
    fix.hear now sentences = (sentences.reverse.find? Nmea.Sentence.confirmsFix).elim fix
      fun sentence => Reception.confirm (.ofBytes sentence.bytes) now := by
  induction sentences with
  | nil => exact fun _ => rfl
  | cons sentence rest induction =>
      intro fix
      rw [hear, List.foldl_cons, ← hear, induction, List.reverse_cons, List.find?_append,
        sentence.fixAfter_eq]
      cases rest.reverse.find? Nmea.Sentence.confirmsFix <;> rfl

private theorem hear_of_unconfirmed (fix : Fix) (now : Nat)
    {sentences : List Nmea.Sentence}
    (unconfirmed : sentences.any Nmea.Sentence.confirmsFix = false) :
    fix.hear now sentences = fix := by
  have none : sentences.reverse.find? Nmea.Sentence.confirmsFix = none := by
    rw [List.find?_eq_none]
    simpa using unconfirmed
  rw [hear_eq, none, Option.elim_none]

private theorem hear_of_confirmed (now : Nat) {sentences : List Nmea.Sentence} :
    ∀ fix : Fix,
    sentences.any Nmea.Sentence.confirmsFix = true →
      (fix.hear now sentences).held = true ∧
        (fix.hear now sentences).lastConfirmed = now := by
  intro fix confirmed
  have present : (sentences.reverse.find? Nmea.Sentence.confirmsFix).isSome = true := by
    rw [List.find?_isSome]
    simpa using confirmed
  rcases Option.isSome_iff_exists.mp present with ⟨sentence, latest⟩
  rw [hear_eq, latest]
  exact ⟨rfl, rfl⟩

private theorem held_watch_iff {fix kept : Fix} {now : Nat}
    (watched : fix.watch now = .ok kept) :
    kept.held = true ↔ fix.held = true ∧ now ≤ fix.lastConfirmed + 2 := by
  unfold watch at watched
  split at watched
  · rename_i held
    cases sum : addUnsigned fix.lastConfirmed fixTimeout with
    | error overflow => simp [sum, bind, Except.bind] at watched
    | ok limit =>
        have reaches : limit = fix.lastConfirmed + 2 :=
          (addUnsigned_eq_ok_iff.mp sum).2.symm
        simp only [sum, bind, Except.bind, pure, Except.pure, Except.ok.injEq] at watched
        split at watched
        · rename_i late
          simp only [← watched, lose, Bool.false_eq_true, false_iff, not_and]
          omega
        · rename_i early
          simp only [← watched, held, true_and, true_iff]
          omega
  · rename_i lost
    cases watched
    simp [lost]

private theorem lastConfirmed_watch {fix kept : Fix} {now : Nat}
    (watched : fix.watch now = .ok kept) :
    kept.lastConfirmed = fix.lastConfirmed := by
  rcases watch_eq_ok watched with rfl | rfl <;> rfl

end Fix

namespace Station

variable {World : Type} {devices : Devices World}

/-! ## Polls that confirm the fix or clear it -/

def Tick.confirmsFix (tick : Tick devices) : Bool :=
  tick.sentences.any Nmea.Sentence.confirmsFix

def Tick.clearsFix (tick : Tick devices) : Bool :=
  tick.step.effects.any Sync.Effect.isClearFix

/-- The polls since the fix was last cleared. Effects are carried out at the end of a
poll, so the sentences of the poll that clears the fix came before. -/
def sinceCleared (past : List (Tick devices)) : List (Tick devices) :=
  past.takeWhile fun tick => !tick.clearsFix

private theorem sinceCleared_append {clearing : Tick devices}
    (clears : clearing.clearsFix = true) (since older : List (Tick devices)) :
    sinceCleared (since ++ clearing :: older) = sinceCleared since := by
  induction since with
  | nil => simp [sinceCleared, clears]
  | cons tick rest induction =>
      simp only [sinceCleared, List.cons_append, List.takeWhile_cons] at induction ⊢
      rw [induction]

private theorem fix_act_of_uncleared (effects : List Sync.Effect)
    (uncleared : .clearFix ∉ effects) :
    ∀ (station : Station) (world : World),
      (act devices effects station world).reception.fix = station.reception.fix := by
  apply part_act devices fun station => station.reception.fix
  intro effect member station window
  cases effect with
  | clearFix => exact absurd member uncleared
  | _ => rfl

namespace Tick

variable (tick : Tick devices) {earlier : List (Tick devices)}

private theorem clearsFix_iff :
    tick.clearsFix = true ↔ .clearFix ∈ tick.step.effects := by
  simp [clearsFix, Sync.Effect.isClearFix_iff]

theorem fix_after_of_clears (clears : tick.clearsFix = true) :
    tick.after.reception.fix = tick.observed.reception.fix.lose := by
  rw [after, tick.rule.effects_of_ends (.inl (tick.clearsFix_iff.mp clears))]
  rfl

theorem fix_after_of_keeps (keeps : tick.clearsFix = false) :
    tick.after.reception.fix = tick.observed.reception.fix := by
  apply fix_act_of_uncleared
  rw [← tick.clearsFix_iff, keeps]
  exact Bool.false_ne_true

private theorem watchesObservedFix (forward : Forward (tick :: earlier))
    (watches : Watches 2 (reached earlier)
      (((sinceCleared earlier).find? confirmsFix).map Tick.now)
        tick.before.reception.fix.held
      (tick.before.reception.fix.lastConfirmed + 2)) :
    Watches 2 tick.now (((tick :: sinceCleared earlier).find? confirmsFix).map Tick.now)
      tick.observed.reception.fix.held
        (tick.observed.reception.fix.lastConfirmed + 2) := by
  have looked := Fix.held_watch_iff tick.watch_heard
  rw [Fix.lastConfirmed_watch tick.watch_heard]
  cases confirms : tick.confirmsFix with
  | true =>
      rcases Fix.hear_of_confirmed tick.now tick.before.reception.fix confirms with
        ⟨held, confirmed⟩
      rw [← tick.fix_heard] at held confirmed
      rw [held, confirmed] at looked
      rw [List.find?_cons_of_pos confirms, confirmed]
      exact (Watches.sign 2 tick.now).wait (Nat.le_refl _) looked
  | false =>
      have same : tick.reception.fix = tick.before.reception.fix := by
        rw [tick.fix_heard]
        exact tick.before.reception.fix.hear_of_unconfirmed tick.now confirms
      rw [same] at looked
      rw [List.find?_cons_of_neg (by simp [confirms]), same]
      exact watches.wait forward.reached_le looked

private theorem watchesFix (forward : Forward (tick :: earlier))
    (watches : Watches 2 (reached earlier)
      (((sinceCleared earlier).find? confirmsFix).map Tick.now)
        tick.before.reception.fix.held
      (tick.before.reception.fix.lastConfirmed + 2)) :
    Watches 2 tick.now (((sinceCleared (tick :: earlier)).find? confirmsFix).map Tick.now)
      tick.after.reception.fix.held (tick.after.reception.fix.lastConfirmed + 2) := by
  cases clears : tick.clearsFix with
  | true =>
      rw [tick.fix_after_of_clears clears, sinceCleared,
        List.takeWhile_cons_of_neg (by simp [clears])]
      exact .never _ _ _
  | false =>
      rw [tick.fix_after_of_keeps clears, sinceCleared,
        List.takeWhile_cons_of_pos (by simp [clears])]
      exact tick.watchesObservedFix forward watches

end Tick

/-! ## All polls of a run -/

/-- The latest confirmation since the fix was cleared is at most two seconds old. -/
def HasFreshFix (tick : Tick devices) (earlier : List (Tick devices)) : Prop :=
  ∃ confirming, (tick :: sinceCleared earlier).find? Tick.confirmsFix = some confirming ∧
    tick.now ≤ confirming.now + 2

/-- A confirmation that is at most two seconds old came after the end of the last
preparation, and since then the receiver has kept its power and has been sent nothing. -/
def HasFixSincePreparing (tick : Tick devices) (earlier : List (Tick devices)) : Prop :=
  ∃ since preparing older confirming, earlier = since ++ preparing :: older ∧
    preparing.step.effects = [.sendInit 3, .clearFix] ∧
    Sync.KeepsPrepared (since.map Tick.transition) ∧
    confirming ∈ tick :: since ∧ confirming.confirmsFix = true ∧
    tick.now ≤ confirming.now + 2

private theorem HasFreshFix.sincePreparing {tick : Tick devices}
    {since older : List (Tick devices)}
    {preparing : Tick devices} (fresh : HasFreshFix tick (since ++ preparing :: older))
    (ends : preparing.step.effects = [.sendInit 3, .clearFix])
    (keeps : Sync.KeepsPrepared (since.map Tick.transition)) :
    HasFixSincePreparing tick (since ++ preparing :: older) := by
  have clears : preparing.clearsFix = true := by
    rw [Tick.clearsFix_iff, ends]
    simp
  rcases fresh with ⟨confirming, found, early⟩
  rw [sinceCleared_append clears] at found
  have member := List.mem_of_find?_eq_some found
  have afterwards := List.cons_subset_cons tick (List.takeWhile_subset _) member
  exact ⟨since, preparing, older, confirming, rfl, ends, keeps, afterwards,
    List.find?_some found, early⟩

namespace Run

variable {timings : Sync.Timings} {past : List (Tick devices)} {station : Station}

private theorem watchesFix (run : Run devices timings past station)
    (forward : Forward past) :
    Watches 2 (reached past) (((sinceCleared past).find? Tick.confirmsFix).map Tick.now)
      station.reception.fix.held (station.reception.fix.lastConfirmed + 2) := by
  induction run with
  | start => exact .never _ _ _
  | poll tick run induction => exact tick.watchesFix forward (induction forward.of_cons)

private theorem exists_preparing (run : Run devices timings past station)
    (prepared : station.sync.phase.isPrepared = true) :
    ∃ since preparing older, past = since ++ preparing :: older ∧
      preparing.step.effects = [.sendInit 3, .clearFix] ∧
      Sync.KeepsPrepared (since.map Tick.transition) := by
  rcases run.sync.exists_preparing prepared with ⟨_, _, _, cut, ends, keeps⟩
  rcases List.map_eq_append_iff.mp cut with ⟨since, rest, rfl, rfl, tail⟩
  rcases List.map_eq_cons_iff.mp tail with ⟨preparing, older, rfl, rfl, rfl⟩
  exact ⟨since, preparing, older, rfl, ends, keeps⟩

/-- A poll tells its step of a fix exactly when a confirmation since the last clearing is
at most two seconds old. The first settling time begins only on such a fix, from after the
preparation. -/
theorem knowsFix (run : Run devices timings past station) (forward : Forward past) :
    ∀ tick earlier, tick :: earlier <:+ past →
      (tick.inputs.hasFix = true ↔ HasFreshFix tick earlier) ∧
        (tick.before.sync.phase ≠ .settle1 → tick.after.sync.phase = .settle1 →
          HasFixSincePreparing tick earlier) := by
  intro tick earlier suffix
  rcases (run.of_suffix suffix).of_cons with ⟨before, -⟩
  have forward : Forward (tick :: earlier) := List.Pairwise.sublist suffix.sublist forward
  have told : tick.inputs.hasFix = true ↔ HasFreshFix tick earlier := by
    have watches := tick.watchesObservedFix forward (before.watchesFix forward.of_cons)
    show tick.observed.reception.fix.held = true ↔ _
    rw [watches.flag_iff]
    simp [HasFreshFix]
  refine ⟨told, ?_⟩
  intro elsewhere settles
  rcases tick.rule.of_settle1 elsewhere settles with ⟨waits, hasFix⟩
  have prepared : tick.before.sync.phase.isPrepared = true := by
    rw [waits]
    rfl
  rcases before.exists_preparing prepared with ⟨since, preparing, older, rfl, ends, keeps⟩
  exact (told.mp hasFix).sincePreparing ends keeps

end Run

/-- The fix is cleared in a poll that has confirmed it. The next one is used while the
receiver does not vouch for it any more, and is lost soon after. -/
def briefFirstFix : List (Nat × Int × Script) :=
  [(307, 307, dated today), (305, 305, unvouched), (303, 303, unvouched),
    (302, 302, dated today),
    (301, 301, Script.initial)] ++ atIntervals (List.replicate 4 (dated today))

theorem knowsFix_of_briefFirstFix :
    ∃ (past : List (Tick Script.devices)) (station : Station),
      Run Script.devices .standard past station ∧ past.map Tick.poll = briefFirstFix ∧
        Forward past ∧
        (past.take 6).map (fun tick => (tick.inputs.hasFix, tick.after.sync.phase)) =
          [(true, .settle1), (false, .settle1), (true, .settle1),
            (true, .waitForFirstFix),
            (false, .waitForFirstFix), (true, .waitForFirstFix)] ∧
        ∀ tick earlier, tick :: earlier <:+ past →
          (tick.inputs.hasFix = true ↔ HasFreshFix tick earlier) ∧
            (tick.before.sync.phase ≠ .settle1 → tick.after.sync.phase = .settle1 →
              HasFixSincePreparing tick earlier) := by
  have reads : ((replay? Script.devices .standard briefFirstFix).map fun run =>
      (run.1.take 6).map fun played =>
        (played.transition.inputs.hasFix, played.after.sync.phase)) =
      some [(true, .settle1), (false, .settle1), (true, .settle1),
        (true, .waitForFirstFix), (false, .waitForFirstFix),
        (true, .waitForFirstFix)] := by
    decide +kernel
  rcases Option.map_eq_some_iff.mp reads with ⟨⟨replayed, final⟩, replays, told⟩
  rcases exists_run_of_replay? replays with ⟨past, station, run, polls, rfl, -⟩
  have forward : Forward past := forward_of_polls polls (by decide +kernel)
  rw [← List.map_take, List.map_map] at told
  exact ⟨past, station, run, polls, forward, told, run.knowsFix forward⟩

end Station

end ClockDiscipline
