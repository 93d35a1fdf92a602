import ClockDiscipline.Proofs.Station.Queues

/-!
When a poll comes to an end. It adds to the present instant, to the instant of the fix and
in the step of synchronisation, and if these sums have room nothing else can stop it.
-/

namespace ClockDiscipline

/-! ## The instant of the fix -/

private theorem Nmea.Sentence.lastConfirmed_fixAfter (sentence : Nmea.Sentence)
    (now : Nat) (fix : Fix) :
    (sentence.fixAfter now fix).lastConfirmed = fix.lastConfirmed ∨
      (sentence.fixAfter now fix).lastConfirmed = now := by
  unfold Nmea.Sentence.fixAfter
  dsimp only
  split
  · exact .inr rfl
  · exact .inl rfl

private theorem Fix.lastConfirmed_hear (now : Nat) (sentences : List Nmea.Sentence) :
    ∀ fix : Fix,
    (fix.hear now sentences).lastConfirmed = fix.lastConfirmed ∨
      (fix.hear now sentences).lastConfirmed = now := by
  induction sentences with
  | nil => exact fun _ => .inl rfl
  | cons sentence rest induction =>
      intro fix
      rcases induction (sentence.fixAfter now fix) with kept | confirmed
      · exact (sentence.lastConfirmed_fixAfter now fix).imp kept.trans kept.trans
      · exact .inr confirmed

theorem Fix.watch_eq_ok {fix kept : Fix} {now : Nat}
    (watched : fix.watch now = .ok kept) : kept = fix ∨ kept = fix.lose := by
  unfold Fix.watch at watched
  split at watched
  · cases limit : addUnsigned fix.lastConfirmed fixTimeout with
    | error overflow => simp [limit, bind, Except.bind] at watched
    | ok limit' =>
        simp only [limit, bind, Except.bind, pure, Except.pure,
          Except.ok.injEq] at watched
        split at watched
        · exact .inr watched.symm
        · exact .inl watched.symm
  · cases watched
    exact .inl rfl

theorem Fix.watch_lastConfirmed {fix kept : Fix}
    (watched : fix.watch fix.lastConfirmed = .ok kept) : kept = fix := by
  unfold Fix.watch at watched
  split at watched
  · cases limit : addUnsigned fix.lastConfirmed fixTimeout with
    | error overflow => simp [limit, bind, Except.bind] at watched
    | ok limit' =>
        have later : ¬limit' < fix.lastConfirmed := by
          have sum := (addUnsigned_eq_ok_iff.mp limit).2
          omega
        simp only [limit, bind, Except.bind, pure, Except.pure, later, if_false,
          Except.ok.injEq] at watched
        exact watched.symm
  · cases watched
    rfl

private theorem Fix.exists_watch {fix : Fix} (now : Nat)
    (fits : fix.lastConfirmed + fixTimeout < unsignedLimit) :
    ∃ kept, fix.watch now = .ok kept := by
  unfold Fix.watch
  rw [addUnsigned_eq_ok_iff.mpr ⟨fits, rfl⟩]
  split
  · exact ⟨_, rfl⟩
  · exact ⟨_, rfl⟩

namespace Station

variable {World : Type} {devices : Devices World}

/-! ## Ticks that exist -/

private theorem exists_listen {now : Nat} (power : ReceiverPower) (bytes : List UInt8)
    (fits : now + powerTimeout < unsignedLimit) :
    ∃ listened, listen now power bytes = .ok listened := by
  unfold listen ReceiverPower.hear
  rw [addUnsigned_eq_ok_iff.mpr ⟨fits, rfl⟩]
  split
  · exact ⟨_, rfl⟩
  · exact ⟨_, rfl⟩

/-- A poll whose sums have room comes to an end. -/
theorem exists_tick {station : Station} {now : Nat} (wallTime : Int) (world : World)
    (hears : now + powerTimeout < unsignedLimit)
    (confirmed : station.reception.fix.lastConfirmed + fixTimeout < unsignedLimit)
    (steps : ∀ inputs : Sync.Inputs, inputs.now = now →
      inputs.driftResult = station.driftResult →
        (station.sync.advance inputs).state.deadline < unsignedLimit) :
    ∃ tick : Tick devices,
      tick.now = now ∧ tick.wallTime = wallTime ∧ tick.before = station ∧
      tick.world = world := by
  rcases exists_listen station.power (bytesOf (devices.read world).1) hears with
    ⟨power, listens⟩
  have read := receive_eq now station (devices.read world).1
  rw [listens, Except.map] at read
  generalize listening_eq : ({ station with
    power, bytes :=
      (station.bytes.enqueue (bytesOf (devices.read world).1)).2 } : Station) =
      listening at read
  rcases (Dialogue.Regular.foldlM (Reception.regular_hearSentence devices now) _)
    (devices.read world).2 with ⟨reception, hearing, middle, heard⟩
  have kept : listening.assembled.reception = station.reception := by
    rw [← listening_eq]
    rfl
  have recent : reception.fix.lastConfirmed + fixTimeout < unsignedLimit := by
    have instant := station.reception.fix.lastConfirmed_hear now
      listening.assembled.sentences.toList
    rw [← kept, ← Reception.fix_of_evaluatesTo devices now heard, kept] at instant
    have sooner : fixTimeout < powerTimeout := by decide
    omega
  rcases Fix.exists_watch now recent with ⟨fix, watches⟩
  let observed : Station := { listening.assembled.afterHearing reception with
    reception := { reception with fix }
    power := listening.power.watch now
    drift := listening.drift.observe fix.held }
  have watched : (listening.assembled.afterHearing reception).watched now =
      .ok observed := by
    unfold watched afterHearing
    simp only [watches]
    rfl
  have synchronised : observed.sync = station.sync := by
    show listening.sync = station.sync
    rw [← listening_eq]
  have pending : observed.driftResult = station.driftResult := by
    show listening.driftResult = station.driftResult
    rw [← listening_eq]
  rcases Sync.exists_step (steps (observed.inputs now wallTime) rfl pending) with
    ⟨step, stepped⟩
  rw [← synchronised] at stepped
  exact ⟨⟨now, wallTime, world, station, listening, reception, hearing, middle,
    observed, step, read, heard, watched, stepped⟩, rfl, rfl, rfl, rfl⟩

/-! ## How far instants reach -/

namespace Tick

variable (tick : Tick devices)

theorem fix_heard :
    tick.reception.fix = tick.before.reception.fix.hear tick.now tick.sentences := by
  rcases tick.listening_eq with ⟨power, bytes, listening⟩
  have same : tick.listening.assembled.reception = tick.before.reception := by
    rw [listening]
    rfl
  rw [Reception.fix_of_evaluatesTo devices tick.now tick.heard, same]
  rfl

theorem watch_heard :
    tick.reception.fix.watch tick.now = .ok tick.observed.reception.fix := by
  have watched := tick.watched
  unfold Station.watched at watched
  cases kept : (tick.listening.assembled.afterHearing tick.reception).reception.fix.watch
      tick.now with
  | error overflow => simp [kept, bind, Except.bind] at watched
  | ok fix =>
      simp only [kept, bind, Except.bind] at watched
      have observed := Except.ok.inj watched
      rw [← observed]
      exact kept

theorem fix_observed : tick.observed.reception.fix = tick.reception.fix ∨
    tick.observed.reception.fix = tick.reception.fix.lose :=
  Fix.watch_eq_ok tick.watch_heard

end Tick

private theorem lastConfirmed_carriedOut (station : Station)
    (window : Option Pulse.Window)
    (effect : Sync.Effect) :
    (station.carriedOut window effect).reception.fix.lastConfirmed =
      station.reception.fix.lastConfirmed := by
  cases effect <;> rfl

private theorem lastConfirmed_act (effects : List Sync.Effect) :
    ∀ (station : Station) (world : World),
    (act devices effects station world).reception.fix.lastConfirmed =
      station.reception.fix.lastConfirmed := by
  apply part_act devices fun station => station.reception.fix.lastConfirmed
  intro effect _ station window
  exact lastConfirmed_carriedOut station window effect

private theorem Tick.lastConfirmed_after (tick : Tick devices) :
    tick.after.reception.fix.lastConfirmed = tick.before.reception.fix.lastConfirmed ∨
      tick.after.reception.fix.lastConfirmed = tick.now := by
  have acted : tick.after.reception.fix.lastConfirmed =
      tick.observed.reception.fix.lastConfirmed := lastConfirmed_act _ _ _
  have observed : tick.observed.reception.fix.lastConfirmed =
      tick.reception.fix.lastConfirmed := by
    rcases tick.fix_observed with kept | lost
    · rw [kept]
    · rw [lost]
      rfl
  rw [acted, observed, tick.fix_heard]
  exact tick.before.reception.fix.lastConfirmed_hear tick.now tick.sentences

namespace Run

variable {timings : Sync.Timings} {past : List (Tick devices)} {station : Station}
  {latest : Nat}

theorem lastConfirmed_le (run : Run devices timings past station)
    (early : ∀ tick ∈ past, tick.now ≤ latest) :
    station.reception.fix.lastConfirmed ≤ latest := by
  induction run with
  | start => exact Nat.zero_le _
  | poll tick run induction =>
      rcases List.forall_mem_cons.mp early with ⟨now, early⟩
      rcases tick.lastConfirmed_after with kept | confirmed
      · rw [kept]
        exact induction early
      · rw [confirmed]
        exact now

private theorem deadline_le {longest : Nat} (run : Run devices timings past station)
    (early : ∀ tick ∈ past, tick.now ≤ latest)
    (bounded : ∀ delay ∈ timings.delays, delay ≤ longest) :
    station.sync.deadline ≤ latest + longest := by
  induction run with
  | start => exact Nat.zero_le _
  | poll tick run induction =>
      rcases List.forall_mem_cons.mp early with ⟨now, early⟩
      have timed := run.sync.timings_eq
      rcases tick.rule.deadline with kept | ⟨delay, listed, ahead⟩
      · rw [kept]
        exact induction early
      · rw [ahead]
        rw [timed] at listed
        exact Nat.add_le_add now (bounded delay listed)

/-- As long as the sum of an instant and of a delay has room, so has every sum of a
run. -/
theorem exists_tick {longest : Nat} (run : Run devices timings past station)
    (early : ∀ tick ∈ past, tick.now ≤ latest)
    (bounded : ∀ delay ∈ timings.delays, delay ≤ longest)
    (room : latest + longest < unsignedLimit)
    (watchRoom : latest + powerTimeout < unsignedLimit)
    {now : Nat} (present : now ≤ latest) (wallTime : Int) (world : World) :
    ∃ tick : Tick devices,
      tick.now = now ∧ tick.wallTime = wallTime ∧ tick.before = station ∧
      tick.world = world := by
  have confirmed := run.lastConfirmed_le early
  have sooner : fixTimeout < powerTimeout := by decide
  refine Station.exists_tick wallTime world (by omega) (by omega) fun inputs told _ => ?_
  rcases (station.sync.rule_advance inputs).deadline with kept | ⟨delay, listed, ahead⟩
  · have deadline := run.deadline_le early bounded
    omega
  · rw [run.sync.timings_eq] at listed
    have short := bounded delay listed
    omega

end Run

end Station

end ClockDiscipline
