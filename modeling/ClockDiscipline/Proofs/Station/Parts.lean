import ClockDiscipline.Proofs.Queue
import ClockDiscipline.Proofs.Station.Acting
import ClockDiscipline.Proofs.Station.Hearing
import ClockDiscipline.Proofs.Station.Poll

/-!
The parts of a poll. Each comes to what a function of the station says, whatever the
journal holds; only sentences and effects make requests.
-/

namespace ClockDiscipline.Station

open Dialogue

variable {World : Type} (devices : Devices World) (now : Nat) (station : Station)

/-! ## Reading the link -/

def receive (received : Except LinkFailure Received) : Except Overflow Station :=
  match received with
  | .error _ => .ok station
  | .ok bytes =>
      if bytes.val.isEmpty then .ok station
      else do
        let power ← station.power.hear now
        return { station with power, bytes := (station.bytes.enqueue bytes.val).2 }

theorem evaluatesTo_readLink (world : World) :
    Dialogue.EvaluatesTo (station.readLink devices now).run world
      (station.receive now (devices.read world).1) [] (devices.read world).2 := by
  have read : Dialogue.EvaluatesTo (Poll.converse (Dialogue.receive devices)).run world
      (.ok (devices.read world).1) [] (devices.read world).2 :=
    (Poll.reaches_converse_iff (regular_receive devices)).mpr
      (evaluatesTo_receive devices world)
  unfold readLink
  rw [ExceptT.run_bind]
  refine Dialogue.EvaluatesTo.bind read ?_
  generalize (devices.read world).1 = received
  generalize (devices.read world).2 = next
  revert next
  change Poll.Decides _ _
  cases received with
  | error failure => exact .after_say _ (Poll.decides_pure _)
  | ok bytes =>
      by_cases silent : bytes.val.isEmpty
      · simp only [silent, receive, if_true]
        exact Poll.decides_pure _
      · simp only [silent, receive, Bool.false_eq_true, if_false]
        refine .after_say _ ((Poll.decides_lift _).bind fun power => ?_)
        cases kept : station.bytes.enqueue bytes.val with
        | mk outcome queue =>
            cases outcome with
            | ok => exact Poll.decides_pure _
            | error full => exact .after_say _ (Poll.decides_pure _)

theorem regular_readLink : (station.readLink devices now).Regular :=
  fun world => ⟨_, _, _, evaluatesTo_readLink devices now station world⟩

private theorem reaches_readLink_iff {world next : World} {listening : Station}
    {calls : List Call} :
    (station.readLink devices now).Reaches world listening calls next ↔
      station.receive now (devices.read world).1 = .ok listening ∧ calls = [] ∧
        next = (devices.read world).2 := by
  rw [Poll.Reaches, (evaluatesTo_readLink devices now station world).iff, eq_comm]

/-! ## Sentences -/

def assembled : Station :=
  let (bytes, assembly) := station.framer.drain station.bytes station.sentences
  { station with bytes, framer := assembly.framer, sentences := assembly.sentences }

theorem evaluatesTo_assemble (world : World) :
    station.assemble.EvaluatesTo world station.assembled [] world :=
  (evaluatesTo_say _ world).bind (evaluatesTo_pure _ world)

theorem regular_assemble : (station.assemble : Dialogue World Station).Regular :=
  fun world => ⟨_, _, _, evaluatesTo_assemble station world⟩

def afterHearing (reception : Reception) : Station :=
  { station with
    sentences := (station.sentences.dequeue station.sentences.count).2
    reception }

theorem hearSentences_eq : station.hearSentences devices now = do
    let reception ← station.sentences.toList.foldlM
      (hearSentence devices now) station.reception
    return station.afterHearing reception := by
  rw [← Ring.items_dequeue_count]
  rfl

theorem regular_hearSentences : (station.hearSentences devices now).Regular := by
  rw [hearSentences_eq]
  exact (Dialogue.Regular.foldlM (Reception.regular_hearSentence devices now) _).bind
    fun _ => regular_pure _

private theorem evaluatesTo_hearSentences_iff {world next : World} {heard : Station}
    {calls : List Call} :
    (station.hearSentences devices now).EvaluatesTo world heard calls next ↔
      ∃ reception, heard = station.afterHearing reception ∧
        (station.sentences.toList.foldlM (hearSentence devices now)
          station.reception).EvaluatesTo world reception calls next := by
  rw [hearSentences_eq]
  constructor
  · intro evaluates
    rcases evaluates.of_bind
      (Dialogue.Regular.foldlM (Reception.regular_hearSentence devices now) _)
      (fun _ => regular_pure _) with ⟨reception, early, middle, late, hears, returns, rfl⟩
    rcases returns.unique (evaluatesTo_pure _ _) with ⟨rfl, rfl, rfl⟩
    rw [List.append_nil]
    exact ⟨reception, rfl, hears⟩
  · rintro ⟨reception, rfl, hears⟩
    rw [← List.append_nil calls]
    exact hears.bind (evaluatesTo_pure _ next)

/-! ## Fix, power and window -/

/-- The station that has looked after the fix, the power and an open window. -/
def watched : Except Overflow Station := do
  let fix ← station.reception.fix.watch now
  return { station with
    reception := { station.reception with fix }
    power := station.power.watch now
    drift := station.drift.observe fix.held }

theorem decides_watch :
    (station.watch now : Poll World Station).Decides (station.watched now) :=
  (Poll.decides_lift _).bind fun _ => .after_say _ (.after_say _ (Poll.decides_pure _))

/-! ## A step of synchronisation -/

/-- The station after a step, and the effects of the step. -/
def advanced (wallTime : Int) : Except Overflow (List Sync.Effect × Station) :=
  match Sync.step station.sync (station.inputs now wallTime) with
  | .ok step => .ok (step.effects, { station.handOn with sync := step.state })
  | .error halted => .error halted.overflow

private theorem advanced_eq_ok_iff {wallTime : Int} {effects : List Sync.Effect}
    {acting : Station} :
    station.advanced now wallTime = .ok (effects, acting) ↔
      ∃ step, Sync.step station.sync (station.inputs now wallTime) = .ok step ∧
        effects = step.effects ∧ acting = { station.handOn with sync := step.state } := by
  unfold advanced
  cases Sync.step station.sync (station.inputs now wallTime) with
  | ok step => simp [eq_comm]
  | error halted => simp

theorem decides_advance (wallTime : Int) :
    (station.advance now wallTime : Poll World _).Decides
      (station.advanced now wallTime) := by
  unfold advance advanced
  cases Sync.step station.sync (station.inputs now wallTime) with
  | ok step => exact .after_say _ (Poll.decides_pure _)
  | error halted => exact .after_say _ (Poll.decides_throw _)

/-! ## The two halves of a poll -/

/-- Read the link and hear all sentences that come of it. -/
def hearLink : Poll World Station := do
  let listening ← station.readLink devices now
  let assembled ← Poll.converse listening.assemble
  Poll.converse (assembled.hearSentences devices now)

/-- Take a step of synchronisation and carry out its effects. -/
def conclude (wallTime : Int) : Poll World Station := do
  let observed ← station.watch now
  let (effects, acting) ← observed.advance now wallTime
  Poll.converse (effects.foldlM (carryOut devices) acting)

theorem poll_eq (wallTime : Int) : station.poll devices now wallTime =
    station.hearLink devices now >>= fun heard =>
      heard.conclude devices now wallTime := by
  simp only [poll, hearLink, conclude, bind_assoc]

theorem regular_hearAssembled :
    (Poll.converse station.assemble >>= fun assembled =>
      Poll.converse (assembled.hearSentences devices now)).Regular :=
  (Poll.regular_converse (regular_assemble station)).bind fun assembled =>
    Poll.regular_converse (regular_hearSentences devices now assembled)

theorem regular_hearLink : (station.hearLink devices now).Regular :=
  (regular_readLink devices now station).bind (regular_hearAssembled devices now)

theorem regular_advanceAndAct (wallTime : Int) :
    (station.advance now wallTime >>= fun (effects, acting) =>
      Poll.converse (effects.foldlM (carryOut devices) acting)).Regular :=
  (decides_advance now station wallTime).regular.bind fun (effects, acting) =>
    Poll.regular_converse (regular_act devices acting effects)

theorem regular_conclude (wallTime : Int) :
    (station.conclude devices now wallTime).Regular :=
  (decides_watch now station).regular.bind fun observed =>
    regular_advanceAndAct devices now observed wallTime

theorem reaches_hearLink_iff {world next : World} {heard : Station} {calls : List Call} :
    (station.hearLink devices now).Reaches world heard calls next ↔
      ∃ listening reception, station.receive now (devices.read world).1 = .ok listening ∧
        heard = listening.assembled.afterHearing reception ∧
        (listening.assembled.sentences.toList.foldlM (hearSentence devices now)
          listening.assembled.reception).EvaluatesTo
            (devices.read world).2 reception calls
          next := by
  constructor
  · intro reaches
    rcases reaches.of_bind (regular_readLink devices now station)
      (regular_hearAssembled devices now) with
      ⟨listening, _, _, _, reads, afterReading, rfl⟩
    rcases (reaches_readLink_iff devices now station).mp reads with ⟨read, rfl, rfl⟩
    rcases afterReading.of_bind (Poll.regular_converse (regular_assemble listening))
      (fun _ => Poll.regular_converse (regular_hearSentences devices now _)) with
      ⟨assembled, _, _, _, assembles, hears, rfl⟩
    rcases ((Poll.reaches_converse_iff (regular_assemble listening)).mp assembles).unique
      (evaluatesTo_assemble listening _) with ⟨rfl, rfl, rfl⟩
    rcases (evaluatesTo_hearSentences_iff devices now _).mp
      ((Poll.reaches_converse_iff (regular_hearSentences devices now _)).mp hears) with
      ⟨reception, rfl, heard⟩
    exact ⟨listening, reception, read, rfl, heard⟩
  · rintro ⟨listening, reception, read, rfl, heard⟩
    have hears := (evaluatesTo_hearSentences_iff devices now listening.assembled).mpr
      ⟨reception, rfl, heard⟩
    refine ((reaches_readLink_iff devices now station).mpr ⟨read, rfl, rfl⟩).bind ?_
    refine ((Poll.reaches_converse_iff (regular_assemble _)).mpr
      (evaluatesTo_assemble listening _)).bind ?_
    exact (Poll.reaches_converse_iff (regular_hearSentences devices now _)).mpr hears

theorem reaches_conclude_iff {wallTime : Int} {world next : World} {after : Station}
    {calls : List Call} :
    (station.conclude devices now wallTime).Reaches world after calls next ↔
      ∃ observed step, station.watched now = .ok observed ∧
        Sync.step observed.sync (observed.inputs now wallTime) = .ok step ∧
        let acting := { observed.handOn with sync := step.state }
        let requests := step.effects.flatMap acting.requests
        after = act devices step.effects acting world ∧
          calls = devices.calls requests world ∧ next = devices.after requests world := by
  constructor
  · intro reaches
    rcases reaches.of_bind (decides_watch now station).regular
      (fun observed => regular_advanceAndAct devices now observed wallTime) with
      ⟨observed, _, _, _, watches, afterWatching, rfl⟩
    rcases (decides_watch now station).reaches_iff.mp watches with ⟨watched, rfl, rfl⟩
    rcases afterWatching.of_bind (decides_advance now observed wallTime).regular
      (fun _ => Poll.regular_converse (regular_act devices _ _)) with
      ⟨⟨effects, acting⟩, _, _, _, advances, acts, rfl⟩
    rcases (decides_advance now observed wallTime).reaches_iff.mp advances with
      ⟨advanced, rfl, rfl⟩
    rcases (advanced_eq_ok_iff now observed).mp advanced with ⟨step, stepped, rfl, rfl⟩
    rcases ((Poll.reaches_converse_iff (regular_act devices _ _)).mp acts).unique
      (makes_act devices _ _ _) with ⟨rfl, rfl, rfl⟩
    exact ⟨observed, step, watched, stepped, rfl, rfl, rfl⟩
  · rintro ⟨observed, step, watched, stepped, rfl, rfl, rfl⟩
    refine ((decides_watch now station).reaches_iff.mpr ⟨watched, rfl, rfl⟩).bind ?_
    refine ((decides_advance now observed wallTime).reaches_iff.mpr
      ⟨(advanced_eq_ok_iff now observed).mpr ⟨step, stepped, rfl, rfl⟩, rfl, rfl⟩).bind ?_
    exact (Poll.reaches_converse_iff (regular_act devices _ _)).mpr
      (makes_act devices _ _ _)

end ClockDiscipline.Station
