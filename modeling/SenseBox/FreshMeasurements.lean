import SenseBox.Device.Freshness
import SenseBox.FinalElavatorSD.Model
import SenseBox.SenseboxCodeElevator.Model
import SenseBox.TruthfulRows

namespace SenseBox

open SenseBox.Data
open SenseBox.Device

/-! Which of the temperatures and pressures in the rows of the one elevator and
in the posts of the other are fresh. -/

namespace FinalElavatorSD

def rowEvents (s : State) : List Event :=
  [.reported .pressure s.pressure, .reported .temperature s.temperature]

def passReading (fmt : Rounding) (pass : Pass) (s : State) : Reading :=
  BMP280.reading fmt pass.data s.temperature s.pressure s.bmp

def measureEvents (fmt : Rounding) (pass : Pass) (s : State) : List Event :=
  if pass.started then [.started true, .measured (passReading fmt pass s)]
  else [.started false]

/-- A pass measures once its upload, if there is one, has come to an end. -/
def events (fmt : Rounding) (pass : Pass) (s : State) : List Event :=
  (if due pass s then rowEvents s else []) ++
    if (loop fmt pass s).isSome then measureEvents fmt pass s else []

def trace (fmt : Rounding) : List Pass → State → List Event :=
  emitted (loop fmt) (events fmt)

/-- Whether the last measurement read since the last row was accepted. -/
def renew (fmt : Rounding) (pass : Pass) (s : State) (renewed : Bool) : Bool :=
  if pass.started && pass.data.isSome then (passReading fmt pass s).accepted
  else renewed && !due pass s

def RowsRenewed (fmt : Rounding) : List Pass → State → Bool → Prop
  | [], _, _ => True
  | pass :: rest, s, renewed =>
      (due pass s = true → renewed = true) ∧
        ∀ next, loop fmt pass s = some next →
          RowsRenewed fmt rest next (renew fmt pass s renewed)

def value (s : State) : Quantity → Flt
  | .temperature => s.temperature
  | .pressure => s.pressure

theorem loop_values {fmt : Rounding} {pass : Pass} {s next : State}
    (hloop : loop fmt pass s = some next) :
    let measured := BMP280.getTemperatureAndPressure fmt pass.data
      s.temperature s.pressure s.bmp
    next.temperature = (if pass.started then measured.t else s.temperature) ∧
      next.pressure = if pass.started then measured.p else s.pressure := by
  obtain ⟨volume, hmeasure⟩ := loop_measures hloop
  rw [measure_eq] at hmeasure
  cases hmeasure
  exact ⟨rfl, rfl⟩

/-- Whether the values are fresh, as far as `renewed` tells. -/
structure Tracks (earlier : List Event) (s : State) (renewed : Bool) : Prop where
  fresh : renewed = true → ∀ quantity, Fresh quantity (value s quantity) earlier
  stale : renewed = false → ∀ other, ¬ Fresh .temperature other earlier

variable {fmt : Rounding} {earlier : List Event} {pass : Pass} {s next : State}
  {renewed : Bool}

theorem tracks_begun (distMax : Int16) (bmp : BMP280) (card : SD.Volume) :
    Tracks [] (begun distMax bmp card) false where
  fresh := by simp
  stale _ _ := not_fresh_nil

theorem tracks_rows (htracks : Tracks earlier s renewed) :
    Tracks (earlier ++ if due pass s then rowEvents s else []) s
      (renewed && !due pass s) := by
  cases hdue : due pass s with
  | false => simpa using htracks
  | true =>
      refine ⟨by simp, ?_⟩
      intro _ other
      have hsplit : earlier ++ (if true then rowEvents s else []) =
          earlier ++ [.reported .pressure s.pressure] ++
            [.reported .temperature s.temperature] := by
        simp [rowEvents]
      rw [hsplit, fresh_reported]
      simp

theorem value_congr (htemperature : next.temperature = s.temperature)
    (hpressure : next.pressure = s.pressure) : value next = value s := by
  funext quantity
  cases quantity with
  | temperature => exact htemperature
  | pressure => exact hpressure

theorem Tracks.kept {later : List Event} (htracks : Tracks earlier s renewed)
    (hkept : ∀ quantity value,
      Fresh quantity value (earlier ++ later) ↔ Fresh quantity value earlier)
    (hsame : value next = value s) : Tracks (earlier ++ later) next renewed where
  fresh hrenewed quantity := by
    rw [hkept, hsame]
    exact htracks.fresh hrenewed quantity
  stale hstale other := by
    rw [hkept]
    exact htracks.stale hstale other

theorem tracks_read {reading : Reading}
    (hstored : reading.accepted = true →
      ∀ quantity, reading.stored quantity = some (value next quantity))
    (hread : reading.stored .temperature ≠ none) :
    Tracks (earlier ++ [.started true, .measured reading]) next
      reading.accepted where
  fresh haccepted quantity :=
    fresh_measured haccepted (hstored haccepted quantity)
  stale hrejected other hfresh := by
    rw [List.append_cons, fresh_rejected hrejected] at hfresh
    exact hread hfresh.1

theorem tracks_measure {finish : State} (htracks : Tracks earlier s renewed)
    (hloop : loop fmt pass s = some finish) :
    Tracks (earlier ++ measureEvents fmt pass s) finish
      (if pass.started && pass.data.isSome then
        (passReading fmt pass s).accepted else renewed) := by
  obtain ⟨htemperature, hpressure⟩ := loop_values hloop
  cases hstarted : pass.started with
  | false =>
      rw [hstarted] at htemperature hpressure
      rw [measureEvents, hstarted]
      exact htracks.kept (fun _ _ => fresh_started false)
        (value_congr htemperature hpressure)
  | true =>
      rw [hstarted, if_pos rfl] at htemperature hpressure
      rw [measureEvents, hstarted, if_pos rfl]
      cases hdata : pass.data.isSome with
      | false =>
          have hunread : pass.data = none :=
            Option.isNone_iff_eq_none.mp (Option.isSome_eq_false_iff.mp hdata)
          obtain ⟨hrejected, hnone, ht, hp⟩ :
              (passReading fmt pass s).accepted = false ∧
                (∀ quantity, (passReading fmt pass s).stored quantity = none) ∧
                _ ∧ _ :=
            BMP280.reading_unread hunread
          refine htracks.kept ?_
            (value_congr (htemperature.trans ht) (hpressure.trans hp))
          intro quantity value
          rw [List.append_cons, fresh_rejected hrejected, fresh_started]
          exact and_iff_right (hnone quantity)
      | true =>
          apply tracks_read
          · intro haccepted quantity
            obtain ⟨ht, hp⟩ := BMP280.stored_of_accepted haccepted
            cases quantity with
            | temperature =>
                rw [value, htemperature]
                exact ht
            | pressure =>
                rw [value, hpressure]
                exact hp
          · rw [passReading, BMP280.stored_of_read hdata]
            exact Option.some_ne_none _

theorem tracks_loop (htracks : Tracks earlier s renewed)
    (hloop : loop fmt pass s = some next) :
    Tracks (earlier ++ events fmt pass s) next (renew fmt pass s renewed) := by
  rw [events, hloop, Option.isSome_some, if_pos rfl, ← List.append_assoc]
  exact tracks_measure (tracks_rows htracks) hloop

theorem unreported_measureEvents (quantity : Quantity) :
    Unreported quantity (measureEvents fmt pass s) := by
  rw [measureEvents]
  split <;> simp [Unreported, Event.reports]

theorem freshFrom_events (htracks : Tracks earlier s renewed) :
    FreshFrom earlier (events fmt pass s) ↔ (due pass s = true → renewed = true) := by
  have hmeasure : FreshFrom (earlier ++ if due pass s then rowEvents s else [])
      (if (loop fmt pass s).isSome then measureEvents fmt pass s else []) := by
    apply freshFrom_unreported
    intro quantity
    split
    · exact unreported_measureEvents quantity
    · simp [Unreported]
  rw [events, freshFrom_append, and_iff_left hmeasure]
  cases hdue : due pass s with
  | false =>
      simpa using freshFrom_unreported (by simp [Unreported])
  | true =>
      have hrows : FreshFrom earlier (rowEvents s) ↔
          Fresh .pressure s.pressure earlier ∧
            Fresh .temperature s.temperature earlier := by
        rw [rowEvents, ← List.singleton_append, freshFrom_append,
          freshFrom_reported, freshFrom_reported, fresh_reported]
        simp
      rw [if_pos rfl, hrows]
      cases hrenewed : renewed with
      | true =>
          have hfresh := htracks.fresh hrenewed
          simpa using ⟨hfresh .pressure, hfresh .temperature⟩
      | false =>
          have hstale := htracks.stale hrenewed s.temperature
          simp [hstale]

theorem freshFrom_trace {passes : List Pass} (htracks : Tracks earlier s renewed) :
    FreshFrom earlier (trace fmt passes s) ↔ RowsRenewed fmt passes s renewed := by
  induction passes generalizing earlier s renewed with
  | nil =>
      have hnone : FreshFrom earlier [] :=
        freshFrom_unreported (by simp [Unreported])
      simpa [trace, RowsRenewed] using hnone
  | cons pass rest ih =>
      rw [trace, emitted, freshFrom_append, freshFrom_events htracks, RowsRenewed]
      refine and_congr_right fun _ => ?_
      cases hloop : loop fmt pass s with
      | none =>
          have hnone : FreshFrom (earlier ++ events fmt pass s) [] :=
            freshFrom_unreported (by simp [Unreported])
          simpa using hnone
      | some next =>
          have hrest := ih (tracks_loop htracks hloop)
          simpa [trace] using hrest

end FinalElavatorSD

namespace SenseboxCodeElevator

def postEvent (post : Post) : List Event :=
  match post.sensorId with
  | .temperature => [.reported .temperature post.measurement]
  | .presence => []
  | .pressure => [.reported .pressure post.measurement]

def passReading (fmt : Rounding) (pass : Pass) (s : State) : Reading :=
  let s := counting fmt pass.pulses s
  BMP280.reading fmt pass.data s.temp s.pressure s.bmp

/-- No pass calls `startMeasurment`. -/
def events (fmt : Rounding) (pass : Pass) (s : State) : List Event :=
  .measured (passReading fmt pass s) :: (posts fmt pass s).flatMap postEvent

def trace (fmt : Rounding) : List Pass → State → List Event :=
  emitted (loop fmt) (events fmt)

def Offline (pass : Pass) : Prop :=
  pass.connected .temperature = false ∧ pass.connected .pressure = false

theorem started_not_mem_trace (fmt : Rounding) (passes : List Pass) (s : State)
    (written : Bool) : .started written ∉ trace fmt passes s := by
  induction passes generalizing s with
  | nil => simp [trace]
  | cons pass rest ih =>
      have hposts : ∀ post : Post, .started written ∉ postEvent post := by
        intro post
        rw [postEvent]
        split <;> simp
      rw [trace, emitted_cons _ (show loop fmt pass s = some _ from rfl),
        List.mem_append, not_or]
      refine ⟨?_, ih _⟩
      simp [events, hposts]

theorem unreported_post (connected : SensorId → Bool) (measurement : Flt)
    (sensorId : SensorId) :
    (∀ quantity, Unreported quantity
      ((postFloatValue connected measurement sensorId).flatMap postEvent)) ↔
      (sensorId = .presence ∨ connected sensorId = false) := by
  cases hconnected : connected sensorId with
  | false => simp [postFloatValue, hconnected, Unreported]
  | true =>
      cases sensorId <;>
        simp [postFloatValue, hconnected, postEvent, Unreported, Event.reports]

theorem unreported_events (fmt : Rounding) (pass : Pass) (s : State) :
    (∀ quantity, Unreported quantity (events fmt pass s)) ↔ Offline pass := by
  have hmeasured (reading : Reading) :
      ∀ quantity, Unreported quantity [.measured reading] := by
    simp [Unreported, Event.reports]
  rw [events, ← List.singleton_append, unreported_append,
    and_iff_right (hmeasured _), posts, List.flatMap_append, List.flatMap_append,
    unreported_append, unreported_append, unreported_post, unreported_post,
    unreported_post, Offline]
  simp

theorem unreported_trace (fmt : Rounding) (passes : List Pass) (s : State) :
    (∀ quantity, Unreported quantity (trace fmt passes s)) ↔
      ∀ pass ∈ passes, Offline pass := by
  induction passes generalizing s with
  | nil => simp [trace, Unreported]
  | cons pass rest ih =>
      rw [trace, emitted_cons _ (show loop fmt pass s = some _ from rfl),
        unreported_append, unreported_events, ← trace, ih, List.forall_mem_cons]

end SenseboxCodeElevator

/-- The rows of the logging elevator are fresh exactly when before each of them
the last measurement that was read since the row before was accepted, and those
of the uploading one when nothing is posted. -/
theorem reports_fresh_iff (fmt : Rounding) :
    (∀ (distMax : Int16) (bmp : BMP280) (card : SD.Volume)
      (passes : List FinalElavatorSD.Pass),
      FreshTrace (FinalElavatorSD.trace fmt passes
          (FinalElavatorSD.begun distMax bmp card)) ↔
        FinalElavatorSD.RowsRenewed fmt passes
          (FinalElavatorSD.begun distMax bmp card) false) ∧
    (∀ (words : Nat → Option UInt16) (wall : Pulse)
      (passes : List SenseboxCodeElevator.Pass),
      FreshTrace (SenseboxCodeElevator.trace fmt passes
          (SenseboxCodeElevator.begun fmt words wall)) ↔
        ∀ pass ∈ passes, SenseboxCodeElevator.Offline pass) := by
  constructor
  · intro distMax bmp card passes
    exact FinalElavatorSD.freshFrom_trace
      (FinalElavatorSD.tracks_begun distMax bmp card)
  · intro words wall passes
    rw [freshTrace_unstarted_iff
      (SenseboxCodeElevator.started_not_mem_trace fmt passes _)]
    exact SenseboxCodeElevator.unreported_trace fmt passes _

def SenseboxCodeElevator.onlinePass : SenseboxCodeElevator.Pass where
  pulses := fun _ => none
  data := none
  connected := fun _ => true

/-- A first row before any measurement reports zeros, and so does a first post
when the sensor does not answer. -/
theorem zeros_reported :
    (¬ ∀ (fmt : Rounding) (distMax : Int16) (bmp : BMP280) (card : SD.Volume)
      (passes : List FinalElavatorSD.Pass),
      FreshTrace (FinalElavatorSD.trace fmt passes
        (FinalElavatorSD.begun distMax bmp card))) ∧
    (¬ ∀ (fmt : Rounding) (words : Nat → Option UInt16) (wall : Pulse)
      (passes : List SenseboxCodeElevator.Pass),
      FreshTrace (SenseboxCodeElevator.trace fmt passes
        (SenseboxCodeElevator.begun fmt words wall))) := by
  constructor
  · intro hall
    have hrenewed := (FinalElavatorSD.freshFrom_trace
      (FinalElavatorSD.tracks_begun 280 .initial SD.emptyCard)).mp
      (hall .exact 280 .initial SD.emptyCard [FinalElavatorSD.uploadPass])
    have hdue : FinalElavatorSD.due FinalElavatorSD.uploadPass
        (FinalElavatorSD.begun 280 .initial SD.emptyCard) = true :=
      show decide (Counter.millis 60001 - 0 > FinalElavatorSD.updateTime) = true by
        decide
    exact absurd (hrenewed.1 hdue) (by decide)
  · intro hall
    have hfresh := hall .exact (fun _ => some 27504) none
      [SenseboxCodeElevator.onlinePass]
    rw [freshTrace_unstarted_iff
      (SenseboxCodeElevator.started_not_mem_trace .exact _ _),
      SenseboxCodeElevator.unreported_trace] at hfresh
    have hoffline := hfresh SenseboxCodeElevator.onlinePass (List.mem_singleton.mpr rfl)
    cases hoffline.1

end SenseBox
