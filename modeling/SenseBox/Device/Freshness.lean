import SenseBox.Device.BMP280

namespace SenseBox.Device

open SenseBox.Data

/-! Reported measurements: when a value in a report comes from a measurement
that was begun, read and accepted since the last report of its kind. -/

inductive Quantity where
  | temperature
  | pressure
  deriving DecidableEq

/-- What one call of `getTemperatureAndPressure` did to its two arguments. -/
structure Reading where
  accepted : Bool
  stored : Quantity → Option Flt

inductive Event where
  | started (written : Bool)
  | measured (reading : Reading)
  | reported (quantity : Quantity) (value : Flt)

namespace Event

def stored (quantity : Quantity) : Event → Option Flt
  | .measured reading => reading.stored quantity
  | _ => none

def reports (quantity : Quantity) : Event → Bool
  | .reported other _ => other = quantity
  | _ => false

end Event

def Unreported (quantity : Quantity) (events : List Event) : Prop :=
  ∀ event ∈ events, event.reports quantity = false

def Kept (quantity : Quantity) (events : List Event) : Prop :=
  ∀ event ∈ events, event.stored quantity = none

/-- A measurement has been begun since the last report. -/
def Begun (quantity : Quantity) (events : List Event) : Prop :=
  ∃ before since, events = before ++ .started true :: since ∧
    Unreported quantity since

/-- The value was stored by an accepted call, on a measurement begun since the
last report, and not stored over. -/
def Fresh (quantity : Quantity) (value : Flt) (events : List Event) : Prop :=
  ∃ before reading since, events = before ++ .measured reading :: since ∧
    Begun quantity before ∧ reading.accepted = true ∧
    reading.stored quantity = some value ∧
    Kept quantity since ∧ Unreported quantity since

/-- After some events, every further report of a value is of a fresh one. -/
def FreshFrom (earlier events : List Event) : Prop :=
  ∀ before quantity value since,
    events = before ++ .reported quantity value :: since →
    Fresh quantity value (earlier ++ before)

/-- In a run, every report of a value is of a fresh one. -/
def FreshTrace (events : List Event) : Prop := FreshFrom [] events

section Events

variable {quantity : Quantity} {value : Flt} {events : List Event}

theorem not_fresh_nil : ¬ Fresh quantity value [] := by
  rintro ⟨before, reading, since, hsplit, -⟩
  simp at hsplit

theorem unreported_concat (event : Event) :
    Unreported quantity (events ++ [event]) ↔
      Unreported quantity events ∧ event.reports quantity = false := by
  simp [Unreported, or_imp, forall_and]

theorem unreported_append (first second : List Event) :
    (∀ quantity, Unreported quantity (first ++ second)) ↔
      (∀ quantity, Unreported quantity first) ∧
        ∀ quantity, Unreported quantity second := by
  simp [Unreported, or_imp, forall_and]

theorem kept_concat (event : Event) :
    Kept quantity (events ++ [event]) ↔
      Kept quantity events ∧ event.stored quantity = none := by
  simp [Kept, or_imp, forall_and]

/-- An event that is not an accepted call keeps a value fresh when it neither
reports nor stores the quantity, and only then. -/
theorem fresh_concat_iff {event : Event}
    (hevent : ∀ reading, event = .measured reading →
      reading.accepted = true → reading.stored quantity = none) :
    Fresh quantity value (events ++ [event]) ↔
      event.stored quantity = none ∧ event.reports quantity = false ∧
        Fresh quantity value events := by
  constructor
  · rintro ⟨before, reading, since, hsplit, hbegun, haccepted, hstored, hkept,
      hunreported⟩
    rcases List.eq_nil_or_concat since with rfl | ⟨since, last, rfl⟩
    · obtain ⟨rfl, hlast⟩ := List.append_inj' hsplit rfl
      cases hlast
      rw [hevent reading rfl haccepted] at hstored
      cases hstored
    · rw [List.concat_eq_append] at hsplit hkept hunreported
      rw [← List.cons_append, ← List.append_assoc] at hsplit
      obtain ⟨rfl, hlast⟩ := List.append_inj' hsplit rfl
      cases hlast
      rw [kept_concat] at hkept
      rw [unreported_concat] at hunreported
      exact ⟨hkept.2, hunreported.2, before, reading, since, rfl, hbegun,
        haccepted, hstored, hkept.1, hunreported.1⟩
  · rintro ⟨hkeeps, hreports, before, reading, since, rfl, hbegun, haccepted,
      hstored, hkept, hunreported⟩
    refine ⟨before, reading, since ++ [event], by simp, hbegun, haccepted,
      hstored, ?_, ?_⟩
    · exact (kept_concat event).mpr ⟨hkept, hkeeps⟩
    · exact (unreported_concat event).mpr ⟨hunreported, hreports⟩

@[simp] theorem fresh_started (written : Bool) :
    Fresh quantity value (events ++ [.started written]) ↔
      Fresh quantity value events := by
  rw [fresh_concat_iff (by simp)]
  simp [Event.stored, Event.reports]

@[simp] theorem fresh_reported (other : Quantity) (reported : Flt) :
    Fresh quantity value (events ++ [.reported other reported]) ↔
      other ≠ quantity ∧ Fresh quantity value events := by
  rw [fresh_concat_iff (by simp)]
  simp [Event.stored, Event.reports]

theorem fresh_rejected {reading : Reading} (hrejected : reading.accepted = false) :
    Fresh quantity value (events ++ [.measured reading]) ↔
      reading.stored quantity = none ∧ Fresh quantity value events := by
  rw [fresh_concat_iff]
  · simp [Event.stored, Event.reports]
  · rintro other ⟨⟩ haccepted
    rw [hrejected] at haccepted
    cases haccepted

theorem fresh_measured {reading : Reading} (haccepted : reading.accepted = true)
    (hstored : reading.stored quantity = some value) :
    Fresh quantity value (events ++ [.started true, .measured reading]) :=
  ⟨events ++ [.started true], reading, [], by simp,
    ⟨events, [], rfl, by simp [Unreported]⟩, haccepted, hstored,
    by simp [Kept], by simp [Unreported]⟩

theorem not_fresh_of_unstarted (hnone : ∀ written, .started written ∉ events) :
    ¬ Fresh quantity value events := by
  rintro ⟨before, reading, since, rfl, ⟨begun, after, rfl, -⟩, -⟩
  exact hnone true (by simp)

theorem freshFrom_append (earlier first second : List Event) :
    FreshFrom earlier (first ++ second) ↔
      FreshFrom earlier first ∧ FreshFrom (earlier ++ first) second := by
  constructor
  · intro hall
    refine ⟨?_, ?_⟩
    · rintro before quantity value since rfl
      exact hall before quantity value (since ++ second) (by simp)
    · rintro before quantity value since rfl
      rw [List.append_assoc]
      exact hall (first ++ before) quantity value since (by simp)
  · rintro ⟨hfirst, hsecond⟩ before quantity value since hsplit
    rw [List.append_eq_append_iff] at hsplit
    rcases hsplit with ⟨middle, rfl, hmiddle⟩ | ⟨middle, hmiddle, hrest⟩
    · rw [← List.append_assoc]
      exact hsecond middle quantity value since hmiddle
    · cases middle with
      | nil =>
          rw [List.append_nil] at hmiddle
          obtain rfl := hmiddle
          have := hsecond [] quantity value since hrest.symm
          rwa [List.append_nil] at this
      | cons event middle =>
          cases hrest
          exact hfirst before quantity value middle hmiddle

theorem freshFrom_unreported {earlier events : List Event}
    (hnone : ∀ quantity, Unreported quantity events) : FreshFrom earlier events := by
  rintro before quantity value since rfl
  have := hnone quantity (.reported quantity value) (by simp)
  simp [Event.reports] at this

theorem freshFrom_reported (earlier : List Event) (quantity : Quantity)
    (value : Flt) :
    FreshFrom earlier [.reported quantity value] ↔ Fresh quantity value earlier := by
  constructor
  · intro hall
    have := hall [] quantity value [] rfl
    rwa [List.append_nil] at this
  · intro hfresh before other number since hsplit
    cases before with
    | nil =>
        cases hsplit
        rw [List.append_nil]
        exact hfresh
    | cons event before => simp at hsplit

/-- Where no measurement is ever begun, only a run without reports is fresh. -/
theorem freshTrace_unstarted_iff (hnone : ∀ written, .started written ∉ events) :
    FreshTrace events ↔ ∀ quantity, Unreported quantity events := by
  refine ⟨?_, freshFrom_unreported⟩
  intro hfresh quantity event hevent
  cases event with
  | started written => rfl
  | measured reading => rfl
  | reported other measurement =>
      obtain ⟨before, since, rfl⟩ := List.append_of_mem hevent
      refine absurd (hfresh before other measurement since rfl) ?_
      apply not_fresh_of_unstarted
      intro written hstarted
      exact hnone written (List.mem_append_left _ hstarted)

end Events

/-! The calls of the sketches as events. -/

namespace BMP280

variable (fmt : Rounding)

/-- The temperature is stored by every call that can read the sensor, the
pressure only after a temperature in range. -/
def reading (data : Option (Vector UInt8 6)) (t p : Flt) (bmp : BMP280) :
    Reading :=
  let measured := getTemperatureAndPressure fmt data t p bmp
  { accepted := measured.result
    stored := fun quantity =>
      match quantity with
      | .temperature => if data.isSome then some measured.t else none
      | .pressure =>
          if reachesPressure fmt data bmp then some measured.p else none }

variable {fmt} {data : Option (Vector UInt8 6)} {t p : Flt} {bmp : BMP280}

theorem reading_unread (hdata : data = none) :
    (reading fmt data t p bmp).accepted = false ∧
      (∀ quantity, (reading fmt data t p bmp).stored quantity = none) ∧
      (getTemperatureAndPressure fmt data t p bmp).t = t ∧
      (getTemperatureAndPressure fmt data t p bmp).p = p := by
  subst hdata
  refine ⟨rfl, ?_, rfl, rfl⟩
  intro quantity
  cases quantity <;> rfl

theorem reaches_of_accepted
    (haccepted : (reading fmt data t p bmp).accepted = true) :
    data.isSome = true ∧ reachesPressure fmt data bmp = true := by
  constructor
  · cases data with
    | none => cases haccepted
    | some bytes => rfl
  · cases hreaches : reachesPressure fmt data bmp with
    | true => rfl
    | false =>
        have hrejected := (pressure_untouched fmt hreaches t p).1
        exact absurd (haccepted.symm.trans hrejected) (by decide)

theorem stored_of_accepted
    (haccepted : (reading fmt data t p bmp).accepted = true) :
    (reading fmt data t p bmp).stored .temperature =
        some (getTemperatureAndPressure fmt data t p bmp).t ∧
      (reading fmt data t p bmp).stored .pressure =
        some (getTemperatureAndPressure fmt data t p bmp).p := by
  obtain ⟨hread, hreaches⟩ := reaches_of_accepted haccepted
  exact ⟨if_pos hread, if_pos hreaches⟩

theorem stored_of_read (hdata : data.isSome = true) :
    (reading fmt data t p bmp).stored .temperature =
      some (getTemperatureAndPressure fmt data t p bmp).t := if_pos hdata

end BMP280

end SenseBox.Device
