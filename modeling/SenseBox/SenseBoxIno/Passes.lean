import SenseBox.SenseBoxIno.Upload

namespace SenseBox.SenseBoxIno

open SenseBox.Data
open SenseBox.Device

/-! What every pass relies on, and what the first six statements of a pass do. -/

structure Ready (s : State) : Prop where
  index : s.sensorsIndex = 0
  mode : s.hdc.mode = hdc100xTempHumi

theorem setup_ready {io : SetupIo} {s : State} (hsetup : setup io = some s) :
    Ready s := by
  unfold setup at hsetup
  split at hsetup
  · cases hsetup
  · cases hsetup
    exact ⟨rfl, rfl⟩

theorem addValue_index {value : Flt} {s next : State}
    (hadd : addValue value s = some next) :
    next.sensorsIndex.toNat = s.sensorsIndex.toNat + 1 := by
  unfold addValue at hadd
  split at hadd
  · next hindex =>
    cases hadd
    have hsum : (s.sensorsIndex + 1).toNat = (s.sensorsIndex.toNat + 1) % 2 ^ 8 :=
      UInt8.toNat_add s.sensorsIndex 1
    unfold numSensors at hindex
    show (s.sensorsIndex + 1).toNat = _
    omega
  · cases hadd

variable (fmt : Rounding)

theorem measurePressure_frame (pass : Pass) (s : State) (index : UInt8)
    (values : Vector Flt numSensors) :
    measurePressure fmt pass { s with sensorsIndex := index, values := values } =
      { measurePressure fmt pass s with
        sensorsIndex := index
        values := values } := by
  unfold measurePressure
  dsimp only
  split <;> rfl

theorem measurePressure_index (pass : Pass) (s : State) :
    (measurePressure fmt pass s).sensorsIndex = s.sensorsIndex := by
  unfold measurePressure
  split <;> rfl

theorem measurePressure_hdc (pass : Pass) (s : State) :
    (measurePressure fmt pass s).hdc = s.hdc := by
  unfold measurePressure
  split <;> rfl

/-- The arguments of the five calls of `addValue` in a pass. -/
def readings (pass : Pass) (s : State) (temp humi : Flt) :
    Vector Flt numSensors :=
  #v[temp, humi, (measurePressure fmt pass s).pressure,
    fmt.ofInt pass.lux.toNat,
    fmt.ofInt (getUV pass.uvMsb pass.uvLsb).toNat]

theorem set_all (values : Vector Flt numSensors) (temp humi pressure lux uv : Flt) :
    ((((values.set 0 temp).set 1 humi).set 2 pressure).set 3 lux).set 4 uv =
      #v[temp, humi, pressure, lux, uv] := by
  apply Vector.ext
  intro place hplace
  unfold numSensors at hplace
  rcases place with _ | _ | _ | _ | _ | place
  case succ.succ.succ.succ.succ => omega
  all_goals simp

theorem execute_statements {pass : Pass} {s : State} {temp humi : Flt}
    (hindex : s.sensorsIndex = 0)
    (htemp : s.hdc.getTemp fmt pass.rawTemp = some temp)
    (hhumi : s.hdc.getHumi fmt pass.rawHumi = some humi) :
    execute (statements fmt pass) s = some
      { measurePressure fmt pass s with
        sensorsIndex := 5
        values := readings fmt pass s temp humi } := by
  obtain ⟨index, values, tempBaro, pressure, hdc, bmp⟩ := s
  subst hindex
  have hframe := measurePressure_frame fmt pass
    ⟨0, values, tempBaro, pressure, hdc, bmp⟩ 2
    ((values.set 0 temp).set 1 humi)
  have hfirst : addValue temp ⟨0, values, tempBaro, pressure, hdc, bmp⟩ =
      some ⟨1, values.set 0 temp, tempBaro, pressure, hdc, bmp⟩ := rfl
  have hsecond :
      addValue humi ⟨1, values.set 0 temp, tempBaro, pressure, hdc, bmp⟩ =
      some ⟨2, (values.set 0 temp).set 1 humi, tempBaro, pressure, hdc, bmp⟩ :=
    rfl
  simp only [execute, statements, run_cons, htemp, Option.bind_some, hfirst,
    hhumi, hsecond, hframe]
  rw [readings, ← set_all values]
  rfl

/-! The index only grows in a pass, so that it never exceeds what it is after
the last statement. -/

theorem addValue_grows {value : Flt} {s next : State}
    (hadd : addValue value s = some next) :
    s.sensorsIndex.toNat ≤ next.sensorsIndex.toNat := by
  rw [addValue_index hadd]
  exact Nat.le_succ _

theorem bind_addValue_grows {value : Option Flt} {s next : State}
    (hadd : (value.bind fun value => addValue value s) = some next) :
    s.sensorsIndex.toNat ≤ next.sensorsIndex.toNat := by
  obtain ⟨read, -, hread⟩ := Option.bind_eq_some_iff.mp hadd
  exact addValue_grows hread

theorem statement_grows {pass : Pass} {statement : State → Option State}
    (hstatement : statement ∈ statements fmt pass) {s next : State}
    (hnext : statement s = some next) :
    s.sensorsIndex.toNat ≤ next.sensorsIndex.toNat := by
  simp only [statements, List.mem_cons, List.not_mem_nil, or_false] at hstatement
  rcases hstatement with rfl | rfl | rfl | rfl | rfl | rfl
  · exact bind_addValue_grows hnext
  · exact bind_addValue_grows hnext
  · cases hnext
    rw [measurePressure_index]
  · exact addValue_grows hnext
  · exact addValue_grows hnext
  · exact addValue_grows hnext

theorem prefix_in_bounds {pass : Pass} {s last : State}
    (hall : execute (statements fmt pass) s = some last)
    {front : List (State → Option State)}
    (hfront : front <+: statements fmt pass) :
    ∃ t, execute front s = some t ∧
      t.sensorsIndex.toNat ≤ last.sensorsIndex.toNat := by
  obtain ⟨back, hsplit⟩ := hfront
  rw [← hsplit] at hall
  obtain ⟨t, hrun, hrest⟩ := run_append_some hall
  refine ⟨t, hrun, run_invariant (fun later =>
    t.sensorsIndex.toNat ≤ later.sensorsIndex.toNat) ?_ (Nat.le_refl _) hrest⟩
  intro statement hmember start finish hbound hstep
  have hin : statement ∈ statements fmt pass := by
    rw [← hsplit]
    exact List.mem_append_right front hmember
  exact hbound.trans (statement_grows fmt hin hstep)

variable (core : FloatText)

theorem loop_eq {pass : Pass} {s last : State}
    (hall : execute (statements fmt pass) s = some last)
    (hindex : last.sensorsIndex.toNat ≤ 5) :
    loop core fmt pass s =
      if pass.connected then some { last with sensorsIndex := 0 }
      else setup pass.again := by
  unfold loop
  rw [hall]
  cases hconnected : pass.connected with
  | true =>
      simp only [Option.bind_eq_bind, Option.bind_some,
        submitValues_eq core hindex, if_true]
  | false => rfl

theorem pass_spec (pass : Pass) {s : State} (hready : Ready s) :
    ∃ temp humi,
      s.hdc.getTemp fmt pass.rawTemp = some temp ∧
      s.hdc.getHumi fmt pass.rawHumi = some humi ∧
      execute (statements fmt pass) s = some
        { measurePressure fmt pass s with
          sensorsIndex := 5
          values := readings fmt pass s temp humi } ∧
      loop core fmt pass s =
        if pass.connected then some
          { measurePressure fmt pass s with
            sensorsIndex := 0
            values := readings fmt pass s temp humi }
        else setup pass.again := by
  obtain ⟨temp, htemp⟩ : ∃ temp, s.hdc.getTemp fmt pass.rawTemp = some temp :=
    ⟨_, if_pos (.inr hready.mode)⟩
  obtain ⟨humi, hhumi⟩ : ∃ humi, s.hdc.getHumi fmt pass.rawHumi = some humi :=
    ⟨_, if_pos (.inr hready.mode)⟩
  have hall := execute_statements fmt hready.index htemp hhumi
  exact ⟨temp, humi, htemp, hhumi, hall, loop_eq fmt core hall (Nat.le_refl 5)⟩

theorem loop_ready (pass : Pass) (s next : State) (hready : Ready s)
    (hloop : loop core fmt pass s = some next) : Ready next := by
  obtain ⟨temp, humi, -, -, -, hresult⟩ := pass_spec fmt core pass hready
  rw [hloop] at hresult
  split at hresult
  · cases hresult
    refine ⟨rfl, ?_⟩
    rw [← hready.mode, ← measurePressure_hdc fmt pass s]
  · exact setup_ready hresult.symm

/-- What the index and the array go through in a pass: the index starts at zero
and stays within the array, the statements leave the readings of this very pass
in their places, what is sent is the rows of these, and the pass leaves them with
the index at zero, or begins again without a server.  Only a restart that does
not get through `setup` leads to no further pass. -/
structure Aligned (pass : Pass) (s : State) : Prop where
  entry : s.sensorsIndex = 0
  inBounds : ∀ front, front <+: statements fmt pass →
    ∃ t, execute front s = some t ∧ t.sensorsIndex.toNat ≤ numSensors
  aligned : ∃ temp humi t,
    s.hdc.getTemp fmt pass.rawTemp = some temp ∧
    s.hdc.getHumi fmt pass.rawHumi = some humi ∧
    execute (statements fmt pass) s = some t ∧
    t.sensorsIndex = 5 ∧
    t.values = readings fmt pass s temp humi ∧
    loop core fmt pass s =
      (if pass.connected then some { t with sensorsIndex := 0 }
        else setup pass.again) ∧
    ∃ len, (∀ stream, printCsvToStream core t stream =
        some (len, stream ++ encodeCsv (rows core t))) ∧
      submitValues core true t = some (.sent
        (headText len ++ (encodeCsv (rows core t) ++ Lines.crlf))
        { t with sensorsIndex := 0 })
  stops : loop core fmt pass s = none →
    pass.connected = false ∧ setup pass.again = none

theorem aligned_of_ready (pass : Pass) (s : State) (hready : Ready s) :
    Aligned fmt core pass s := by
  obtain ⟨temp, humi, htemp, hhumi, hall, hloop⟩ :=
    pass_spec fmt core pass hready
  refine ⟨hready.index, ?_, ?_, ?_⟩
  · intro front hfront
    exact prefix_in_bounds fmt hall hfront
  · exact ⟨temp, humi, _, htemp, hhumi, hall, rfl, rfl, hloop, _,
      printCsvToStream_eq core (Nat.le_refl 5),
      submitValues_eq core (Nat.le_refl 5)⟩
  · intro hnone
    rw [hnone] at hloop
    split at hloop
    · cases hloop
    · next hdropped => exact ⟨by simpa using hdropped, hloop.symm⟩

/-- In every run the index is zero at the entry of each pass, no pass writes
beyond the array, and each row pairs a reading of its own pass with the
identifier of its sensor. -/
theorem uploads_aligned (core : FloatText) (fmt : Rounding) (io : SetupIo)
    (begun : State) (hsetup : setup io = some begun) (passes : List Pass) :
    Along (loop core fmt) (Aligned fmt core) passes begun :=
  along_of_invariant Ready (loop_ready fmt core) (aligned_of_ready fmt core)
    (setup_ready hsetup)

def quietSetup : SetupIo where
  shield := true
  joined := true
  words := fun i => some (if i = 3 then 16384 else 0)

def begun : State :=
  { initial with
    hdc := ⟨hdc100xTempHumi⟩
    bmp := { BMP280.initial with digP1 := 16384, oversampling := 4 } }

def quietPass (started connected : Bool) : Pass where
  rawTemp := 0x8000
  rawHumi := 0x8000
  started := started
  data := some #v[0xC0, 0, 0, 0, 0, 0]
  lux := 300
  uvMsb := some 0
  uvLsb := some 3
  connected := connected
  again := quietSetup

theorem uploads_aligned_restart :
    Along (loop arduinoText binary32) (Aligned binary32 arduinoText)
      [quietPass true true, quietPass false false, quietPass true true] begun :=
  uploads_aligned arduinoText binary32 quietSetup begun rfl _

end SenseBox.SenseBoxIno
