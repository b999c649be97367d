import SenseBox.FinalDoorSD.Log
import SenseBox.SD.LogFile

namespace SenseBox.FinalDoorSD

open SenseBox.Data
open SenseBox.Counter
open SenseBox.Device
open SenseBox.SD
open SdVolume

/-! The log of the door on the blocks of a card on which no access fails: what whole runs
leave there is what they leave on the card of files. -/

/-- An upload: the row is written, and the log is read back. -/
def record (io : Accesses) (rounds polls : Nat) (row : Row) (card : SdCard) :
    Option SdCard := do
  let (done, card) ← card.writeTo io rounds fileName row.texts
  let (_, card) ← card.readBack io rounds polls fileName
  if done then return card else none

variable {io : Accesses} {rounds polls : Nat} {card after : SdCard} {earlier : List UInt8}

/-- The card has the log with these bytes, and no file is open. -/
def Logged (rounds : Nat) (bytes : List UInt8) (card : SdCard) : Prop :=
  ∃ files, SdCard.AtRest rounds card files ∧ files.entry entryName = .file bytes false

theorem Logged.record (hworks : ¬ Broken io) (hpolls : 2 ^ 32 ≤ polls) {row : Row}
    (hlogged : Logged rounds earlier card)
    (hfits : earlier.length + row.texts.flatten.length < 2 ^ 32)
    (hcard : FinalDoorSD.record io rounds polls row card = some after) :
    Logged rounds (earlier ++ row.texts.flatten) after := by
  obtain ⟨files, hrest, hentry⟩ := hlogged
  rw [FinalDoorSD.record] at hcard
  obtain ⟨⟨done, written⟩, hwrite, hcard⟩ := Option.bind_eq_some_iff.mp hcard
  obtain ⟨⟨echoed, shown⟩, hecho, hcard⟩ := Option.bind_eq_some_iff.mp hcard
  cases done with
  | false => cases hcard
  | true =>
      cases hcard
      obtain ⟨left, hrest', hentry'⟩ :=
        SdCard.writeTo_appends hworks hrest rootPath.short hentry hfits hwrite
      have hlength : (earlier ++ row.texts.flatten).length < polls := by
        rw [List.length_append]
        omega
      obtain ⟨after', left', hshows, hrest'', hentry''⟩ :=
        SdCard.readBack_shows hworks hrest' rootPath.short hentry' hlength
      rw [hecho] at hshows
      cases hshows
      exact ⟨left', hrest'', hentry''⟩

theorem Logged.run (hworks : ¬ Broken io) (hpolls : 2 ^ 32 ≤ polls) {rows : List Row}
    (hlogged : Logged rounds earlier card)
    (hfits : earlier.length + (logBytes rows).length < 2 ^ 32)
    (hcard : Data.run (FinalDoorSD.record io rounds polls) rows card = some after) :
    Logged rounds (earlier ++ logBytes rows) after := by
  induction rows generalizing card earlier with
  | nil =>
      cases hcard
      rwa [logBytes, List.map_nil, Rows.encode, List.map_nil, Lines.encode, List.flatMap_nil,
        List.append_nil]
  | cons row rest ih =>
      obtain ⟨middle, hrow, hrest⟩ := run_cons_some hcard
      rw [logBytes_cons, List.length_append, ← Nat.add_assoc] at hfits
      rw [logBytes_cons, ← List.append_assoc]
      refine ih (hlogged.record hworks hpolls (by omega) hrow) ?_ hrest
      rwa [List.length_append]

/-- After `setup` the log is on both cards. -/
theorem setup_refines (hworks : ¬ Broken io) {setupIo : SetupIo} (hio : setupIo.Quiet)
    {volume : Volume}
    (hsame : SameFile rounds entryName earlier card volume ∨
      earlier = [] ∧ NoFile rounds entryName card volume)
    (hcard : card.writeTo io rounds fileName [] = some (true, after)) :
    ∃ start, setup setupIo volume = some start ∧
      SameFile rounds entryName earlier after start.volume := by
  have husable : Usable volume entryName earlier :=
    hsame.imp (fun hsame => hsame.volume) fun ⟨hempty, hnone⟩ => ⟨hempty, hnone.volume⟩
  obtain ⟨start, hsetup, hholds⟩ := setup_holds hio husable
  refine ⟨start, hsetup, ?_, hholds⟩
  have hlength := hholds.length_lt
  rcases hsame with hsame | ⟨rfl, hnone⟩
  · have hcreated := writeTo_refines hworks rootPath hsame (by simpa) hcard
    rw [List.flatten_nil, List.append_nil] at hcreated
    exact hcreated.card
  · exact (writeTo_refines_new rootPath hnone (by simp) hcard).card

/-- The uploads of a run leave the same log on both cards. -/
theorem run_refines (fmt : Rounding) (hworks : ¬ Broken io) (hpolls : 2 ^ 32 ≤ polls)
    {passes : List Pass} (hquiet : ∀ pass ∈ passes, pass.Quiet) {start : State}
    (hready : Ready start) (hsame : SameFile rounds entryName earlier card start.volume)
    (hfits : earlier.length + (logBytes (uploads fmt passes start)).length < 2 ^ 32)
    (hcard : run (record io rounds polls) (uploads fmt passes start) card = some after) :
    ∃ finish, run (loop fmt) passes start = some finish ∧
      SameFile rounds entryName (earlier ++ logBytes (uploads fmt passes start)) after
        finish.volume := by
  obtain ⟨finish, hrun, hholds⟩ := run_loop_logs fmt hquiet hready hsame.volume hfits
  have hlogged : Logged rounds earlier card := hsame.card
  exact ⟨finish, hrun, hlogged.run hworks hpolls hfits hcard, hholds⟩

/-- A first row on a blank card is echoed as it was written. -/
example : ((smallStarted.writeTo (fun _ _ => true) 4085 fileName []).bind fun created =>
    (run (record (fun _ _ => true) 4085 (2 ^ 32)) [⟨60001, 1, 0, 0, 0⟩] created.2).bind
      fun card => (card.readBack (fun _ _ => true) 4085 (2 ^ 32) fileName).map Prod.fst) =
    some (logBytes [⟨60001, 1, 0, 0, 0⟩]) := by
  decide +kernel

end SenseBox.FinalDoorSD
