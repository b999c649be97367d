import SenseBox.SD.Silent
import SenseBox.SDuS.Model
import Mathlib.Data.Nat.Digits.Lemmas

namespace SenseBox.SDuS

open SenseBox.Data
open SenseBox.Counter
open SenseBox.Device
open SenseBox.SD

/-! The total on the card when accesses fail.  `write_file` removes the file before it writes
it anew, and looks at none of the four results. -/

def totalLine (total : Int16) : List UInt8 :=
  Lines.encode [Decimal.encode total.toInt]

def entryName : Name := ⟨(text "NB_PPL  TXT").toArray, by decide⟩

theorem make83Name_fileName : make83Name fileName = some entryName := by decide

theorem flatten_printlnInt (total : Int16) :
    (printlnInt total).flatten = totalLine total := by
  simp [printlnInt, totalLine, Lines.encode]

theorem length_printlnInt_pos (total : Int16) : 0 < (printlnInt total).length := by
  rw [printlnInt, List.length_append]
  exact Nat.succ_pos _

theorem totalLine_ne_nil (total : Int16) : totalLine total ≠ [] := by
  simp [totalLine, Lines.encode, Lines.crlf]

theorem length_totalLine_le (total : Int16) : (totalLine total).length ≤ 8 := by
  have hlow := Int16.le_toInt total
  have hhigh := Int16.toInt_lt total
  have hdigits : (Nat.digits 10 total.toInt.natAbs).length ≤ 5 := by
    rw [Nat.digits_length_le_iff (by decide)]
    omega
  have hencoded : (Decimal.encodeNat total.toInt.natAbs).length ≤ 5 := by
    unfold Decimal.encodeNat
    split
    · exact Nat.le_add_left 1 4
    · simpa using hdigits
  simp only [totalLine, Lines.encode, Lines.crlf, List.flatMap_cons,
    List.flatMap_nil, List.append_nil, List.length_append, List.length_cons,
    List.length_nil, Decimal.encode]
  split
  · rw [List.length_cons]
    omega
  · omega

/-- The file is there with these bytes, and nothing waits to be written back. -/
def Holds (rounds : Nat) (card : SdCard) (bytes : List UInt8) : Prop :=
  card.volume.cacheDirty = false ∧
    ∃ files, SdCard.AtRest rounds card files ∧ files.entry entryName = .file bytes false ∧
      dirEntrySize * files.slots < 2 ^ 32

/-- The file is not there, and the directory does not grow too large by it. -/
def Lacks (rounds : Nat) (card : SdCard) : Prop :=
  ∃ files, SdCard.AtRest rounds card files ∧ files.entry entryName = .absent ∧
    dirEntrySize * files.room card.layout < 2 ^ 32

def Intact (rounds : Nat) (card : SdCard) : Prop :=
  Lacks rounds card ∨ ∃ bytes, Holds rounds card bytes

variable {io : Accesses} {rounds : Nat} {card after : SdCard} {total : Int16}
  {bytes : List UInt8} {outcome : Outcome}

theorem Holds.onVolume (hholds : Holds rounds card bytes) :
    ∃ site, OnVolume card.layout card.opening entryName bytes false site := by
  obtain ⟨-, files, hrest, hentry, -⟩ := hholds
  obtain ⟨flags, chains, extent, count, handles, views, hagrees⟩ := hrest.ordered
  refine hagrees.onVolume.shut (make83Name_used make83Name_fileName) hentry ?_
  rw [Files.Shut, hrest.current]
  exact fun flags place => Current.closed_ne entryName flags place

/-- The line is written to the file that is made. -/
theorem Lacks.written (hlacks : Lacks rounds card) {handle : FatFile}
    (hopen : card.openFile io rounds fileName fileWrite = some (some handle, after))
    (hprint : (after.printAll io (printlnInt total) (some handle)).1 = true)
    (hclose : ((after.printAll io (printlnInt total) (some handle)).2.2.close io
      (after.printAll io (printlnInt total) (some handle)).2.1).1 = true) :
    Holds rounds ((after.printAll io (printlnInt total) (some handle)).2.2.close io
      (after.printAll io (printlnInt total) (some handle)).2.1).2 (totalLine total) := by
  obtain ⟨files, hrest, hentry, hroom⟩ := hlacks
  obtain ⟨file, opened, hopen', hlayout, hnew⟩ := SdCard.openFile_new hrest.usable hrest.ordered
    hrest.current make83Name_fileName hentry hroom
  rw [hopen] at hopen'
  cases hopen'
  obtain ⟨left, hordered, hempty, hplace, hslots⟩ := hnew handle rfl
  have hsize : ([] : List UInt8).length + (printlnInt total).flatten.length < 2 ^ 32 := by
    have hlength := length_totalLine_le total
    rw [flatten_printlnInt, List.length_nil]
    omega
  obtain ⟨left', hrest', hentry', hslots'⟩ :=
    SdCard.printed_closed (hrest.usable.of_layout hlayout) hordered hempty hplace (by decide)
      (by decide) hsize hprint hclose
  refine ⟨SdCard.close_clean hclose, left', hrest', ?_, ?_⟩
  · rw [hentry', List.nil_append, flatten_printlnInt]
  · rw [hslots', hslots]
    exact hroom

/-- A file that has been removed is not there any more. -/
theorem Holds.removed (hholds : Holds rounds card bytes)
    (hremove : card.remove io rounds fileName = some (true, after)) : Lacks rounds after := by
  obtain ⟨-, files, hrest, hentry, hslots⟩ := hholds
  obtain ⟨left, hleft⟩ : ∃ left : Files, left =
      { files.setEntry entryName .absent files.current with spare := true } := ⟨_, rfl⟩
  have hexpect : files.expect card.layout (.removeIn fileName) = some
      { done := some ([], left)
        failed := files.lose entryName files.current } := by
    rw [Files.expect, make83Name_fileName]
    dsimp only
    rw [hentry]
    dsimp only
    rw [Files.remove, hleft]
    split
    · next hcurrent =>
      rw [hrest.current] at hcurrent
      cases hcurrent
    · rfl
  obtain ⟨removed, after', hremove', hlayout, hcase⟩ :=
    SdCard.remove_ordered hrest.usable hrest.ordered hexpect
  rw [hremove] at hremove'
  cases hremove'
  rcases hcase with ⟨hfalse, -⟩ | ⟨-, _, other, hdone, hordered⟩
  · cases hfalse
  · cases hdone
    have hroom : left.room after.layout = files.slots := by
      rw [hleft]
      exact if_pos rfl
    refine ⟨left, ⟨hrest.usable.of_layout hlayout, hordered, ?_⟩, ?_, ?_⟩
    · rw [hleft]
      exact hrest.current
    · rw [hleft]
      exact Function.update_self entryName Entry.absent files.entry
    · rw [hroom]
      exact hslots

/-- Where there is no file, none is removed. -/
theorem Lacks.not_removed (hlacks : Lacks rounds card) {removed : Bool}
    (hremove : card.remove io rounds fileName = some (removed, after)) : Lacks rounds after := by
  obtain ⟨files, hrest, hentry, hroom⟩ := hlacks
  have hexpect : files.expect card.layout (.removeIn fileName) = some files.refused := by
    rw [Files.expect, make83Name_fileName]
    dsimp only
    rw [hentry]
  obtain ⟨removed', after', hremove', hlayout, hcase⟩ :=
    SdCard.remove_ordered hrest.usable hrest.ordered hexpect
  rw [hremove] at hremove'
  cases hremove'
  rcases hcase with ⟨-, hordered⟩ | ⟨-, _, left, hdone, -⟩
  · refine ⟨files, ⟨hrest.usable.of_layout hlayout, hordered, hrest.current⟩, hentry, ?_⟩
    rw [hlayout]
    exact hroom
  · cases hdone

/-- Every call but the removal succeeds, and the removal does so or has nothing to do. -/
def Replaces (io : Accesses) (rounds : Nat) (total : Int16) (card : SdCard) : Prop :=
  ∃ outcome after, writeTotal io rounds total card = some (outcome, after) ∧
    (outcome.removed = true ∨ Lacks rounds card) ∧
    outcome.opened = true ∧ outcome.printed = true ∧ outcome.closed = true

/-- The removal fails before it changes a block, on the card or in the cache, and the file is
not opened either. -/
def Refused (io : Accesses) (rounds : Nat) (card : SdCard) : Prop :=
  ∃ left after, card.remove io rounds fileName = some (false, left) ∧
    card.volume.Unwritten left.volume ∧
    left.openFile io rounds fileName fileWrite = some (none, after)

/-- The card does not answer: the next accesses fail, one and one for each piece of the line,
which are as many as the four calls make then. -/
def Unanswered (io : Accesses) (total : Int16) (card : SdCard) : Prop :=
  ∀ place < (printlnInt total).length + 1, ∀ block,
    io (card.volume.accesses + place) block = false

theorem replaceTotal_replaces (hintact : Intact rounds card)
    (hreplaces : Replaces io rounds total card) :
    ∃ after, replaceTotal io rounds total card = some after ∧
      Holds rounds after (totalLine total) := by
  obtain ⟨outcome, after, hwrite, hremoved, hopened, hprinted, hclosed⟩ := hreplaces
  refine ⟨after, by rw [replaceTotal, hwrite]; rfl, ?_⟩
  rw [writeTotal] at hwrite
  obtain ⟨⟨removed, left⟩, hremove, hwrite⟩ := Option.bind_eq_some_iff.mp hwrite
  obtain ⟨⟨file, opened⟩, hopen, hwrite⟩ := Option.bind_eq_some_iff.mp hwrite
  cases hwrite
  obtain ⟨handle, rfl⟩ := Option.isSome_iff_exists.mp hopened
  have hlacks : Lacks rounds left := by
    rcases hremoved with rfl | hlacks
    · rcases hintact with hlacks | ⟨bytes, hholds⟩
      · exact hlacks.not_removed hremove
      · exact hholds.removed hremove
    · exact hlacks.not_removed hremove
  exact hlacks.written hopen hprinted hclosed

theorem printAll_none (io : Accesses) (card : SdCard) (pieces : List Text) :
    ∃ done, card.printAll io pieces none = (done, none, card) := by
  induction pieces with
  | nil => exact ⟨true, rfl⟩
  | cons buf rest ih =>
      obtain ⟨done, hrest⟩ := ih
      refine ⟨false && done, ?_⟩
      rw [SdCard.printAll, SdCard.write]
      dsimp only
      rw [hrest]

/-- A total that is there stays there where it is neither removed nor opened. -/
theorem replaceTotal_refused (hholds : Holds rounds card bytes)
    (hrefused : Refused io rounds card) :
    ∃ after, replaceTotal io rounds total card = some after ∧ Holds rounds after bytes := by
  obtain ⟨hclean, files, hrest, hentry, hslots⟩ := hholds
  obtain ⟨left, after, hremove, hwritten, hopen⟩ := hrefused
  have hleft := SdCard.remove_unwritten hrest make83Name_fileName hentry hclean hremove hwritten
  obtain ⟨hafter, hclean'⟩ := SdCard.openIn_unwritten hleft make83Name_fileName hentry
    (by decide : fileWrite &&& (oCreat ||| oExcl) ≠ oCreat ||| oExcl) (by decide)
    hwritten.clean (SdCard.openFile_unopened hopen)
  obtain ⟨printed, hprint⟩ := printAll_none io after (printlnInt total)
  refine ⟨after, ?_, hclean', files, hafter, hentry, hslots⟩
  rw [replaceTotal, writeTotal, hremove, Option.bind_eq_bind, Option.bind_some]
  dsimp only
  rw [hopen, Option.bind_eq_bind, Option.bind_some]
  dsimp only
  rw [hprint]
  rfl

/-- A total that is there stays there where the card does not answer. -/
theorem replaceTotal_unanswered {old : Int16} (hholds : Holds rounds card (totalLine old))
    (hunanswered : Unanswered io total card) :
    ∃ after, replaceTotal io rounds total card = some after ∧
      Holds rounds after (totalLine old) := by
  obtain ⟨hclean, files, hrest, hentry, hslots⟩ := hholds
  have hlength := length_totalLine_le old
  have hbytes := totalLine_ne_nil old
  have hpos := List.length_pos_iff.mpr hbytes
  have hpieces := length_printlnInt_pos total
  have hsilent : card.volume.Silent io ((printlnInt total).length + 1) := ⟨hclean, hunanswered⟩
  obtain ⟨left, hremove, hlayout, hordered, hleft⟩ := SdCard.remove_silent hrest.usable
    hrest.ordered hrest.current make83Name_fileName hentry hbytes
    (hsilent.less (Nat.le_add_left 1 _))
  have hsilent' : left.volume.Silent io (printlnInt total).length := hleft hsilent
  have husable := hrest.usable.of_layout hlayout
  obtain ⟨file, opened, hopen, hlayout', hcase⟩ := SdCard.openFile_silent husable hordered
    hrest.current make83Name_fileName hentry hbytes (by omega) (hsilent'.less hpieces)
  have husable' := husable.of_layout hlayout'
  rw [replaceTotal, writeTotal, hremove, Option.bind_eq_bind, Option.bind_some]
  dsimp only
  rw [hopen, Option.bind_eq_bind, Option.bind_some]
  dsimp only
  rcases hcase with ⟨rfl, hvolume, hordered'⟩ | ⟨handle, rfl, hvolume, hreached⟩
  · obtain ⟨printed, hprint⟩ := printAll_none io opened (printlnInt total)
    rw [hprint]
    have hone : left.volume.Silent io (0 + 1) := hsilent'.less hpieces
    exact ⟨opened, rfl, (hone.unchanged hvolume).clean, files,
      ⟨husable', hordered', hrest.current⟩, hentry, hslots⟩
  · rw [← hvolume] at hsilent'
    obtain ⟨printed, left', hprint, hlayout'', hdirty, hreached'⟩ :=
      SdCard.printAll_silent husable' hreached (by omega) hsilent'
    have hclean' := hdirty.trans hsilent'.clean
    have husable'' := husable'.of_layout hlayout''
    obtain ⟨hclose, hordered'⟩ := hreached'.close io husable'' hrest.current hentry hclean'
    rw [hprint]
    dsimp only
    rw [hclose]
    exact ⟨left', rfl, hclean', files, ⟨husable'', hordered', hrest.current⟩, hentry, hslots⟩

/-! Visits along a run. -/

variable {start next : State SdCard} {pass : Pass} {passes : List Pass}

/-- The pass completes a visit, and its total gets onto the card. -/
structure Records (io : Accesses) (rounds : Nat) (pass : Pass) (s : State SdCard) : Prop where
  completes : completes distToPpl (distance pass) s = true
  replaces : Replaces io rounds (s.nbPeople + 1) s.card

/-- If the pass completes a visit, the old total is replaced, or it is left alone, or the card
does not answer. -/
def Handled (io : Accesses) (rounds : Nat) (pass : Pass) (s : State SdCard) : Prop :=
  completes distToPpl (distance pass) s = true →
    Replaces io rounds (s.nbPeople + 1) s.card ∨ Refused io rounds s.card ∨
      Unanswered io (s.nbPeople + 1) s.card

/-- The total of the last visit of a run that was recorded. -/
def LastRecorded (io : Accesses) (rounds : Nat) (passes : List Pass) (start : State SdCard)
    (total : Int16) : Prop :=
  ∃ front pass back s next, passes = front ++ pass :: back ∧
    run (loop io rounds) front start = some s ∧ loop io rounds pass s = some next ∧
    Records io rounds pass s ∧ total = s.nbPeople + 1 ∧
    Along (loop io rounds) (fun pass s => ¬ Records io rounds pass s) back next

theorem loop_completes (hcompletes : completes distToPpl (distance pass) start = true)
    (hcard : replaceTotal io rounds (start.nbPeople + 1) start.card = some card) :
    ∃ next, loop io rounds pass start = some next ∧ next.card = card := by
  rw [loop, step_eq, if_pos hcompletes, hcard]
  exact ⟨_, rfl, rfl⟩

theorem loop_records (hintact : Intact rounds start.card)
    (hrecords : Records io rounds pass start) :
    ∃ next, loop io rounds pass start = some next ∧
      Holds rounds next.card (totalLine (start.nbPeople + 1)) := by
  obtain ⟨card, hcard, hholds⟩ := replaceTotal_replaces hintact hrecords.replaces
  obtain ⟨next, hloop, rfl⟩ := loop_completes hrecords.completes hcard
  exact ⟨next, hloop, hholds⟩

theorem loop_keeps (hholds : Holds rounds start.card (totalLine total))
    (hhandled : Handled io rounds pass start) (hnot : ¬ Records io rounds pass start) :
    ∃ next, loop io rounds pass start = some next ∧
      Holds rounds next.card (totalLine total) := by
  by_cases hcompletes : completes distToPpl (distance pass) start = true
  · rcases hhandled hcompletes with hreplaces | hrefused | hunanswered
    · exact absurd ⟨hcompletes, hreplaces⟩ hnot
    · obtain ⟨card, hcard, hkept⟩ := replaceTotal_refused hholds hrefused
      obtain ⟨next, hloop, rfl⟩ := loop_completes hcompletes hcard
      exact ⟨next, hloop, hkept⟩
    · obtain ⟨card, hcard, hkept⟩ := replaceTotal_unanswered hholds hunanswered
      obtain ⟨next, hloop, rfl⟩ := loop_completes hcompletes hcard
      exact ⟨next, hloop, hkept⟩
  · rw [loop, step_eq, if_neg hcompletes]
    exact ⟨_, rfl, hholds⟩

theorem LastRecorded.cons (hlast : LastRecorded io rounds passes next total)
    (hloop : loop io rounds pass start = some next) :
    LastRecorded io rounds (pass :: passes) start total := by
  obtain ⟨front, recorded, back, s, last, rfl, hfront, hrest⟩ := hlast
  refine ⟨pass :: front, recorded, back, s, last, rfl, ?_, hrest⟩
  rw [run_cons, hloop]
  exact hfront

theorem Records.last (hrecords : Records io rounds pass start)
    (hloop : loop io rounds pass start = some next)
    (hnone : Along (loop io rounds) (fun pass s => ¬ Records io rounds pass s) passes next) :
    LastRecorded io rounds (pass :: passes) start (start.nbPeople + 1) :=
  ⟨[], pass, passes, start, next, rfl, rfl, hloop, hrecords, rfl, hnone⟩

/-- From a card with one total, a run in which every visit is handled ends with that total or
with the last one it recorded. -/
theorem run_handled (hholds : Holds rounds start.card (totalLine total))
    (hhandled : Along (loop io rounds) (Handled io rounds) passes start) :
    ∃ s, run (loop io rounds) passes start = some s ∧
      (Along (loop io rounds) (fun pass s => ¬ Records io rounds pass s) passes start ∧
          Holds rounds s.card (totalLine total) ∨
        ∃ last, LastRecorded io rounds passes start last ∧
          Holds rounds s.card (totalLine last)) := by
  induction passes generalizing start total with
  | nil => exact ⟨start, rfl, .inl ⟨trivial, hholds⟩⟩
  | cons pass rest ih =>
      by_cases hrecords : Records io rounds pass start
      · obtain ⟨next, hloop, hnext⟩ := loop_records (.inr ⟨_, hholds⟩) hrecords
        obtain ⟨s, hrun, hend⟩ := ih hnext (hhandled.2 next hloop)
        refine ⟨s, by rw [run_cons, hloop]; exact hrun, .inr ?_⟩
        rcases hend with ⟨hnone, hkept⟩ | ⟨last, hlast, hkept⟩
        · exact ⟨start.nbPeople + 1, hrecords.last hloop hnone, hkept⟩
        · exact ⟨last, hlast.cons hloop, hkept⟩
      · obtain ⟨next, hloop, hnext⟩ := loop_keeps hholds hhandled.1 hrecords
        obtain ⟨s, hrun, hend⟩ := ih hnext (hhandled.2 next hloop)
        refine ⟨s, by rw [run_cons, hloop]; exact hrun, ?_⟩
        rcases hend with ⟨hnone, hkept⟩ | ⟨last, hlast, hkept⟩
        · refine .inl ⟨⟨hrecords, fun other hother => ?_⟩, hkept⟩
          rw [hloop] at hother
          cases hother
          exact hnone
        · exact .inr ⟨last, hlast.cons hloop, hkept⟩

theorem begin_first {layout : Layout} {volume started : SdVolume}
    (hinit : observe (SdVolume.init io 1) (some (some layout)) (SdVolume.powerOn volume) =
      some started) (htype : layout.fatType = .fat16) :
    SdCard.begin io rounds true volume =
      some (some ⟨layout, started, FatFile.root16 layout⟩) := by
  have hrun := observe_some_iff.mp hinit
  have hvolume : SdCard.initVolume io (SdVolume.powerOn volume) =
      (some (some layout), started) := by
    rw [SdCard.initVolume, hrun]
    rfl
  have hroot : Ends (FatFile.openRoot io layout rounds) (started, FatFile.closedFile) _ _ :=
    FatFile.ends_openRoot htype
  obtain ⟨_, finish, hopen, rfl, rfl⟩ := hroot.run_returned
  rw [SdCard.begin, hvolume]
  dsimp only
  rw [hopen]
  rfl

/-- On a card of FAT16 that has been formatted, and has no such file, the file is known not to
be there. -/
theorem begin_lacks {layout : Layout} {volume started : SdVolume} {first : UInt32}
    (hinit : observe (SdVolume.init io 1) (some (some layout)) (SdVolume.powerOn volume) =
      some started) (hpart : SdVolume.partitionOf volume.blocks 1 = some first)
    (hformatted : Formatted first (volume.blocks first) layout)
    (hcopied : SdVolume.Copied layout volume.blocks) (htype : layout.fatType = .fat16)
    (hcount : 32 * layout.rootDirEntryCount.toNat + 511 < 2 ^ 16)
    (htidy : Tidy (namesOf layout [] .root16 started layout.rootDirEntryCount.toNat))
    (hmissing : entryName ∉ namesOf layout [] .root16 started layout.rootDirEntryCount.toNat)
    (hrounds : layout.clusterCount.toNat ≤ rounds) :
    ∃ card, SdCard.begin io rounds true volume = some (some card) ∧ Lacks rounds card := by
  have hroot : Ends (FatFile.openRoot io layout rounds) (started, FatFile.closedFile) _ _ :=
    FatFile.ends_openRoot htype
  obtain ⟨_, finish, hopen, rfl, rfl⟩ := hroot.run_returned
  obtain ⟨hsound, hagreed⟩ := started_agreed hinit hpart hformatted hcopied htype hcount htidy
    (observe_some_iff.mpr hopen)
  refine ⟨_, begin_first hinit htype, _, ⟨⟨hsound, hrounds⟩, hagreed, rfl⟩, if_neg hmissing, ?_⟩
  have hslots : layout.slotsPerCluster ≤ 16 * 128 :=
    Nat.mul_le_mul_left 16 hsound.shift_lt
  have hlength : (namesOf layout [] .root16 started layout.rootDirEntryCount.toNat).length =
      layout.rootDirEntryCount.toNat := length_namesOf
  change 32 * ((namesOf layout [] .root16 started layout.rootDirEntryCount.toNat).length +
    layout.slotsPerCluster) < 2 ^ 32
  omega

/-- After `setup` the file is there, and empty, if its calls have succeeded. -/
theorem setup_holds {cardInit : Bool} {volume : SdVolume} {opened closed found last : SdCard}
    {handle child : FatFile} (hbegin : SdCard.begin io rounds cardInit volume = some (some card))
    (hlacks : Lacks rounds card)
    (hopen : card.openFile io rounds fileName fileWrite = some (some handle, opened))
    (hclose : opened.close io (some handle) = (true, closed))
    (hfound : closed.openIn io rounds fileName oRdonly = some (some child, found))
    (hlast : found.close io (some child) = (true, last)) :
    setup io rounds cardInit volume = some (begun last) ∧ Holds rounds last [] := by
  obtain ⟨files, hrest, hentry, hroom⟩ := hlacks
  obtain ⟨file, opened', hopen', hlayout, hnew⟩ := SdCard.openFile_new hrest.usable
    hrest.ordered hrest.current make83Name_fileName hentry hroom
  obtain ⟨rfl, rfl⟩ := Prod.mk.inj (Option.some.inj (hopen.symm.trans hopen'))
  obtain ⟨left, hordered, hempty, hplace, hslots⟩ := hnew handle rfl
  have husable := hrest.usable.of_layout hlayout
  obtain ⟨closed', hclose', hlayout, hordered⟩ :=
    SdCard.close_ordered husable hordered hplace (by rw [hclose])
  obtain ⟨-, rfl⟩ := Prod.mk.inj (hclose.symm.trans hclose')
  have husable := husable.of_layout hlayout
  have hexpect : Files.expect closed.layout { left with current := .closed }
      (.openIn fileName oRdonly) = some
        { done := some ([], left.setEntry entryName (.file [] false)
            (.file entryName (openFlags oRdonly) 0))
          failed := { left with current := .closed } } := by
    rw [Files.expect_openIn (fun name => Current.closed_ne name) make83Name_fileName]
    dsimp only
    rw [hempty]
    rfl
  obtain ⟨child', found', hfound', hlayout, hcase⟩ :=
    SdCard.openIn_ordered husable hordered hexpect rfl
  obtain ⟨rfl, rfl⟩ := Prod.mk.inj (Option.some.inj (hfound.symm.trans hfound'))
  rcases hcase with ⟨hnone, -⟩ | ⟨-, _, again, hdone, hordered⟩
  · cases hnone
  · cases hdone
    have husable := husable.of_layout hlayout
    have hclean : (found.close io (some child)).2.volume.cacheDirty = false :=
      SdCard.close_clean (by rw [hlast])
    obtain ⟨last', hlast', hlayout, hordered⟩ :=
      SdCard.close_ordered husable hordered rfl (by rw [hlast])
    obtain ⟨-, rfl⟩ := Prod.mk.inj (hlast.symm.trans hlast')
    rw [hlast] at hclean
    refine ⟨?_, hclean, _, ⟨husable.of_layout hlayout, hordered, rfl⟩,
      Function.update_self entryName _ left.entry, ?_⟩
    · rw [setup, hbegin, Option.bind_eq_bind, Option.bind_some, Option.bind_eq_bind,
        Option.bind_some, hopen, Option.bind_eq_bind, Option.bind_some]
      dsimp only
      rw [hclose]
      dsimp only
      rw [SdCard.existsIn, hfound]
      dsimp only [Option.map_some]
      rw [hlast]
      rfl
    · change dirEntrySize * left.slots < 2 ^ 32
      rw [hslots]
      exact hroom

/-! Somebody who comes and goes twice, on the small card. -/

def arriving : Pass where
  sounding := {
    pending := false
    triggered := 0
    waits := []
    started := 500
    polls := []
    finished := 3355 }

def leaving : Pass where
  sounding := { arriving.sounding with finished := 17605 }

/-- The card does not answer for a while. -/
def outage : Accesses := fun place _ => decide (place < 12 ∨ 15 ≤ place)

theorem near_arriving : near distToPpl (distance arriving) = true := by decide

theorem completes_arriving (s : State SdCard) :
    completes distToPpl (distance arriving) s = false := by
  rw [completes, near_arriving, Bool.not_true, Bool.and_false]

theorem smallStarted_begin {io : Accesses} (hio : ∀ place < 2, io place = fun _ => true) :
    SdCard.begin io 4085 true smallPower = some (some smallStarted) :=
  begin_first (smallPower_init hio) rfl

theorem smallStarted_lacks : Lacks 4085 smallStarted := by
  have hio : ∀ place < 2, (fun _ _ => true : Accesses) place = fun _ => true := fun _ _ => rfl
  have hnames : namesOf smallLayout [] .root16 blankVolume
      smallLayout.rootDirEntryCount.toNat = List.replicate 16 (Vector.replicate 11 0) :=
    namesOf_blank
  have hmissing : entryName ∉ List.replicate 16 (Vector.replicate 11 0) := by
    rw [List.mem_replicate]
    exact fun hboth => absurd hboth.2 (by decide)
  have htidy : Tidy (List.replicate 16 (Vector.replicate 11 0 : Name)) :=
    List.pairwise_replicate.mpr (.inr ⟨fun hfree => hfree, fun _ => .inl rfl⟩)
  rw [← hnames] at hmissing htidy
  obtain ⟨card, hbegin, hlacks⟩ := begin_lacks (smallPower_init hio) rfl smallCard_formatted
    smallCard_copied rfl (by decide) htidy hmissing (le_refl 4085)
  rw [smallStarted_begin hio] at hbegin
  cases hbegin
  exact hlacks

theorem outage_setup : (setup outage 4085 true smallPower).isSome = true := by
  decide +kernel

def outageStart : State SdCard := (setup outage 4085 true smallPower).get outage_setup

theorem outageStart_holds : Holds 4085 outageStart.card [] := by
  have hfirst : ∀ place < 2, outage place = fun _ => true := by
    intro place hplace
    funext block
    exact decide_eq_true (.inl (by omega))
  have hcreated : ((smallStarted.openFile outage 4085 fileName fileWrite).bind
      Prod.fst).isSome = true := by decide +kernel
  have hwritten : ((smallStarted.openFile outage 4085 fileName fileWrite).map fun usData =>
      (usData.2.close outage usData.1).1) = some true := by decide +kernel
  have hthere : (((smallStarted.openFile outage 4085 fileName fileWrite).bind fun usData =>
      (usData.2.close outage usData.1).2.openIn outage 4085 fileName oRdonly).bind
        Prod.fst).isSome = true := by decide +kernel
  have hleft : ((smallStarted.openFile outage 4085 fileName fileWrite).bind fun usData =>
      ((usData.2.close outage usData.1).2.openIn outage 4085 fileName oRdonly).map fun child =>
        (child.2.close outage child.1).1) = some true := by decide +kernel
  obtain ⟨handle, hhandle⟩ := Option.isSome_iff_exists.mp hcreated
  obtain ⟨⟨_, opened⟩, hopen, rfl⟩ := Option.bind_eq_some_iff.mp hhandle
  rw [hopen] at hwritten hthere hleft
  obtain ⟨child, hchild⟩ := Option.isSome_iff_exists.mp hthere
  obtain ⟨⟨_, found⟩, hfound, rfl⟩ := Option.bind_eq_some_iff.mp hchild
  rw [Option.bind_some] at hfound hleft
  dsimp only at hfound hleft
  rw [hfound] at hleft
  obtain ⟨hsetup, hholds⟩ := setup_holds (smallStarted_begin hfirst) smallStarted_lacks
    hopen (Prod.ext (Option.some.inj hwritten) rfl) hfound
    (Prod.ext (Option.some.inj hleft) rfl)
  have hstart : outageStart = begun _ := Option.some.inj ((Option.some_get _).trans hsetup)
  rw [hstart]
  exact hholds

theorem outage_arrived :
    (run (loop outage 4085) [arriving] outageStart).isSome = true := by
  decide +kernel

def outageArrived : State SdCard :=
  (run (loop outage 4085) [arriving] outageStart).get outage_arrived

theorem outageArrived_run :
    run (loop outage 4085) [arriving] outageStart = some outageArrived :=
  (Option.some_get outage_arrived).symm

theorem outageArrived_intact : Intact 4085 outageArrived.card := by
  have hrun := outageArrived_run
  rw [run_singleton, loop, step_eq, completes_arriving, if_neg Bool.false_ne_true] at hrun
  rw [← Option.some.inj hrun]
  exact .inr ⟨[], outageStart_holds⟩

/-- No entry of this name is that of a file of some length. -/
def Emptied (card : SdCard) : Prop :=
  ∀ slot < 16, nameAt card.layout [] .root16 card.volume slot = entryName →
    dirFileSize (card.volume.memory (slotBlock card.layout [] .root16 slot)) (slotIndex slot) = 0

instance (card : SdCard) : Decidable (Emptied card) :=
  inferInstanceAs (Decidable (∀ slot < 16, _ → _))

theorem Emptied.not_onVolume (hemptied : Emptied card) (htype : card.root.type = .root16)
    (hsize : card.root.fileSize = 512) (total : Int16) (locked : Bool) (site : Site) :
    ¬ OnVolume card.layout card.opening entryName (totalLine total) locked site := by
  rintro ⟨extent, count, hdirectory, hfiled⟩
  have hdirectory : Directory card.layout _ extent card.root count := hdirectory
  have hfiled : Filed card.layout extent card.root.type count card.volume entryName
      (totalLine total) locked site := hfiled
  have hcount : 512 = 32 * count := by
    have hroot := hdirectory.size
    rw [hsize] at hroot
    exact hroot
  obtain rfl : extent = [] := (hdirectory.apart htype).1
  rw [htype] at hfiled
  have hinside := hfiled.only.1
  have hname := (hfiled.only.2 site.slot hinside).mpr rfl
  have hlength := hfiled.size
  rw [← hfiled.block, hemptied site.slot (by omega) hname] at hlength
  exact totalLine_ne_nil total (List.length_eq_zero_iff.mp hlength.symm)

end SenseBox.SDuS
