import SenseBox.SD.CardLog
import SenseBox.SD.SDCard

namespace SenseBox.SD

open SenseBox.Data
open SdVolume

/-! A log file on the blocks of the card: printed to, and echoed, as on the card of files. -/

namespace SdCard

variable (io : Accesses) (rounds : Nat)

/-- Opening for writing, printing and closing: whether all of it has been done. -/
def writeTo (filepath : Text) (chunks : List Text) (card : SdCard) :
    Option (Bool × SdCard) := do
  let (file, card) ← card.openFile io rounds filepath fileWrite
  let (printed, file', card) := card.printAll io chunks file
  let (closed, card) := card.close io file'
  return (file.isSome && printed && closed, card)

def available (file : CardFile) : Int16 :=
  match file with
  | none => 0
  | some file =>
      let left := file.fileSize - file.curPosition
      if left > 0x7FFF then 0x7FFF else left.toUInt16.toInt16

def readByte (file : CardFile) (card : SdCard) : Option UInt8 × CardFile × SdCard :=
  match file with
  | none => (none, none, card)
  | some file =>
      let (bytes, volume, file) := (FatFile.read io card.layout 1).run.run (card.volume, file)
      (bytes.bind List.head?, some file, { card with volume := volume })

/-- A failed read is echoed as the byte of `-1`; `none` if the loop goes on after the given
number of polls. -/
def echo : Nat → CardFile → SdCard → Option (List UInt8 × CardFile × SdCard)
  | 0, _, _ => none
  | polls + 1, file, card =>
      if available file = 0 then some ([], file, card)
      else
        let (byte, file, card) := card.readByte io file
        (echo polls file card).map fun (echoed, file, card) =>
          (byte.getD 0xFF :: echoed, file, card)

def readBack (polls : Nat) (filepath : Text) (card : SdCard) :
    Option (List UInt8 × SdCard) := do
  let (file, card) ← card.openFile io rounds filepath fileRead
  if file.isSome then
    let (echoed, file, card) ← card.echo io polls file
    return (echoed, (card.close io file).2)
  else return ([], card)

end SdCard

variable {io : Accesses} {rounds : Nat} {layout : Layout} {opening : FatFile.Opening}
  {card after : SdCard} {files : Files} {filepath : Text} {name : Name} {oflag flags : UInt8}
  {bytes : List UInt8} {locked : Bool} {place : Nat} {handle : FatFile}

/-- Where no access fails a file that is there is opened. -/
theorem Agreed.ends_openIn_works (hworks : ¬ Broken io) (hsound : layout.Sound)
    (hrounds : layout.clusterCount.toNat ≤ rounds) (hagreed : Agreed layout opening files)
    (hcurrent : files.current = .closed) (hname : make83Name filepath = some name)
    (hentry : files.entry name = .file bytes false)
    (hexcl : oflag &&& (oCreat ||| oExcl) ≠ oCreat ||| oExcl) (htrunc : oflag &&& oTrunc = 0) :
    Ends (FatFile.openIn io layout rounds filepath oflag) opening (fun _ _ => True)
      (fun _ => False) := by
  obtain ⟨flags, chains, extent, count, handles, views, hagrees⟩ := hagreed
  have hholding := hagrees.holding
  have hsettled := hholding.settled fun name => by
    rw [hcurrent]
    exact Current.closed_ne name
  rw [hcurrent] at hholding
  obtain ⟨slot, -, hmarks, hopen, place, hview⟩ :=
    hagrees.listed (make83Name_used hname) hentry
  obtain ⟨rfl, hlocked⟩ := Prod.mk.inj hmarks
  apply (hagrees.disk.ends_openIn_listed hsound hview
    (hsettled slot hopen (Option.some_ne_none slot).symm) hrounds hname hholding.1 oflag).imp
  · exact fun _ _ _ => trivial
  · rintro failed ⟨-, -, ⟨-, hreason, -⟩ | ⟨-, -, hcut, -⟩⟩
    · dsimp only at hreason
      rw [hlocked] at hreason
      rcases hreason with hboth | ⟨hrefused, -⟩ | hbroken
      · exact hexcl hboth
      · cases hrefused
      · exact hworks hbroken
    · exact hcut htrunc

namespace SdCard

/-- Where no access fails a call that needs no cluster is answered. -/
theorem call_works (hworks : ¬ Broken io) (husable : card.Usable rounds)
    (hordered : card.Ordered (some handle) files)
    (hentry : files.entry name = .file bytes locked)
    (hcurrent : files.current = .file name flags place) {command : Command}
    (hreads : ¬ command.Writes) {answer : List UInt8} {view : FileView}
    (hcall : FileView.call flags ⟨bytes, place⟩ command = some (answer, view)) :
    ∃ volume handle', (FatFile.perform io card.layout rounds command).run.run
        (card.volume, handle) = (some (some answer), volume, handle') ∧
      Ordered { card with volume := volume } (some handle')
        (files.setEntry name (.file view.bytes locked) (.file name flags view.place)) := by
  have hfits : (FileView.mk bytes place).Fits flags command := by
    cases command with
    | write buf => exact absurd trivial hreads
    | seekSet pos => trivial
    | read nbyte => trivial
    | truncate length => trivial
    | sync => trivial
  have hexpect : files.expect card.layout (.call command) = some
      { done := some (answer, files.setEntry name (.file view.bytes locked)
          (.file name flags view.place))
        failed := files.lose name .lost } := by
    rw [Files.expect, Files.call, hcurrent]
    dsimp only
    rw [hentry]
    dsimp only
    rw [if_pos hfits, hcall]
  obtain ⟨answer', ⟨volume, handle'⟩, hrun⟩ : ∃ answer' finish,
      (FatFile.perform io card.layout rounds command).run.run (card.volume, handle) =
        (answer', finish) := ⟨_, _, rfl⟩
  have hstep := exchange_call hrun card.root
  obtain ⟨left, hanswered, hagreed⟩ :=
    Agreed.answered husable.sound husable.rounds hordered hexpect hstep
  rcases Files.answered_some hanswered with ⟨rfl, -⟩ | ⟨answer'', rfl, hdone⟩
  · have hopen : files.current ≠ .lost := by
      intro hlost
      rw [hcurrent] at hlost
      cases hlost
    rcases Agreed.hindered husable.sound husable.rounds hordered hexpect
      (Option.some_ne_none _) hopen hstep with hbroken | ⟨hwrites, -⟩
    · exact absurd hbroken hworks
    · exact absurd hwrites hreads
  · cases hdone
    exact ⟨volume, handle', hrun, hagreed⟩

theorem close_works (hworks : ¬ Broken io) (husable : card.Usable rounds)
    (hordered : card.Ordered (some handle) files)
    (hcurrent : files.current = .file name flags place) :
    (card.close io (some handle)).1 = true := by
  obtain ⟨done, ⟨volume, closed⟩, hrun⟩ : ∃ done finish,
      (FatFile.close io).run.run (card.volume, handle) = (done, finish) := ⟨_, _, rfl⟩
  rw [close, hrun]
  cases done with
  | some done => rfl
  | none =>
      have hexpect : files.expect card.layout .close = some
          ⟨some ([], { files with current := .closed }), files.lose name .lost⟩ := by
        rw [Files.expect, Files.close, hcurrent]
      have hopen : files.current ≠ .lost := by
        intro hlost
        rw [hcurrent] at hlost
        cases hlost
      exact absurd (Agreed.hindered husable.sound husable.rounds hordered hexpect
        (Option.some_ne_none _) hopen (exchange_close hrun card.root)) hworks

theorem openIn_works (hworks : ¬ Broken io) (hrest : AtRest rounds card files)
    (hname : make83Name filepath = some name) (hentry : files.entry name = .file bytes false)
    (hexcl : oflag &&& (oCreat ||| oExcl) ≠ oCreat ||| oExcl) (htrunc : oflag &&& oTrunc = 0) :
    ∃ handle opened, card.openIn io rounds filepath oflag = some (some handle, opened) ∧
      opened.layout = card.layout ∧ opened.Ordered (some handle)
        (files.setEntry name (.file bytes false) (.file name (openFlags oflag) 0)) := by
  have hends : Ends (FatFile.openIn io card.layout rounds filepath oflag) card.opening _ _ :=
    Agreed.ends_openIn_works hworks hrest.usable.sound hrest.usable.rounds hrest.ordered
      hrest.current hname hentry hexcl htrunc
  obtain ⟨done, ⟨volume, root, handle⟩, hrun, -⟩ := hends.run_returned
  obtain ⟨file, opened, hopen, hlayout, hcase⟩ := openIn_ordered hrest.usable hrest.ordered
    (Files.expect_listed hrest.current hname hentry hexcl htrunc) hrest.current
  rcases hcase with ⟨rfl, -⟩ | ⟨hfile, _, left, hdone, hordered⟩
  · rw [openIn, hrun] at hopen
    cases done with
    | none => cases hopen
    | some done => cases hopen
  · obtain ⟨handle, rfl⟩ := Option.ne_none_iff_exists'.mp hfile
    cases hdone
    exact ⟨handle, opened, hopen, hlayout, hordered⟩

/-- A file that is opened for writing stands at its end. -/
theorem openFile_append (hworks : ¬ Broken io) (hrest : AtRest rounds card files)
    (hname : make83Name filepath = some name) (hentry : files.entry name = .file bytes false) :
    ∃ handle opened left, card.openFile io rounds filepath fileWrite =
        some (some handle, opened) ∧
      opened.layout = card.layout ∧ opened.Ordered (some handle) left ∧
      left.entry name = .file bytes false ∧
      left.current = .file name (openFlags fileWrite) bytes.length := by
  obtain ⟨handle, opened, hopen, hlayout, hordered⟩ :=
    openIn_works hworks hrest hname hentry (by decide) (by decide : fileWrite &&& oTrunc = 0)
  obtain ⟨-, hlength, -⟩ := hordered.handle (Function.update_self ..) rfl
  have hcall : FileView.call (openFlags fileWrite) ⟨bytes, 0⟩ (.seekSet handle.fileSize) =
      some ([], ⟨bytes, bytes.length⟩) := by
    rw [FileView.call, if_pos hlength.le, hlength]
  have hreads : ¬ (Command.seekSet handle.fileSize).Writes := not_false
  obtain ⟨volume, handle', hrun, hordered'⟩ := call_works hworks
    (hrest.usable.of_layout hlayout) hordered (Function.update_self ..) rfl hreads hcall
  rw [FatFile.perform, run_bind_pure] at hrun
  obtain ⟨done, hseek⟩ : ∃ done, (FatFile.seekSet io opened.layout handle.fileSize).run.run
      (opened.volume, handle) = (done, volume, handle') :=
    ⟨_, Prod.ext rfl (Prod.mk.inj hrun).2⟩
  refine ⟨handle', { opened with volume := volume }, _, ?_, hlayout, hordered',
    Function.update_self .., rfl⟩
  rw [openFile, hopen, Option.map_some]
  dsimp only
  rw [if_pos (by decide : fileWrite &&& (oAppend ||| oWrite) ≠ 0), hseek]

theorem openFile_read (hworks : ¬ Broken io) (hrest : AtRest rounds card files)
    (hname : make83Name filepath = some name) (hentry : files.entry name = .file bytes false) :
    ∃ handle opened, card.openFile io rounds filepath fileRead = some (some handle, opened) ∧
      opened.layout = card.layout ∧ opened.Ordered (some handle)
        (files.setEntry name (.file bytes false) (.file name (openFlags fileRead) 0)) := by
  obtain ⟨handle, opened, hopen, hlayout, hordered⟩ :=
    openIn_works hworks hrest hname hentry (by decide) (by decide : fileRead &&& oTrunc = 0)
  refine ⟨handle, opened, ?_, hlayout, hordered⟩
  rw [openFile, hopen, Option.map_some]
  rfl

/-- What is printed comes after the bytes of the file. -/
theorem writeTo_appends (hworks : ¬ Broken io) (hrest : AtRest rounds card files)
    (hname : make83Name filepath = some name) (hentry : files.entry name = .file bytes false)
    {chunks : List Text} (hfits : bytes.length + chunks.flatten.length < 2 ^ 32)
    (hdone : card.writeTo io rounds filepath chunks = some (true, after)) :
    ∃ left, AtRest rounds after left ∧
      left.entry name = .file (bytes ++ chunks.flatten) false := by
  obtain ⟨handle, opened, left, hopen, hlayout, hordered, hentry', hcurrent⟩ :=
    openFile_append hworks hrest hname hentry
  rw [writeTo, hopen, Option.bind_eq_bind, Option.bind_some] at hdone
  obtain ⟨hall, rfl⟩ := Prod.mk.inj (Option.some.inj hdone)
  obtain ⟨hprint, hclose⟩ := Bool.and_eq_true_iff.mp hall
  obtain ⟨left', hrest', hentry'', -⟩ := printed_closed (hrest.usable.of_layout hlayout)
    hordered hentry' hcurrent (by decide) (by decide) hfits hprint hclose
  exact ⟨left', hrest', hentry''⟩

/-- Where there is no file, one is made of what is printed. -/
theorem writeTo_creates (hrest : AtRest rounds card files)
    (hname : make83Name filepath = some name) (hentry : files.entry name = .absent)
    (hroom : dirEntrySize * files.room card.layout < 2 ^ 32)
    {chunks : List Text} (hfits : chunks.flatten.length < 2 ^ 32)
    (hdone : card.writeTo io rounds filepath chunks = some (true, after)) :
    ∃ left, AtRest rounds after left ∧ left.entry name = .file chunks.flatten false := by
  obtain ⟨file, opened, hopen, hlayout, hnew⟩ :=
    openFile_new hrest.usable hrest.ordered hrest.current hname hentry hroom
  rw [writeTo, hopen, Option.bind_eq_bind, Option.bind_some] at hdone
  obtain ⟨hall, rfl⟩ := Prod.mk.inj (Option.some.inj hdone)
  obtain ⟨hboth, hclose⟩ := Bool.and_eq_true_iff.mp hall
  obtain ⟨hsome, hprint⟩ := Bool.and_eq_true_iff.mp hboth
  obtain ⟨handle, rfl⟩ := Option.isSome_iff_exists.mp hsome
  obtain ⟨left, hordered, hempty, hcurrent, -⟩ := hnew handle rfl
  obtain ⟨left', hrest', hentry', -⟩ := printed_closed (hrest.usable.of_layout hlayout)
    hordered hempty hcurrent (by decide) (by decide)
    (by rwa [List.length_nil, Nat.zero_add]) hprint hclose
  exact ⟨left', hrest', hentry'⟩

/-- Where no access fails the rest of the file is echoed. -/
theorem echo_rest (hworks : ¬ Broken io) {polls : Nat} (husable : card.Usable rounds)
    (hordered : card.Ordered (some handle) files)
    (hentry : files.entry name = .file bytes locked)
    (hcurrent : files.current = .file name flags place) (hread : flags &&& oRead ≠ 0)
    (hplace : place ≤ bytes.length) (hpolls : bytes.length < place + polls) :
    ∃ handle' echoed left,
      card.echo io polls (some handle) = some (bytes.drop place, some handle', echoed) ∧
      echoed.layout = card.layout ∧ echoed.Ordered (some handle') left ∧
      left.entry name = .file bytes locked ∧
      left.current = .file name flags bytes.length := by
  induction polls generalizing card handle files place with
  | zero => omega
  | succ polls ih =>
      obtain ⟨-, hlength, hposition⟩ := hordered.handle hentry hcurrent
      have hdone : available (some handle) = 0 ↔ place = bytes.length := by
        rw [← hlength, ← hposition, UInt32.toNat_inj, @eq_comm UInt32, ← sub_eq_zero_iff]
        exact clipped_eq_zero (handle.fileSize - handle.curPosition)
      rw [echo]
      rcases Nat.eq_or_lt_of_le hplace with rfl | hinside
      · rw [if_pos (hdone.mpr rfl), List.drop_length]
        exact ⟨handle, card, files, rfl, rfl, hordered, hentry, hcurrent⟩
      · have hcall : FileView.call flags ⟨bytes, place⟩ (.read 1) =
            some ([bytes[place]], ⟨bytes, place + 1⟩) := by
          rw [FileView.call, if_neg hread]
          dsimp only
          rw [List.drop_eq_getElem_cons hinside]
          rfl
        have hreads : ¬ (Command.read 1).Writes := not_false
        obtain ⟨volume, handle', hrun, hordered'⟩ :=
          call_works hworks husable hordered hentry hcurrent hreads hcall
        rw [FatFile.perform, run_bind_pure] at hrun
        obtain ⟨hbytes, hmoved⟩ := Prod.mk.inj hrun
        have hbyte : card.readByte io (some handle) =
            (some bytes[place], some handle', { card with volume := volume }) := by
          obtain ⟨bytes', hread', hsame⟩ := Option.map_eq_some_iff.mp hbytes
          cases hsame
          have hrun' : (FatFile.read io card.layout 1).run.run (card.volume, handle) =
              (some [bytes[place]], volume, handle') := Prod.ext hread' hmoved
          rw [readByte, hrun']
          rfl
        have husable' : Usable rounds { card with volume := volume } :=
          husable.of_layout rfl
        obtain ⟨handle'', echoed, left, hecho, hlayout, hordered'', hentry', hcurrent'⟩ :=
          ih husable' hordered' (Function.update_self ..) rfl (Nat.succ_le_of_lt hinside)
            (by rwa [Nat.succ_add_eq_add_succ])
        refine ⟨handle'', echoed, left, ?_, hlayout, hordered'', hentry', hcurrent'⟩
        rw [if_neg (mt hdone.mp hinside.ne), hbyte, List.drop_eq_getElem_cons hinside]
        dsimp only
        rw [hecho]
        rfl

/-- The whole file is echoed, and stays as it is. -/
theorem readBack_shows (hworks : ¬ Broken io) (hrest : AtRest rounds card files)
    (hname : make83Name filepath = some name) (hentry : files.entry name = .file bytes false)
    {polls : Nat} (hpolls : bytes.length < polls) :
    ∃ after left, card.readBack io rounds polls filepath = some (bytes, after) ∧
      AtRest rounds after left ∧ left.entry name = .file bytes false := by
  obtain ⟨handle, opened, hopen, hlayout, hordered⟩ :=
    openFile_read hworks hrest hname hentry
  have husable := hrest.usable.of_layout hlayout
  obtain ⟨handle', echoed, left, hecho, hlayout', hordered', hentry', hcurrent⟩ :=
    echo_rest hworks husable hordered (Function.update_self ..) rfl (by decide)
      (Nat.zero_le _) (by rwa [Nat.zero_add])
  have husable' := husable.of_layout hlayout'
  obtain ⟨after, hclose, hlayout'', hordered''⟩ := close_ordered husable' hordered' hcurrent
    (close_works hworks husable' hordered' hcurrent)
  refine ⟨after, { left with current := .closed }, ?_,
    ⟨husable'.of_layout hlayout'', hordered'', rfl⟩, hentry'⟩
  rw [readBack, hopen, Option.bind_eq_bind, Option.bind_some]
  dsimp only [Option.isSome_some]
  rw [if_pos rfl, hecho, Option.bind_eq_bind, Option.bind_some, List.drop_zero]
  dsimp only
  rw [hclose]
  rfl

end SdCard

/-! The same on the card of files. -/

/-- The file has the same bytes on both cards. -/
structure SameFile (rounds : Nat) (name : Name) (bytes : List UInt8) (card : SdCard)
    (volume : Volume) : Prop where
  card : ∃ files, SdCard.AtRest rounds card files ∧ files.entry name = .file bytes false
  volume : Holds volume name bytes

/-- There is no such file on either card, and room for its entry on both. -/
structure NoFile (rounds : Nat) (name : Name) (card : SdCard) (volume : Volume) :
    Prop where
  card : ∃ files, SdCard.AtRest rounds card files ∧ files.entry name = .absent ∧
    dirEntrySize * files.room card.layout < 2 ^ 32
  volume : Vacant volume name

variable {volume : Volume} {chunks : List Text}

theorem writeTo_refines (hworks : ¬ Broken io) (hpath : RootPath filepath name)
    (hsame : SameFile rounds name bytes card volume)
    (hfits : bytes.length + chunks.flatten.length < 2 ^ 32)
    (hdone : card.writeTo io rounds filepath chunks = some (true, after)) :
    SameFile rounds name (bytes ++ chunks.flatten) after
      (writeTo .ok filepath chunks volume) where
  card := by
    obtain ⟨files, hrest, hentry⟩ := hsame.card
    exact SdCard.writeTo_appends hworks hrest hpath.short hentry hfits hdone
  volume := Usable.writeTo hpath (.inl hsame.volume) hfits

theorem writeTo_refines_new (hpath : RootPath filepath name)
    (hnone : NoFile rounds name card volume) (hfits : chunks.flatten.length < 2 ^ 32)
    (hdone : card.writeTo io rounds filepath chunks = some (true, after)) :
    SameFile rounds name chunks.flatten after (writeTo .ok filepath chunks volume) where
  card := by
    obtain ⟨files, hrest, hentry, hroom⟩ := hnone.card
    exact SdCard.writeTo_creates hrest hpath.short hentry hroom hfits hdone
  volume := Usable.writeTo hpath (.inr ⟨rfl, hnone.volume⟩)
    (by rwa [List.length_nil, Nat.zero_add])

/-- Both read-backs show the same bytes. -/
theorem readBack_refines (hworks : ¬ Broken io) (hpath : RootPath filepath name)
    (hsame : SameFile rounds name bytes card volume) {readIo : ReadIo} (hok : readIo.Ok)
    {polls : Nat} (hpolls : 2 ^ 32 ≤ polls) :
    readBack readIo filepath volume = some (bytes, volume) ∧
      ∃ after, card.readBack io rounds polls filepath = some (bytes, after) ∧
        SameFile rounds name bytes after volume := by
  obtain ⟨files, hrest, hentry⟩ := hsame.card
  obtain ⟨after, left, hecho, hrest', hentry'⟩ := SdCard.readBack_shows hworks hrest
    hpath.short hentry (Nat.lt_of_lt_of_le hsame.volume.length_lt hpolls)
  exact ⟨hsame.volume.readBack hpath hok, after, hecho, ⟨left, hrest', hentry'⟩, hsame.volume⟩

end SenseBox.SD
