import SenseBox.SD.SessionRun

namespace SenseBox.SD

open SenseBox.Data
open SdVolume

/-! The global object `SD` with its volume and its root directory, and the files that it
opens, on the blocks of the card.  A path without a slash names a file of the root
directory: `getParentDir` returns that one for it, and `walkPath` calls its callback once. -/

structure SdCard where
  layout : Layout
  volume : SdVolume
  root : FatFile

/-- A `File` points to a handle, or it is null. -/
abbrev CardFile := Option FatFile

namespace SdCard

variable (io : Accesses) (rounds : Nat)

/-- The first partition is tried, and then a card without a partition table. -/
def initVolume (volume : SdVolume) : Option (Option Layout) × SdVolume :=
  let (found, volume) := (init io 1).run.run volume
  if found.isSome then (found, volume) else (init io 0).run.run volume

/-- `none` is that the size of the root directory is counted on and on, and the inner one
that `SD.begin` returns false. -/
def begin (cardInit : Bool) (volume : SdVolume) : Option (Option SdCard) :=
  if !cardInit then some none
  else
    let (found, volume) := initVolume io (powerOn volume)
    match found with
    | some (some layout) =>
        let (done, volume, root) :=
          (FatFile.openRoot io layout rounds).run.run (volume, FatFile.closedFile)
        match done with
        | none => some none
        | some none => none
        | some (some _) => some (some ⟨layout, volume, root⟩)
    | _ => some none

variable (card : SdCard)

def opening : FatFile.Opening := (card.volume, card.root, FatFile.closedFile)

/-- A handle of its own for the file of this name: `none` is that a chain goes on and on,
and the inner one that the file cannot be opened. -/
def openIn (fileName : Text) (oflag : UInt8) : Option (CardFile × SdCard) :=
  let (done, volume, root, file) :=
    (FatFile.openIn io card.layout rounds fileName oflag).run.run card.opening
  let card := { card with volume := volume, root := root }
  match done with
  | none => some (none, card)
  | some none => none
  | some (some _) => some (some file, card)

/-- The handle of a file that is opened for writing is moved to the end, whether or not that
succeeds. -/
def openFile (fileName : Text) (mode : UInt8) : Option (CardFile × SdCard) :=
  (card.openIn io rounds fileName mode).map fun (file, card) =>
    match file with
    | none => (none, card)
    | some file =>
        if mode &&& (oAppend ||| oWrite) ≠ 0 then
          let (_, volume, file) :=
            (FatFile.seekSet io card.layout file.fileSize).run.run (card.volume, file)
          (some file, { card with volume := volume })
        else (some file, card)

def remove (fileName : Text) : Option (Bool × SdCard) :=
  let (done, volume, root) :=
    (FatFile.removeIn io card.layout rounds fileName).run.run (card.volume, card.root)
  let card := { card with volume := volume, root := root }
  match done with
  | none => some (false, card)
  | some none => none
  | some (some _) => some (true, card)

/-- The results are whether all has been written, and whether the file has been closed. -/
def write (buf : Text) (file : CardFile) : Bool × CardFile × SdCard :=
  match file with
  | none => (false, none, card)
  | some file =>
      let (done, volume, file) :=
        (FatFile.write io card.layout buf).run.run (card.volume, file)
      (done.isSome, some file, { card with volume := volume })

def printAll (card : SdCard) : List Text → CardFile → Bool × CardFile × SdCard
  | [], file => (true, file, card)
  | buf :: rest, file =>
      let (first, file, card) := card.write io buf file
      let (others, file, card) := printAll card rest file
      (first && others, file, card)

def close (file : CardFile) : Bool × SdCard :=
  match file with
  | none => (false, card)
  | some file =>
      let (done, volume, _) := (FatFile.close io).run.run (card.volume, file)
      (done.isSome, { card with volume := volume })

def existsIn (fileName : Text) : Option (Bool × SdCard) :=
  (card.openIn io rounds fileName oRdonly).map fun (child, card) =>
    (child.isSome, (card.close io child).2)

end SdCard

/-! The requests of a session that these calls are. -/

section Exchanges

variable {layout : Layout} {io : Accesses} {rounds : Nat} {start finish : FatFile.Opening}
  {volume volume' : SdVolume} {root root' file file' : FatFile} {fileName : Text}
  {oflag : UInt8} {done : Option (Option Unit)} {closed : Option Unit} {command : Command}
  {answer : Option (Option (List UInt8))} {sites : Name → Option Site} {files : Files}

theorem exchange_openIn
    (hrun : (FatFile.openIn io layout rounds fileName oflag).run.run start = (done, finish)) :
    FatFile.exchange io layout rounds
      ⟨.openIn fileName oflag, done.map (Option.map fun _ => [])⟩ start = some finish := by
  rw [FatFile.exchange, observe_some_iff]
  cases done with
  | none => exact run_bind_none hrun
  | some done => exact run_bind_some hrun

theorem exchange_removeIn
    (hrun : (FatFile.removeIn io layout rounds fileName).run.run (volume, root) =
      (done, volume', root')) (file : FatFile) :
    FatFile.exchange io layout rounds
      ⟨.removeIn fileName, done.map (Option.map fun _ => [])⟩ (volume, root, file) =
        some (volume', root', file) := by
  have hdir : (FatFile.onDirFile (FatFile.removeIn io layout rounds fileName)).run.run
      (volume, root, file) = (done, volume', root', file) := by
    rw [FatFile.onDirFile, run_onPart, hrun]
  rw [FatFile.exchange, observe_some_iff]
  cases done with
  | none => exact run_bind_none hdir
  | some done => exact run_bind_some hdir

theorem exchange_call
    (hrun : (FatFile.perform io layout rounds command).run.run (volume, file) =
      (answer, volume', file')) (root : FatFile) :
    FatFile.exchange io layout rounds ⟨.call command, answer⟩ (volume, root, file) =
      some (volume', root, file') := by
  have hfile : (FatFile.onFile (FatFile.perform io layout rounds command)).run.run
      (volume, root, file) = (answer, volume', root, file') := by
    rw [FatFile.onFile, run_onPart, hrun]
  rw [FatFile.exchange, observe_some_iff]
  exact hfile

theorem exchange_close
    (hrun : (FatFile.close io).run.run (volume, file) = (closed, volume', file'))
    (root : FatFile) :
    FatFile.exchange io layout rounds ⟨.close, closed.map fun _ => some []⟩
      (volume, root, file) = some (volume', root, file') := by
  have hfile : (FatFile.onFile (FatFile.close io)).run.run (volume, root, file) =
      (closed, volume', root, file') := by
    rw [FatFile.onFile, run_onPart, hrun]
  rw [FatFile.exchange, observe_some_iff]
  cases closed with
  | none => exact run_bind_none hfile
  | some done => exact run_bind_some hfile

/-- A handle that is closed may be any that is. -/
theorem AgreedAt.of_closed (hagreed : AgreedAt layout sites (volume, root, file) files)
    (hcurrent : files.current = .closed) :
    AgreedAt layout sites (volume, root, FatFile.closedFile) files := by
  obtain ⟨flags, chains, extent, count, handles, views, hdisk, hslots, hspare, hlists,
    hholding, hpinned⟩ := hagreed
  refine ⟨flags, chains, extent, count, handles, views, hdisk, hslots, hspare, hlists, ?_,
    hpinned⟩
  rw [hcurrent] at hholding ⊢
  exact ⟨rfl, hholding.2⟩

end Exchanges

theorem Files.answered_some {expected : Expected} {left : Files}
    {answer : Option (Option (List UInt8))}
    (hanswered : Files.answered answer expected = some left) :
    answer = none ∧ left = expected.failed ∨
      ∃ bytes, answer = some (some bytes) ∧ expected.done = some (bytes, left) := by
  unfold Files.answered at hanswered
  split at hanswered
  · cases hanswered
    exact .inl ⟨rfl, rfl⟩
  · cases hanswered
  · next hdone =>
    split at hanswered
    · next hbytes =>
      cases hanswered
      exact .inr ⟨_, congrArg some hbytes, hdone⟩
    · cases hanswered

/-- Opening a file that is there, where nothing is to be created or cut. -/
theorem Files.expect_listed {layout : Layout} {files : Files} {fileName : Text}
    {oflag : UInt8} {name : Name} {bytes : List UInt8} (hcurrent : files.current = .closed)
    (hname : make83Name fileName = some name) (hentry : files.entry name = .file bytes false)
    (hexcl : oflag &&& (oCreat ||| oExcl) ≠ oCreat ||| oExcl) (htrunc : oflag &&& oTrunc = 0) :
    files.expect layout (.openIn fileName oflag) = some
      { done := some ([], files.setEntry name (.file bytes false)
          (.file name (openFlags oflag) 0))
        failed := files } := by
  have hallowed : ¬ (oflag &&& (oCreat ||| oExcl) = oCreat ||| oExcl ∨ Refuses false oflag) := by
    rintro (hboth | ⟨hlocked, -⟩)
    · exact hexcl hboth
    · cases hlocked
  have hopened : (FileView.opened oflag ⟨bytes, 0⟩).bytes = bytes := by
    rw [FileView.opened, if_neg (not_not_intro htrunc)]
  rw [Files.expect_openIn (by rw [hcurrent]; exact fun name => Current.closed_ne name) hname,
    hentry]
  dsimp only
  rw [Files.openFile, if_neg hallowed, if_neg fun hboth => hboth.1 htrunc, hopened,
    if_neg (not_not_intro htrunc)]

namespace SdCard

variable {io : Accesses} {rounds : Nat} {card : SdCard} {files : Files} {expected : Expected}
  {fileName : Text} {oflag : UInt8} {name : Name} {bytes : List UInt8}

/-- The layout is one that the library can use, and the loops over a chain get to its end. -/
structure Usable (rounds : Nat) (card : SdCard) : Prop where
  sound : card.layout.Sound
  rounds : card.layout.clusterCount.toNat ≤ rounds

theorem Usable.of_layout {rounds : Nat} {card after : SdCard} (husable : card.Usable rounds)
    (hlayout : after.layout = card.layout) : after.Usable rounds where
  sound := by
    rw [hlayout]
    exact husable.sound
  rounds := by
    rw [hlayout]
    exact husable.rounds

def Ordered (card : SdCard) (file : CardFile) (files : Files) : Prop :=
  Agreed card.layout (card.volume, card.root, file.getD FatFile.closedFile) files

/-- The card is in order, and no file is open. -/
structure AtRest (rounds : Nat) (card : SdCard) (files : Files) : Prop where
  usable : card.Usable rounds
  ordered : card.Ordered none files
  current : files.current = .closed

theorem openIn_ordered (husable : card.Usable rounds) (hordered : card.Ordered none files)
    (hexpect : files.expect card.layout (.openIn fileName oflag) = some expected)
    (hclosed : expected.failed.current = .closed) :
    ∃ file after, card.openIn io rounds fileName oflag = some (file, after) ∧
      after.layout = card.layout ∧
      (file = none ∧ after.Ordered none expected.failed ∨
        file ≠ none ∧ ∃ bytes left, expected.done = some (bytes, left) ∧
          after.Ordered file left) := by
  obtain ⟨done, ⟨volume, root, file⟩, hrun⟩ : ∃ done finish,
      (FatFile.openIn io card.layout rounds fileName oflag).run.run card.opening =
        (done, finish) := ⟨_, _, rfl⟩
  obtain ⟨left, hanswered, hagreed⟩ := Agreed.answered husable.sound husable.rounds hordered
    hexpect (exchange_openIn hrun)
  rw [SdCard.openIn, hrun]
  rcases Files.answered_some hanswered with ⟨hnone, rfl⟩ | ⟨bytes, hbytes, hdone⟩
  · rw [Option.map_eq_none_iff.mp hnone]
    exact ⟨none, _, rfl, rfl, .inl ⟨rfl, hagreed.of_closed hclosed⟩⟩
  · obtain ⟨answer, rfl, hanswer⟩ := Option.map_eq_some_iff.mp hbytes
    obtain ⟨-, rfl, -⟩ := Option.map_eq_some_iff.mp hanswer
    exact ⟨some file, _, rfl, rfl, .inr ⟨Option.some_ne_none _, bytes, left, hdone, hagreed⟩⟩

theorem remove_ordered (husable : card.Usable rounds) (hordered : card.Ordered none files)
    (hexpect : files.expect card.layout (.removeIn fileName) = some expected) :
    ∃ removed after, card.remove io rounds fileName = some (removed, after) ∧
      after.layout = card.layout ∧
      (removed = false ∧ after.Ordered none expected.failed ∨
        removed = true ∧ ∃ bytes left, expected.done = some (bytes, left) ∧
          after.Ordered none left) := by
  obtain ⟨done, ⟨volume, root⟩, hrun⟩ : ∃ done finish,
      (FatFile.removeIn io card.layout rounds fileName).run.run (card.volume, card.root) =
        (done, finish) := ⟨_, _, rfl⟩
  obtain ⟨left, hanswered, hagreed⟩ := Agreed.answered husable.sound husable.rounds hordered
    hexpect (exchange_removeIn hrun FatFile.closedFile)
  rw [SdCard.remove, hrun]
  rcases Files.answered_some hanswered with ⟨hnone, rfl⟩ | ⟨bytes, hbytes, hdone⟩
  · rw [Option.map_eq_none_iff.mp hnone]
    exact ⟨false, _, rfl, rfl, .inl ⟨rfl, hagreed⟩⟩
  · obtain ⟨answer, rfl, hanswer⟩ := Option.map_eq_some_iff.mp hbytes
    obtain ⟨-, rfl, -⟩ := Option.map_eq_some_iff.mp hanswer
    exact ⟨true, _, rfl, rfl, .inr ⟨rfl, bytes, left, hdone, hagreed⟩⟩

theorem openIn_run {handle : FatFile} {after : SdCard}
    (hopen : card.openIn io rounds fileName oflag = some (some handle, after)) :
    (FatFile.openIn io card.layout rounds fileName oflag).run.run card.opening =
      (some (some ()), after.volume, after.root, handle) := by
  obtain ⟨done, ⟨volume, root, file⟩, hrun⟩ : ∃ done finish,
      (FatFile.openIn io card.layout rounds fileName oflag).run.run card.opening =
        (done, finish) := ⟨_, _, rfl⟩
  rw [SdCard.openIn, hrun] at hopen
  cases done with
  | none => cases hopen
  | some done =>
      cases done with
      | none => cases hopen
      | some done =>
          cases hopen
          exact hrun

theorem openIn_run_none {after : SdCard}
    (hopen : card.openIn io rounds fileName oflag = some (none, after)) :
    after.layout = card.layout ∧ ∃ file,
      (FatFile.openIn io card.layout rounds fileName oflag).run.run card.opening =
        (none, after.volume, after.root, file) := by
  obtain ⟨done, ⟨volume, root, file⟩, hrun⟩ : ∃ done finish,
      (FatFile.openIn io card.layout rounds fileName oflag).run.run card.opening =
        (done, finish) := ⟨_, _, rfl⟩
  rw [SdCard.openIn, hrun] at hopen
  cases done with
  | none =>
      cases hopen
      exact ⟨rfl, file, hrun⟩
  | some done =>
      cases done with
      | none => cases hopen
      | some done => cases hopen

theorem openFile_unopened {mode : UInt8} {after : SdCard}
    (hopen : card.openFile io rounds fileName mode = some (none, after)) :
    card.openIn io rounds fileName mode = some (none, after) := by
  obtain ⟨⟨file, opened⟩, hopened, hmoved⟩ := Option.map_eq_some_iff.mp hopen
  cases file with
  | none =>
      cases hmoved
      exact hopened
  | some handle =>
      dsimp only at hmoved
      split at hmoved
      · cases hmoved
      · cases hmoved

theorem remove_run_none {after : SdCard}
    (hremove : card.remove io rounds fileName = some (false, after)) :
    after.layout = card.layout ∧
      (FatFile.removeIn io card.layout rounds fileName).run.run (card.volume, card.root) =
        (none, after.volume, after.root) := by
  obtain ⟨done, ⟨volume, root⟩, hrun⟩ : ∃ done finish,
      (FatFile.removeIn io card.layout rounds fileName).run.run (card.volume, card.root) =
        (done, finish) := ⟨_, _, rfl⟩
  rw [SdCard.remove, hrun] at hremove
  cases done with
  | none =>
      cases hremove
      exact ⟨rfl, hrun⟩
  | some done =>
      cases done with
      | none => cases hremove
      | some done => cases hremove

theorem remove_unopened {after : SdCard}
    (hopen : card.openIn io rounds fileName oWrite = some (none, after)) :
    card.remove io rounds fileName = some (false, after) := by
  obtain ⟨hlayout, file, hrun⟩ := openIn_run_none hopen
  have hremove : (FatFile.removeIn io card.layout rounds fileName).run.run
      (card.volume, card.root) = (none, after.volume, after.root) :=
    congrArg (fun result : Option (Option Unit) × FatFile.Opening =>
      (result.1, result.2.1, result.2.2.1)) (run_bind_none hrun)
  rw [SdCard.remove, hremove]
  dsimp only
  rw [← hlayout]

theorem write_ordered (husable : card.Usable rounds) {handle : FatFile} {buf : Text}
    {flags : UInt8} {place : Nat} {locked : Bool}
    (hordered : card.Ordered (some handle) files)
    (hentry : files.entry name = .file bytes locked)
    (hcurrent : files.current = .file name flags place)
    (hwrite : flags &&& oWrite ≠ 0) (happend : flags &&& oAppend = 0)
    (hsize : place + buf.length < 2 ^ 32)
    (hdone : (card.write io buf (some handle)).1 = true) :
    ∃ handle' after, card.write io buf (some handle) = (true, some handle', after) ∧
      after.layout = card.layout ∧
      after.Ordered (some handle') (files.setEntry name
        (.file (put bytes place buf) locked) (.file name flags (place + buf.length))) := by
  obtain ⟨done, ⟨volume, file⟩, hrun⟩ : ∃ done finish,
      (FatFile.write io card.layout buf).run.run (card.volume, handle) = (done, finish) :=
    ⟨_, _, rfl⟩
  have hfits : (FileView.mk bytes place).Fits flags (.write buf) := by
    rw [FileView.Fits, FileView.start, if_neg (not_not_intro happend)]
    exact hsize
  have hcall : FileView.call flags ⟨bytes, place⟩ (.write buf) =
      some ([], ⟨put bytes place buf, place + buf.length⟩) := by
    rw [FileView.call, if_neg hwrite, FileView.start, if_neg (not_not_intro happend)]
  have hexpect : files.expect card.layout (.call (.write buf)) = some
      { done := some ([], files.setEntry name (.file (put bytes place buf) locked)
          (.file name flags (place + buf.length)))
        failed := files.lose name .lost } := by
    rw [Files.expect, Files.call, hcurrent]
    dsimp only
    rw [hentry]
    dsimp only
    rw [if_pos hfits, hcall]
  rw [SdCard.write, hrun] at hdone ⊢
  cases done with
  | none => cases hdone
  | some done =>
      have hperform : (FatFile.perform io card.layout rounds (.write buf)).run.run
          (card.volume, handle) = (some (some []), volume, file) := run_bind_some hrun
      obtain ⟨left, hanswered, hagreed⟩ := Agreed.answered husable.sound husable.rounds
        hordered hexpect (exchange_call hperform card.root)
      cases hanswered
      exact ⟨file, _, rfl, rfl, hagreed⟩

theorem close_ordered (husable : card.Usable rounds) {handle : FatFile} {flags : UInt8}
    {place : Nat} (hordered : card.Ordered (some handle) files)
    (hcurrent : files.current = .file name flags place)
    (hdone : (card.close io (some handle)).1 = true) :
    ∃ after, card.close io (some handle) = (true, after) ∧ after.layout = card.layout ∧
      after.Ordered none { files with current := .closed } := by
  obtain ⟨done, ⟨volume, file⟩, hrun⟩ : ∃ done finish,
      (FatFile.close io).run.run (card.volume, handle) = (done, finish) := ⟨_, _, rfl⟩
  have hexpect : files.expect card.layout .close = some
      ⟨some ([], { files with current := .closed }), files.lose name .lost⟩ := by
    rw [Files.expect, Files.close, hcurrent]
  rw [SdCard.close, hrun] at hdone ⊢
  cases done with
  | none => cases hdone
  | some done =>
      obtain ⟨left, hanswered, hagreed⟩ := Agreed.answered husable.sound husable.rounds
        hordered hexpect (exchange_close hrun card.root)
      cases hanswered
      exact ⟨_, rfl, rfl, hagreed.of_closed rfl⟩

/-- After a file has been closed nothing waits to be written back. -/
theorem close_clean {file : CardFile} (hdone : (card.close io file).1 = true) :
    (card.close io file).2.volume.cacheDirty = false := by
  have hflush : ∀ opened : FatFile.Opened,
      Ends (FatFile.onVolume (cacheFlush io)) opened
        (fun _ after => after.1.cacheDirty = false) (fun _ => True) := by
    rintro ⟨volume, handle⟩
    rw [ends_onVolume, cacheFlush, ends_bind, ends_get]
    cases hdirty : volume.cacheDirty with
    | false => exact hdirty
    | true =>
        rw [if_pos rfl, ends_bind]
        refine .of_forall _ (fun _ _ => ?_) fun _ => trivial
        exact ends_bind.mpr (.of_forall _ (fun _ _ => rfl) fun _ => trivial)
  cases file with
  | none => cases hdone
  | some handle =>
      have hends : Ends (FatFile.close io) (card.volume, handle)
          (fun _ after => after.1.cacheDirty = false) (fun _ => True) := by
        rw [FatFile.close, ends_bind]
        have hsync : Ends (FatFile.sync io) (card.volume, handle)
            (fun _ after => after.1.cacheDirty = false) (fun _ => True) := by
          rw [FatFile.sync, ends_bind, ends_getFile]
          split
          · trivial
          · split
            · refine ends_bind.mpr (.of_forall _ (fun _ _ => ?_) fun _ => trivial)
              refine ends_bind.mpr (.of_forall _ (fun _ _ => ?_) fun _ => trivial)
              refine ends_bind.mpr (.of_forall _ (fun _ _ => hflush _) fun _ => trivial)
            · exact hflush _
        exact hsync.imp (fun _ _ hclean => hclean) fun _ _ => trivial
      obtain ⟨done, ⟨volume, closed⟩, hrun⟩ : ∃ done finish,
          (FatFile.close io).run.run (card.volume, handle) = (done, finish) := ⟨_, _, rfl⟩
      unfold Ends at hends
      rw [close, hrun] at hdone ⊢
      rw [hrun] at hends
      cases done with
      | none => cases hdone
      | some done => exact hends

theorem put_length (bytes buf : List UInt8) : put bytes bytes.length buf = bytes ++ buf := by
  rw [put, List.take_length, List.drop_eq_nil_of_le (Nat.le_add_right _ _), List.append_nil]

/-- What is printed is appended to a file that stands at its end. -/
theorem printAll_ordered (husable : card.Usable rounds) {handle : FatFile} {flags : UInt8}
    {locked : Bool} (hordered : card.Ordered (some handle) files)
    (hentry : files.entry name = .file bytes locked)
    (hcurrent : files.current = .file name flags bytes.length)
    (hwrite : flags &&& oWrite ≠ 0) (happend : flags &&& oAppend = 0) {pieces : List Text}
    (hsize : bytes.length + pieces.flatten.length < 2 ^ 32)
    (hdone : (card.printAll io pieces (some handle)).1 = true) :
    ∃ handle' after left, card.printAll io pieces (some handle) = (true, some handle', after) ∧
      after.layout = card.layout ∧ after.Ordered (some handle') left ∧
      left.entry name = .file (bytes ++ pieces.flatten) locked ∧
      left.current = .file name flags (bytes ++ pieces.flatten).length ∧
      left.slots = files.slots := by
  induction pieces generalizing card handle files bytes with
  | nil =>
      rw [List.flatten_nil, List.append_nil]
      exact ⟨handle, card, files, rfl, rfl, hordered, hentry, hcurrent, rfl⟩
  | cons buf rest ih =>
      rw [List.flatten_cons, List.length_append] at hsize
      rw [printAll] at hdone ⊢
      have hfirst : (card.write io buf (some handle)).1 = true :=
        (Bool.and_eq_true_iff.mp hdone).1
      obtain ⟨handle', after, hrun, hlayout, hordered'⟩ := write_ordered husable hordered hentry
        hcurrent hwrite happend (by omega) hfirst
      rw [put_length, ← List.length_append] at hordered'
      rw [hrun] at hdone ⊢
      have husable' := husable.of_layout hlayout
      obtain ⟨handle'', after', left, hrun', hlayout', hordered'', hentry', hcurrent', hslots⟩ :=
        ih husable' hordered' (Function.update_self ..) rfl
          (by rw [List.length_append]; omega) hdone
      rw [List.append_assoc] at hentry' hcurrent'
      refine ⟨handle'', after', left, ?_, hlayout'.trans hlayout, hordered'', hentry',
        hcurrent', hslots⟩
      dsimp only
      rw [hrun']
      rfl

/-- The pieces have been printed to a file that stands at its end, and it has been closed. -/
theorem printed_closed (husable : card.Usable rounds) {handle : FatFile} {flags : UInt8}
    {locked : Bool} (hordered : card.Ordered (some handle) files)
    (hentry : files.entry name = .file bytes locked)
    (hcurrent : files.current = .file name flags bytes.length)
    (hwrite : flags &&& oWrite ≠ 0) (happend : flags &&& oAppend = 0) {pieces : List Text}
    (hsize : bytes.length + pieces.flatten.length < 2 ^ 32)
    (hprint : (card.printAll io pieces (some handle)).1 = true)
    (hclose : ((card.printAll io pieces (some handle)).2.2.close io
      (card.printAll io pieces (some handle)).2.1).1 = true) :
    ∃ left, AtRest rounds ((card.printAll io pieces (some handle)).2.2.close io
        (card.printAll io pieces (some handle)).2.1).2 left ∧
      left.entry name = .file (bytes ++ pieces.flatten) locked ∧
      left.slots = files.slots := by
  obtain ⟨handle', printed, left, hprinted, hlayout, hordered', hentry', hcurrent', hslots⟩ :=
    printAll_ordered husable hordered hentry hcurrent hwrite happend hsize hprint
  rw [hprinted] at hclose ⊢
  have husable' := husable.of_layout hlayout
  obtain ⟨closed, hclosed, hlayout', hordered''⟩ :=
    close_ordered husable' hordered' hcurrent' hclose
  rw [hclosed]
  exact ⟨_, ⟨husable'.of_layout hlayout', hordered'', rfl⟩, hentry', hslots⟩

theorem Ordered.handle {handle : FatFile} {flags : UInt8} {place : Nat} {locked : Bool}
    (hordered : card.Ordered (some handle) files)
    (hentry : files.entry name = .file bytes locked)
    (hcurrent : files.current = .file name flags place) :
    handle.type = .normal ∧ handle.fileSize.toNat = bytes.length ∧
      handle.curPosition.toNat = place := by
  obtain ⟨flags, chains, extent, count, handles, views, hagrees⟩ := hordered
  obtain ⟨_, _, _, _, _, _, _, _, _, hshows⟩ := hagrees.onVolume.current hentry hcurrent
  exact ⟨hshows.type, hshows.length.symm, hshows.place⟩

theorem run_seekSet_zero {layout : Layout} {volume : SdVolume} {file : FatFile}
    (hnormal : file.type = .normal) :
    (FatFile.seekSet io layout 0).run.run (volume, file) =
      (some (), volume, FatFile.setPosition 0 (FatFile.setCluster 0 file)) := by
  have hends : Ends (FatFile.seekSet io layout 0) (volume, file)
      (fun _ after => after = (volume, FatFile.setPosition 0 (FatFile.setCluster 0 file)))
      (fun _ => False) := by
    have hopen : ¬ (file.type = .closed ∨ (0 : UInt32) > file.fileSize) := by
      rw [hnormal]
      rintro (hclosed | hpast)
      · cases hclosed
      · exact absurd (UInt32.lt_iff_toNat_lt.mp hpast) (Nat.not_lt_zero _)
    have hroot : ¬ file.type = .root16 := by
      rw [hnormal]
      decide
    rw [FatFile.seekSet, ends_bind, ends_getFile, if_neg hopen, if_neg hroot,
      if_pos rfl]
    rfl
  obtain ⟨_, finish, hrun, rfl⟩ := hends.run_returned
  exact hrun

/-- The file that is made where there is none of the name, with the handle at its end. -/
theorem openFile_new (husable : card.Usable rounds) (hordered : card.Ordered none files)
    (hcurrent : files.current = .closed) (hname : make83Name fileName = some name)
    (hentry : files.entry name = .absent)
    (hroom : dirEntrySize * files.room card.layout < 2 ^ 32) :
    ∃ file after, card.openFile io rounds fileName fileWrite = some (file, after) ∧
      after.layout = card.layout ∧ ∀ handle, file = some handle →
        ∃ left, after.Ordered (some handle) left ∧ left.entry name = .file [] false ∧
          left.current = .file name (openFlags fileWrite) 0 ∧
          left.slots = files.room card.layout := by
  obtain ⟨grown, hgrown⟩ : ∃ grown : Files, grown =
      { files with slots := files.room card.layout, spare := false } := ⟨_, rfl⟩
  have hexpect : files.expect card.layout (.openIn fileName fileWrite) = some
      { done := some ([], grown.setEntry name (.file [] false)
          (.file name (openFlags fileWrite) 0))
        failed := grown.lose name files.current } := by
    rw [Files.expect_openIn (by rw [hcurrent]; exact fun name => Current.closed_ne name) hname,
      hentry]
    dsimp only
    rw [Files.create, if_neg (by decide), if_neg (Nat.not_le.mpr hroom), hgrown]
  obtain ⟨file, after, hopen, hlayout, hcase⟩ :=
    openIn_ordered husable hordered hexpect hcurrent
  rw [openFile, hopen]
  rcases hcase with ⟨rfl, -⟩ | ⟨hfile, bytes, left, hdone, hordered'⟩
  · exact ⟨none, after, rfl, hlayout, fun handle hhandle =>
      absurd hhandle.symm (Option.some_ne_none handle)⟩
  · obtain ⟨handle, rfl⟩ := Option.ne_none_iff_exists'.mp hfile
    cases hdone
    obtain ⟨hnormal, hlength, -⟩ := hordered'.handle (Function.update_self ..) rfl
    have hsize : handle.fileSize = 0 := UInt32.toNat_inj.mp hlength
    have hseek : (FatFile.seekSet io after.layout handle.fileSize).run.run
        (after.volume, handle) = (some (), after.volume,
          FatFile.setPosition 0 (FatFile.setCluster 0 handle)) := by
      rw [hsize]
      exact run_seekSet_zero hnormal
    dsimp only [Option.map_some]
    rw [if_pos (by decide : fileWrite &&& (oAppend ||| oWrite) ≠ 0), hseek]
    refine ⟨_, _, rfl, hlayout, ?_⟩
    intro other hother
    obtain rfl := Option.some.inj hother
    have hcall : (grown.setEntry name (.file [] false)
          (.file name (openFlags fileWrite) 0)).expect after.layout (.call (.seekSet 0)) = some
        { done := some ([], (grown.setEntry name (.file [] false)
            (.file name (openFlags fileWrite) 0)).setEntry name (.file [] false)
            (.file name (openFlags fileWrite) 0))
          failed := (grown.setEntry name (.file [] false)
            (.file name (openFlags fileWrite) 0)).lose name .lost } := by
      rw [Files.expect, Files.call]
      dsimp only [Files.setEntry]
      rw [Function.update_self]
      rfl
    have hperform : (FatFile.perform io after.layout rounds (.seekSet 0)).run.run
        (after.volume, handle) = (some (some []), after.volume,
          FatFile.setPosition 0 (FatFile.setCluster 0 handle)) := by
      rw [hsize] at hseek
      exact run_bind_some hseek
    have husable' := husable.of_layout hlayout
    obtain ⟨left, hanswered, hagreed⟩ := Agreed.answered husable'.sound husable'.rounds
      hordered' hcall (exchange_call hperform after.root)
    cases hanswered
    refine ⟨_, hagreed, Function.update_self .., rfl, ?_⟩
    rw [hgrown]
    rfl

theorem openIn_failed (husable : card.Usable rounds) (hordered : card.Ordered none files)
    (hcurrent : files.current = .closed) (hname : make83Name fileName = some name)
    (hentry : files.entry name = .file bytes false)
    (hexcl : oflag &&& (oCreat ||| oExcl) ≠ oCreat ||| oExcl) (htrunc : oflag &&& oTrunc = 0)
    {after : SdCard} (hopen : card.openIn io rounds fileName oflag = some (none, after)) :
    after.layout = card.layout ∧ after.Ordered none files := by
  obtain ⟨file, after', hopen', hlayout, hcase⟩ := openIn_ordered husable hordered
    (Files.expect_listed hcurrent hname hentry hexcl htrunc) hcurrent
  rw [hopen] at hopen'
  cases hopen'
  rcases hcase with ⟨-, hordered'⟩ | ⟨hfile, -⟩
  · exact ⟨hlayout, hordered'⟩
  · exact absurd rfl hfile

end SdCard

/-- The small card after it has been started. -/
def smallStarted : SdCard := ⟨smallLayout, blankVolume, FatFile.root16 smallLayout⟩

end SenseBox.SD
