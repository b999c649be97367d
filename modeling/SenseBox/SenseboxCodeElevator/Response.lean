import SenseBox.Device.WiFiClient

namespace SenseBox.SenseboxCodeElevator

open SenseBox.Data
open SenseBox.Device
open SenseBox.Device.Line

/-! The response of the server, byte by byte as it arrives. -/

/-- What a post meets: its connection, how often events are handled while the
request is written, and for how many iterations the response is awaited. -/
structure PostIo where
  connect : ConnectIo
  writes : Nat
  polls : Nat

/-- What has been printed, the client as `client.stop()` finds it, and what it
leaves. -/
structure Response where
  printed : List UInt8
  stopped : WiFiClient
  line : Line

variable (driver : Driver)

/-- The first statement of the loop. -/
def readOne (line : Line) : List UInt8 × Line :=
  let (count, line) := available driver line
  if count ≠ 0 then
    let (c, line) := read driver line
    ([c.getD 0xFF], line)
  else ([], line)

/-- The `do` loop, `none` if it goes on after the given number of iterations. -/
def waitForServerResponse : Nat → Line → Option Response
  | 0, _ => none
  | polls + 1, line =>
      let (printed, line) := readOne driver line
      let (connected, line) := line.connected driver
      if !connected then some ⟨printed, line.client, line.stop⟩
      else
        (waitForServerResponse polls line).map fun response =>
          { response with printed := printed ++ response.printed }

/-- `postFloatValue` up to the response. -/
def request (io : PostIo) (line : Line) : Line :=
  let (connected, line) := line.connect driver io.connect
  if connected then (handleEvents driver)^[io.writes] line else line

def post (io : PostIo) (line : Line) : Option Line :=
  (waitForServerResponse driver io.polls (request driver io line)).map
    Response.line

/-! Nothing is lost while the client has a socket: what has been delivered has
been printed, by earlier posts or by this one, or waits in the buffer. -/

def Shown (printed : List UInt8) (line : Line) : Prop :=
  line.client.socket = true ∧ Closes line ∧
    line.delivered = printed ++ line.client.unread

theorem Shown.handleEvents {printed : List UInt8} {line : Line}
    (hshown : Shown printed line) :
    Shown printed (handleEvents driver line) := by
  obtain ⟨hsocket, hcloses, hdelivered⟩ := hshown
  have hgrown := grown_handleEvents driver line
  obtain ⟨more, hmore, hunread, -⟩ := hgrown.bytes
  refine ⟨hgrown.socket.trans hsocket, closes_handleEvents driver hcloses, ?_⟩
  rw [hmore, hunread, hdelivered, List.append_assoc]

theorem Shown.waiting {printed : List UInt8} {line : Line}
    (hshown : Shown printed line) : line.client.waiting = line.client.unread := by
  rw [WiFiClient.waiting, if_pos hshown.1]

theorem Shown.unread_handleEvents {line : Line}
    (hunread : line.client.unread ≠ []) :
    (Line.handleEvents driver line).client.unread ≠ [] := by
  obtain ⟨more, -, hmore, -⟩ := (grown_handleEvents driver line).bytes
  rw [hmore]
  exact List.append_ne_nil_of_left_ne_nil hunread more

/-- A read takes the oldest byte. -/
theorem Shown.read {printed : List UInt8} {line : Line}
    (hshown : Shown printed line) (hunread : line.client.unread ≠ []) :
    ∃ byte, (Line.read driver line).1 = some byte ∧
      Shown (printed ++ [byte]) (Line.read driver line).2 := by
  have hready := hshown.handleEvents driver
  have hsome := Shown.unread_handleEvents driver hunread
  simp only [Line.read, available, hready.waiting]
  generalize Line.handleEvents driver line = ready at hready hsome
  obtain ⟨hsocket, hcloses, hdelivered⟩ := hready
  rw [if_neg (mt List.eq_nil_of_length_eq_zero hsome)]
  match hbytes : ready.client.unread with
  | [] => exact absurd hbytes hsome
  | [byte] =>
      have htaken : Shown (printed ++ [byte])
          { ready with
            client := { ready.client with
              tail := 0, unread := [], full := false } } := by
        refine ⟨hsocket, hcloses, ?_⟩
        rw [List.append_nil, ← hbytes]
        exact hdelivered
      exact ⟨byte, rfl, htaken.handleEvents driver⟩
  | byte :: next :: rest =>
      refine ⟨byte, rfl, hsocket, hcloses, ?_⟩
      rw [List.append_assoc]
      exact hdelivered.trans (by rw [hbytes]; rfl)

theorem Shown.readOne {printed : List UInt8} {line : Line}
    (hshown : Shown printed line) :
    Shown (printed ++ (readOne driver line).1) (readOne driver line).2 := by
  have havailable := hshown.handleEvents driver
  simp only [SenseboxCodeElevator.readOne, available, havailable.waiting]
  by_cases hcount : (Line.handleEvents driver line).client.unread = []
  · simpa [hcount] using havailable
  · obtain ⟨byte, hbyte, hread⟩ := havailable.read driver hcount
    rw [if_pos (mt List.eq_nil_of_length_eq_zero hcount), hbyte]
    exact hread

/-- `connected` keeps what has been delivered, and is false only when the
connection is closed and nothing is left. -/
theorem Shown.connected {printed : List UInt8} {line : Line}
    (hshown : Shown printed line) :
    Shown printed (line.connected driver).2 ∧
      ((line.connected driver).1 = false →
        (line.connected driver).2.client.connected = false ∧
          (line.connected driver).2.client.unread = []) := by
  have hafter := (hshown.handleEvents driver).handleEvents driver
  simp only [Line.connected, available, hafter.waiting]
  generalize Line.handleEvents driver (Line.handleEvents driver line) = after
    at hafter
  by_cases hcount : after.client.unread = []
  · rw [if_neg (by simp [hcount])]
    exact ⟨hafter, fun hflag => ⟨hflag, hcount⟩⟩
  · rw [if_pos (mt List.eq_nil_of_length_eq_zero hcount)]
    exact ⟨hafter, nofun⟩

/-- How a response leaves the client. -/
structure Ended (response : Response) : Prop where
  connected : response.stopped.connected = false
  used : response.stopped.used = false
  waiting : response.stopped.waiting = []
  socket : response.line.client.socket = false
  closed : response.line.client.used = false

theorem Ended.after {response : Response} (hended : Ended response)
    (printed : List UInt8) :
    Ended { response with printed := printed ++ response.printed } where
  connected := hended.connected
  used := hended.used
  waiting := hended.waiting
  socket := hended.socket
  closed := hended.closed

theorem Shown.waitForServerResponse {printed : List UInt8} {polls : Nat}
    {line : Line} (hshown : Shown printed line) {response : Response}
    (hwait : waitForServerResponse driver polls line = some response) :
    response.line.delivered = printed ++ response.printed ∧ Ended response := by
  induction polls generalizing printed line response with
  | zero => cases hwait
  | succ polls ih =>
      have hread := hshown.readOne driver
      obtain ⟨hnext, hlast⟩ := hread.connected driver
      rw [SenseboxCodeElevator.waitForServerResponse] at hwait
      dsimp only at hwait
      split at hwait
      · next hclosed =>
        cases hwait
        obtain ⟨hflag, hunread⟩ := hlast (by simpa using hclosed)
        obtain ⟨hsocket, hcloses, hdelivered⟩ := hnext
        rw [hunread, List.append_nil] at hdelivered
        have hstop : ∀ final : Line, final.client.socket = true →
            final.stop.delivered = final.delivered ∧
              final.stop.client.socket = false ∧
              final.stop.client.used = false := by
          intro final hfinal
          simp [stop, hfinal]
        obtain ⟨hkept, hnone, hunused⟩ := hstop _ hsocket
        refine ⟨hkept.trans hdelivered, hflag, hcloses hflag, ?_, hnone, hunused⟩
        rw [WiFiClient.waiting, if_pos hsocket, hunread]
      · rw [Option.map_eq_some_iff] at hwait
        obtain ⟨later, hlater, rfl⟩ := hwait
        obtain ⟨hdelivered, hended⟩ := ih hnext hlater
        refine ⟨?_, hended.after _⟩
        rw [← List.append_assoc]
        exact hdelivered

/-! Without a socket nothing is delivered and nothing printed. -/

def Idle (line : Line) : Prop :=
  line.client.socket = false ∧ line.client.used = false

theorem Idle.handleEvents {line : Line} (hidle : Idle line) :
    Idle (Line.handleEvents driver line) ∧
      (Line.handleEvents driver line).delivered = line.delivered := by
  have hgrown := grown_handleEvents driver line
  obtain ⟨more, hdelivered, -, hnone⟩ := hgrown.bytes
  refine ⟨⟨hgrown.socket.trans hidle.1, hgrown.used hidle.2⟩, ?_⟩
  rw [hdelivered, hnone hidle.2, List.append_nil]

theorem Idle.iterate {line : Line} (hidle : Idle line) (rounds : Nat) :
    Idle ((Line.handleEvents driver)^[rounds] line) ∧
      ((Line.handleEvents driver)^[rounds] line).delivered = line.delivered := by
  have hgrown := grown_iterate driver rounds line
  obtain ⟨more, hdelivered, -, hnone⟩ := hgrown.bytes
  refine ⟨⟨hgrown.socket.trans hidle.1, hgrown.used hidle.2⟩, ?_⟩
  rw [hdelivered, hnone hidle.2, List.append_nil]

theorem Idle.waiting {line : Line} (hidle : Idle line) :
    line.client.waiting = [] := by
  simp [WiFiClient.waiting, hidle.1]

theorem Idle.readOne {line : Line} (hidle : Idle line) :
    readOne driver line = ([], Line.handleEvents driver line) := by
  have hnone := (hidle.handleEvents driver).1.waiting
  simp [SenseboxCodeElevator.readOne, available, hnone]

theorem Idle.connected {line : Line} (hidle : Idle line) :
    let after := Line.handleEvents driver (Line.handleEvents driver line)
    line.connected driver = (after.client.connected, after) := by
  have hnone :=
    ((hidle.handleEvents driver).1.handleEvents driver).1.waiting
  simp [Line.connected, available, hnone]

theorem Idle.waitForServerResponse {polls : Nat} {line : Line}
    (hidle : Idle line) {response : Response}
    (hwait : waitForServerResponse driver polls line = some response) :
    response.printed = [] ∧ response.line.delivered = line.delivered ∧
      Ended response := by
  induction polls generalizing line response with
  | zero => cases hwait
  | succ polls ih =>
      obtain ⟨hfirst, hsame⟩ := hidle.handleEvents driver
      obtain ⟨hsecond, hsame'⟩ := hfirst.handleEvents driver
      obtain ⟨hthird, hsame''⟩ := hsecond.handleEvents driver
      have hkept := hsame''.trans (hsame'.trans hsame)
      have hconnected := hfirst.connected driver
      rw [SenseboxCodeElevator.waitForServerResponse,
        hidle.readOne driver] at hwait
      simp only [hconnected] at hwait
      generalize Line.handleEvents driver (Line.handleEvents driver
        (Line.handleEvents driver line)) = after at hthird hkept hwait
      cases hflag : after.client.connected with
      | false =>
          rw [hflag, Bool.not_false, if_pos rfl] at hwait
          cases hwait
          have hstop : after.stop = after := by simp [stop, hthird.1]
          refine ⟨rfl, by rw [hstop, hkept], hflag, hthird.2, hthird.waiting, ?_, ?_⟩
          · rw [hstop, hthird.1]
          · rw [hstop, hthird.2]
      | true =>
          rw [hflag, Bool.not_true, if_neg Bool.false_ne_true,
            Option.map_eq_some_iff] at hwait
          obtain ⟨later, hlater, rfl⟩ := hwait
          obtain ⟨hprinted, hdelivered, hended⟩ := ih hthird hlater
          exact ⟨hprinted, hdelivered.trans hkept, hended.after _⟩

/-! From the connection to the response. -/

theorem Idle.connect {line : Line} (hidle : Idle line) (io : ConnectIo) :
    ((line.connect driver io).1 = true →
        Shown line.delivered (line.connect driver io).2) ∧
      ((line.connect driver io).1 = false → Idle (line.connect driver io).2) := by
  obtain ⟨hlookup, hsame⟩ := hidle.iterate driver io.lookups
  unfold Line.connect
  dsimp only
  generalize (Line.handleEvents driver)^[io.lookups] line = looked at hlookup hsame
  cases io.resolved with
  | false => exact ⟨nofun, fun _ => hlookup⟩
  | true =>
      cases io.socket with
      | false => exact ⟨nofun, fun _ => ⟨rfl, rfl⟩⟩
      | true =>
          cases io.requested with
          | false => exact ⟨nofun, fun _ => ⟨rfl, rfl⟩⟩
          | true =>
              have hgrown := grown_connecting driver io.waits
                { looked with client := ⟨true, true, false, false, 0, []⟩ }
              simp only [Bool.not_true, Bool.false_eq_true, if_false]
              generalize connecting driver io.waits _ = after at hgrown
              obtain ⟨more, hdelivered, hunread, -⟩ := hgrown.bytes
              cases hflag : after.client.connected with
              | false => exact ⟨nofun, fun _ => ⟨rfl, rfl⟩⟩
              | true =>
                  have hcloses : Closes after := by
                    intro hfalse
                    rw [hflag] at hfalse
                    cases hfalse
                  refine ⟨fun _ => ⟨hgrown.socket, hcloses, ?_⟩, nofun⟩
                  show after.delivered = line.delivered ++ after.client.unread
                  rw [hdelivered, hunread, List.nil_append, hsame]

theorem Shown.iterate {printed : List UInt8} {line : Line}
    (hshown : Shown printed line) (rounds : Nat) :
    Shown printed ((Line.handleEvents driver)^[rounds] line) := by
  induction rounds generalizing line with
  | zero => exact hshown
  | succ rounds ih => exact ih (hshown.handleEvents driver)

theorem Idle.request {line : Line} (hidle : Idle line) (io : PostIo) :
    ((line.connect driver io.connect).1 = true →
        Shown line.delivered (request driver io line)) ∧
      ((line.connect driver io.connect).1 = false →
        Idle (request driver io line) ∧
          (request driver io line).delivered =
            (line.connect driver io.connect).2.delivered) := by
  obtain ⟨hsuccess, hfailure⟩ := hidle.connect driver io.connect
  unfold SenseboxCodeElevator.request
  dsimp only
  constructor
  · intro hconnected
    rw [if_pos hconnected]
    exact (hsuccess hconnected).iterate driver io.writes
  · intro hfailed
    rw [if_neg (by simp [hfailed])]
    exact ⟨hfailure hfailed, rfl⟩

theorem Idle.post {line next : Line} (hidle : Idle line) {io : PostIo}
    (hpost : post driver io line = some next) : Idle next := by
  obtain ⟨response, hwait, rfl⟩ := Option.map_eq_some_iff.mp hpost
  obtain ⟨hsuccess, hfailure⟩ := hidle.request driver io
  cases hconnected : (line.connect driver io.connect).1 with
  | true =>
      obtain ⟨-, hended⟩ :=
        (hsuccess hconnected).waitForServerResponse driver hwait
      exact ⟨hended.socket, hended.closed⟩
  | false =>
      obtain ⟨-, -, hended⟩ :=
        (hfailure hconnected).1.waitForServerResponse driver hwait
      exact ⟨hended.socket, hended.closed⟩

theorem idle_run {posts : List PostIo} {line : Line}
    (hrun : run (post driver) posts .initial = some line) : Idle line :=
  run_invariant Idle (fun _ _ _ _ hstart hpost => hstart.post driver hpost)
    ⟨rfl, rfl⟩ hrun

/-- What a post prints is what is delivered during it, unless its connection
fails after bytes have been delivered, which are never read then.  The client is
stopped when its connection is closed and nothing waits in its buffer. -/
theorem response_printed_iff (posts : List PostIo) (line : Line)
    (hrun : run (post driver) posts .initial = some line) (io : PostIo)
    (response : Response)
    (hwait : waitForServerResponse driver io.polls (request driver io line) =
      some response) :
    (response.line.delivered = line.delivered ++ response.printed ↔
        ((line.connect driver io.connect).1 = false →
          (line.connect driver io.connect).2.delivered = line.delivered)) ∧
      ((line.connect driver io.connect).1 = false → response.printed = []) ∧
      response.stopped.connected = false ∧ response.stopped.used = false ∧
      response.stopped.waiting = [] := by
  obtain ⟨hsuccess, hfailure⟩ := (idle_run driver hrun).request driver io
  cases hconnected : (line.connect driver io.connect).1 with
  | true =>
      obtain ⟨hdelivered, hended⟩ :=
        (hsuccess hconnected).waitForServerResponse driver hwait
      exact ⟨iff_of_true hdelivered nofun, nofun, hended.connected, hended.used,
        hended.waiting⟩
  | false =>
      obtain ⟨hidle, hrequested⟩ := hfailure hconnected
      obtain ⟨hprinted, hdelivered, hended⟩ :=
        hidle.waitForServerResponse driver hwait
      refine ⟨?_, fun _ => hprinted, hended.connected, hended.used, hended.waiting⟩
      rw [hprinted, hdelivered, hrequested, List.append_nil]
      exact ⟨fun hsame _ => hsame, fun hsame => hsame rfl⟩

/-- One byte arrives with the answer to the connection request, another during
the first read, and the close before the buffer is empty; the second connection
is refused. -/
def shortResponse : Driver where
  tcpSize := 64
  mtu := 16
  arrivals
    | 0 => [.connect true, .recv [0x4F] 0]
    | 4 => [.recv [0x4B] 0]
    | 5 => [.recv [] 0]
    | 10 => [.connect false]
    | _ => []

def shortPost : PostIo where
  connect := ⟨0, true, true, true, 1⟩
  writes := 1
  polls := 2

/-- The first post prints both bytes, and the second has none to print. -/
theorem response_printed_iff_short : ∃ first second,
    waitForServerResponse shortResponse 2
        (request shortResponse shortPost .initial) = some first ∧
      first.printed = [0x4F, 0x4B] ∧ first.stopped.waiting = [] ∧
      waitForServerResponse shortResponse 2
        (request shortResponse shortPost first.line) = some second ∧
      second.line.delivered = first.line.delivered ++ second.printed := by
  obtain ⟨first, hfirst, hdelivered⟩ : ∃ first,
      waitForServerResponse shortResponse 2
          (request shortResponse shortPost .initial) = some first ∧
        first.line.delivered = [0x4F, 0x4B] := ⟨_, rfl, rfl⟩
  obtain ⟨second, hsecond⟩ : ∃ second,
      waitForServerResponse shortResponse 2
        (request shortResponse shortPost first.line) = some second := by
    cases hfirst
    exact ⟨_, rfl⟩
  obtain ⟨hprinted, -, -, -, hwaiting⟩ :=
    response_printed_iff shortResponse [] .initial rfl shortPost first hfirst
  have hboth := hprinted.mpr (by decide)
  have hrun : run (post shortResponse) [shortPost] .initial = some first.line := by
    rw [run_singleton, post]
    exact congrArg (Option.map Response.line) hfirst
  obtain ⟨hnone, -⟩ := response_printed_iff shortResponse [shortPost] first.line
    hrun shortPost second hsecond
  refine ⟨first, second, hfirst, ?_, hwaiting, hsecond, hnone.mpr ?_⟩
  · rw [hdelivered] at hboth
    exact hboth.symm
  · cases hfirst
    decide

/-- The server accepts, sends one byte and closes before `connect` looks. -/
def hastyServer : Driver where
  tcpSize := 64
  mtu := 16
  arrivals
    | 0 => [.connect true, .recv [0x4F] 0, .recv [] 0]
    | _ => []

theorem hasty_response_lost :
    ¬ ∀ (driver : Driver) (posts : List PostIo) (line : Line),
      run (post driver) posts .initial = some line →
      ∀ (io : PostIo) (response : Response),
        waitForServerResponse driver io.polls (request driver io line) =
          some response →
        response.line.delivered = line.delivered ++ response.printed := by
  intro hall
  obtain ⟨response, hwait, hlost⟩ : ∃ response,
      waitForServerResponse hastyServer 2
          (request hastyServer shortPost .initial) = some response ∧
        response.line.delivered ≠ Line.initial.delivered ++ response.printed :=
    ⟨_, rfl, by decide⟩
  exact hlost (hall hastyServer [] .initial rfl shortPost response hwait)

end SenseBox.SenseboxCodeElevator
