import SenseBox.Data.Run
import Mathlib.Logic.Function.Iterate

namespace SenseBox.Device

/-! The client of the WiFi library.  When messages arrive is left open: each
handling of events meets a list of them. -/

/-- An answer to a connection request, or received bytes with the number of
those that are still to come; no bytes are the end of the connection. -/
inductive Message where
  | connect (accepted : Bool)
  | recv (bytes : List UInt8) (remaining : Nat)

/-- The sizes depend on the board. -/
structure Driver where
  tcpSize : Nat
  mtu : Nat
  arrivals : Nat → List Message

/-- `socket` is whether there is one, and `used` whether the driver has it open;
`connected` and `full` are bits of `_flag`.  The bytes of the buffer from `_tail`
to `_head` are `unread`. -/
structure WiFiClient where
  socket : Bool
  used : Bool
  connected : Bool
  full : Bool
  tail : Nat
  unread : List UInt8

/-- The client, how often events have been handled, and all bytes that the driver
has put into its buffer. -/
structure Line where
  client : WiFiClient
  events : Nat
  delivered : List UInt8

structure ConnectIo where
  lookups : Nat
  resolved : Bool
  socket : Bool
  requested : Bool
  waits : Nat

namespace WiFiClient

def initial : WiFiClient := ⟨false, false, false, false, 0, []⟩

def head (client : WiFiClient) : Nat := client.tail + client.unread.length

/-- What `available` counts. -/
def waiting (client : WiFiClient) : List UInt8 :=
  if client.socket then client.unread else []

end WiFiClient

namespace Line

def initial : Line := ⟨.initial, 0, []⟩

def close (line : Line) : Line :=
  { line with client := { line.client with used := false } }

variable (driver : Driver)

/-- `socketBufferCb`, behind the driver's check that received bytes belong to a
socket in use. -/
def receive (line : Line) : Message → Line
  | .connect accepted =>
      if accepted then
        { line with client := { line.client with connected := true } }
      else line.close
  | .recv bytes remaining =>
      if !line.client.used then line
      else if bytes = [] then
        close { line with client := { line.client with connected := false } }
      else if line.client.head + bytes.length > driver.tcpSize then
        { line with client := { line.client with full := true } }
      else
        let room := driver.tcpSize - (line.client.head + bytes.length)
        { line with
          client := { line.client with
            unread := line.client.unread ++ bytes
            full := line.client.full || (room < driver.mtu && remaining ≠ 0) }
          delivered := line.delivered ++ bytes }

/-- `m2m_wifi_handle_events`. -/
def handleEvents (line : Line) : Line :=
  let next := { line with events := line.events + 1 }
  if line.client.full then next
  else (driver.arrivals line.events).foldl (receive driver) next

def available (line : Line) : Nat × Line :=
  let line := handleEvents driver line
  (line.client.waiting.length, line)

def read (line : Line) : Option UInt8 × Line :=
  let (sizeTmp, line) := available driver line
  if sizeTmp = 0 then (none, line)
  else
    match line.client.unread with
    | [] => (none, line)
    | [byte] =>
        (some byte, handleEvents driver
          { line with
            client := { line.client with tail := 0, unread := [], full := false } })
    | byte :: rest =>
        (some byte,
          { line with
            client := { line.client with
              tail := line.client.tail + 1
              unread := rest } })

def connected (line : Line) : Bool × Line :=
  let line := handleEvents driver line
  let (count, line) := available driver line
  if count ≠ 0 then (true, line) else (line.client.connected, line)

def stop (line : Line) : Line :=
  if !line.client.socket then line
  else
    { line with
      client := { line.client with
        socket := false
        used := false
        connected := false
        full := false } }

def giveUp (line : Line) : Line :=
  { line with client := { line.client with socket := false, used := false } }

/-- The loop of `connect`, for as many rounds as there are before its timeout. -/
def connecting : Nat → Line → Line
  | 0, line => line
  | waits + 1, line =>
      if line.client.connected then line
      else connecting waits (handleEvents driver line)

def connect (io : ConnectIo) (line : Line) : Bool × Line :=
  let line := (handleEvents driver)^[io.lookups] line
  if !io.resolved then (false, line)
  else
    let line : Line :=
      { line with client := ⟨io.socket, io.socket, false, false, 0, []⟩ }
    if !io.socket then (false, line)
    else if !io.requested then (false, line.giveUp)
    else
      let line := connecting driver io.waits line
      if !line.client.connected then (false, line.giveUp) else (true, line)

/-! What the handling of events does: bytes are added at the end of the buffer,
to an open socket only. -/

structure Grown (before after : Line) : Prop where
  bytes : ∃ more, after.delivered = before.delivered ++ more ∧
    after.client.unread = before.client.unread ++ more ∧
    (before.client.used = false → more = [])
  socket : after.client.socket = before.client.socket
  used : before.client.used = false → after.client.used = false

/-- The driver closes the socket no later than the flag is cleared. -/
def Closes (line : Line) : Prop :=
  line.client.connected = false → line.client.used = false

theorem Grown.refl (line : Line) : Grown line line where
  bytes := ⟨[], by simp⟩
  socket := rfl
  used := id

theorem Grown.trans {first second third : Line} (hfirst : Grown first second)
    (hsecond : Grown second third) : Grown first third where
  bytes := by
    obtain ⟨more, hdelivered, hunread, hnone⟩ := hfirst.bytes
    obtain ⟨others, hdelivered', hunread', hnone'⟩ := hsecond.bytes
    refine ⟨more ++ others, ?_, ?_, ?_⟩
    · rw [hdelivered', hdelivered, List.append_assoc]
    · rw [hunread', hunread, List.append_assoc]
    · intro hused
      rw [hnone hused, hnone' (hfirst.used hused), List.append_nil]
  socket := hsecond.socket.trans hfirst.socket
  used := hsecond.used ∘ hfirst.used

theorem grown_receive (line : Line) (message : Message) :
    Grown line (receive driver line message) := by
  cases message with
  | connect accepted =>
      cases accepted with
      | true => exact ⟨⟨[], by simp [receive]⟩, rfl, id⟩
      | false => exact ⟨⟨[], by simp [receive, close]⟩, rfl, fun _ => rfl⟩
  | recv bytes remaining =>
      rw [receive]
      split
      · exact Grown.refl line
      · next hused =>
        split
        · exact ⟨⟨[], by simp [close]⟩, rfl, fun _ => rfl⟩
        · split
          · exact ⟨⟨[], by simp⟩, rfl, id⟩
          · refine ⟨⟨bytes, rfl, rfl, fun hclosed => ?_⟩, rfl, id⟩
            simp [hclosed] at hused

theorem closes_receive {line : Line} (hcloses : Closes line)
    (message : Message) : Closes (receive driver line message) := by
  cases message with
  | connect accepted =>
      cases accepted with
      | true => intro hflag; cases hflag
      | false => exact fun _ => rfl
  | recv bytes remaining =>
      rw [receive]
      split
      · exact hcloses
      · split
        · exact fun _ => rfl
        · split
          · exact hcloses
          · exact hcloses

theorem grown_foldl (messages : List Message) (line : Line) :
    Grown line (messages.foldl (receive driver) line) := by
  induction messages generalizing line with
  | nil => exact Grown.refl line
  | cons message rest ih => exact (grown_receive driver line message).trans (ih _)

theorem closes_foldl (messages : List Message) {line : Line}
    (hcloses : Closes line) :
    Closes (messages.foldl (receive driver) line) := by
  induction messages generalizing line with
  | nil => exact hcloses
  | cons message rest ih => exact ih (closes_receive driver hcloses message)

theorem grown_handleEvents (line : Line) :
    Grown line (handleEvents driver line) := by
  have hcount : Grown line { line with events := line.events + 1 } :=
    ⟨⟨[], by simp⟩, rfl, id⟩
  unfold handleEvents
  dsimp only
  split
  · exact hcount
  · exact hcount.trans (grown_foldl driver _ _)

theorem closes_handleEvents {line : Line} (hcloses : Closes line) :
    Closes (handleEvents driver line) := by
  unfold handleEvents
  dsimp only
  split
  · exact hcloses
  · exact closes_foldl driver _ hcloses

theorem grown_iterate (rounds : Nat) (line : Line) :
    Grown line ((handleEvents driver)^[rounds] line) := by
  induction rounds generalizing line with
  | zero => exact Grown.refl line
  | succ rounds ih => exact (grown_handleEvents driver line).trans (ih _)

theorem grown_connecting (waits : Nat) (line : Line) :
    Grown line (connecting driver waits line) := by
  induction waits generalizing line with
  | zero => exact Grown.refl line
  | succ waits ih =>
      rw [connecting]
      split
      · exact Grown.refl line
      · exact (grown_handleEvents driver line).trans (ih _)

end Line

end SenseBox.Device
