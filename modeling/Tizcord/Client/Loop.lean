/-
This file models the loop of `start_ui`. A round of the loop processes at most one
packet, then all keys that wait, and then draws the screen; of the drawing
functions only that of the direct messages changes the state.
-/

import Tizcord.Client.Input

namespace Tizcord

open CModel

/-- What a round of the loop finds: what the socket delivers, if it is ready, the keys that wait,
and the time. -/
structure UiRound where
  network : Option ReceiveResult
  keys : List Key
  now : Int

/-- A complete packet is processed; on anything else the connection is given up. -/
def handleNetwork (now : Int) (result : ReceiveResult) (ui : Ui) : Except Fault Ui :=
  match result with
  | .received packet => processNetworkPacket now packet ui
  | .closed | .failed _ => .ok { ui with connected := false }

/-- The socket is looked at only while there is one. -/
def Ui.receive (now : Int) (network : Option ReceiveResult) (ui : Ui) : Except Fault Ui :=
  match network with
  | none => .ok ui
  | some result => if ui.connected then handleNetwork now result ui else .ok ui

/-- Drawing the direct messages selects the first accepted friend when none is selected. -/
def drawDms (ui : Ui) : Ui :=
  match ui.activeDmFriend with
  | none => { ui with activeDmFriend := ui.firstFriend }
  | some _ => ui

def redraw (ui : Ui) : Ui :=
  match ui.currentScreen with
  | .dms => drawDms ui
  | .login | .signup | .servers | .friends | .chat | .command | .users => ui

def handleKeys (now : Int) (keys : List Key) (ui : Ui) : Except Fault Ui :=
  keys.foldlM (fun ui key => handleKey now key ui) ui

/-- Whether the round has processed a packet or a key. -/
def UiRound.needsRedraw (round : UiRound) (connected : Bool) : Bool :=
  !round.keys.isEmpty || connected &&
    match round.network with
    | some (.received _) => true
    | some .closed | some (.failed _) | none => false

def UiRound.run (round : UiRound) (before : Ui) : Except Fault Ui := do
  let ui ← before.receive round.now round.network
  let ui ← handleKeys round.now round.keys ui
  return if round.needsRedraw before.connected then redraw ui else ui

/-- The rounds of the client, from a state on. -/
def runUi (rounds : List UiRound) (ui : Ui) : Except Fault Ui :=
  rounds.foldlM (fun ui round => round.run ui) ui

end Tizcord
