import TerminalSession.Live
import TerminalSession.Program
import TerminalSession.Recorder
import TerminalSession.Screen
import TerminalSession.Settings

/-! # The demonstration

A title, and a window with a border that shows each key as it is decoded. The demonstration runs on
a screen until its quit key is pressed; without keys it is a program that can be checked and run
against a recorder. A failure ends the work in a live session, and the session is closed whatever
happens. -/

namespace TerminalSession.Demo

def name : String := "termguard"

def version : String := "0.1.0"

def titleText : String := " termguard demo - press q to quit "

def waitingText : String := "Waiting for keys..."

def keysWindow : String := "keys"

def keysPosition : Position := ⟨2, 2⟩

def textPosition : Position := ⟨1, 2⟩

structure Problem where
  context : Option String := none
  failure : Failure
deriving DecidableEq, Repr

def Problem.messages (problem : Problem) : List String :=
  problem.context.toList ++ problem.failure.message :: problem.failure.causes

/-! ## As a program -/

def program (settings : Settings) : Except Refusal Program := do
  let draft := Draft.empty.init settings.options
  let draft ← draft.add (.setCursor settings.cursor)
  let draft ← draft.add (.addColor "title" .black .cyan)
  let draft ← draft.add (.addColor "frame" .cyan .black)
  let title ← draft.color "title"
  let frame ← draft.color "frame"
  let border : Border := { glyphs := settings.glyphs, color := some frame }
  let draft ← draft.add (.changeAttribute .set (.color title))
  let draft ← draft.add (.draw (.text titleText))
  let draft ← draft.add (.changeAttribute .set .normal)
  let draft ← draft.add (.addWindow keysWindow keysPosition ⟨5, 40⟩ (some border))
  let draft ← draft.add (.setWindow keysWindow)
  let draft ← draft.add (.draw (.move textPosition))
  let draft ← draft.add (.draw (.text waitingText))
  let draft ← draft.add .refresh
  return draft.deinit.build

def dryRun (settings : Settings) : Except Problem Unit × Logged Recorder :=
  match program settings with
  | .error refusal => (.error { failure := .refusal refusal }, { terminal := default })
  | .ok program =>
      match (Machine.new (default : Recorder)).run program with
      | (.ok _, machine) => (.ok (), machine.host)
      | (.error failure, machine) =>
          let context := "demo program failed on the recording terminal"
          (.error { context := some context, failure }, machine.host)

/-! ## On a screen -/

abbrev Work (τ : Type) := EStateM Failure (Live τ)

/-! A control character is shown by its number, because writing it would do something to the
screen. -/

def describe : Key → String
  | .char character =>
      if Text.isControl character then
        let digits := Text.hexadecimal character.toNat
        "control 0x" ++ Text.replicate (2 - digits.length) '0' ++ digits
      else
        "char " ++ Text.apostrophe.toString ++ character.toString ++ Text.apostrophe.toString
  | .special key => "key " ++ key.label

def keysSize (screen : Size) : Size :=
  ⟨5, .clip (min (max (screen.cols.toNat - 4) 10) 40)⟩

section

variable {τ : Type} [Terminal τ]

def use {α : Type} (method : Live τ → Except Failure α × Live τ) : Work τ α := fun live =>
  match method live with
  | (.ok value, live) => .ok value live
  | (.error failure, live) => .error failure live

def act (action : Action) : Work τ Unit := do
  let _ ← use fun live => live.perform action

def note (message : String) : Work τ Unit :=
  modify fun live =>
    { live with machine.host.log := ⟨.info, .demo, message⟩ :: live.machine.host.log }

def draw (settings : Settings) : Work τ Nat := do
  act (.setCursor settings.cursor)
  let title ← use fun live => live.addColor "title" .black .cyan
  let frame ← use fun live => live.addColor "frame" .cyan .black
  act (.changeAttribute .set (.color title))
  act (.draw (.text titleText))
  act (.changeAttribute .set .normal)
  act .refresh
  let size := keysSize (← use fun live => live.getSize)
  let border : Border := { glyphs := settings.glyphs, color := some frame }
  act (.addWindow keysWindow keysPosition size (some border))
  act (.setWindow keysWindow)
  act (.setNoDelay true)
  act (.draw (.move textPosition))
  act (.draw (.text waitingText))
  act .refresh
  return size.cols.toNat - 4

def showKey (width : Nat) (key : Key) : Work τ Unit := do
  note ("Key: " ++ key.text)
  act (.draw (.move textPosition))
  act (.draw (.text (Text.alignLeft width (Text.first width (describe key)))))
  act .refresh

def showKeys (width : Nat) : Nat → Work τ Unit
  | 0 => return
  | reads + 1 => do
      match ← use fun live => live.read .maybeKey with
      | some (.char 'q') => return
      | some key =>
          showKey width key
          showKeys width reads
      | none => showKeys width reads

end

/-- Draws, and shows keys up to the quit key. The reads that are left when all is drawn are enough
to come to the end of the script. -/
def converse (settings : Settings) : Work Screen Unit := do
  let width ← draw settings
  let reads := (← get).machine.terminal.pendingReads
  showKeys width (reads + 1)

def leave (host : Logged Screen) : Logged Screen :=
  { host with terminal := host.terminal.abandon }

def run (settings : Settings) (host : Logged Screen) : Except Problem Unit × Logged Screen :=
  match Live.init host settings.options with
  | .error (failure, host) =>
      (.error { context := some "failed to start terminal session", failure }, leave host)
  | .ok live =>
      match converse settings live with
      | .error failure live => (.error { failure }, leave live.abandon)
      | .ok _ live =>
          match live.deinit with
          | (.ok _, host) =>
              (.ok (), { leave host with log := ⟨.info, .demo, name ++ " exiting"⟩ :: host.log })
          | (.error failure, host) =>
              let message := "Session did not close cleanly: " ++ failure.message
              (.error { failure }, { leave host with log := ⟨.warn, .demo, message⟩ :: host.log })

end TerminalSession.Demo
