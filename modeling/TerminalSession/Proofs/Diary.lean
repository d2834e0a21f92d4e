import TerminalSession.Proofs.NativeAgreement

/-! # A diary of a machine

A diary has an entry for every command a machine was given, latest first, with the calls that were
made for it and their answers. What a session has come to can be read off its diary: its colors from
the entries that added them, and its windows from those that made them. -/

namespace TerminalSession

namespace Recorder

/-! Calls are put to a recorder with the last one of the list first. -/

def replay (start : Recorder) : List Call → List Asked × Recorder
  | [] => ([], start)
  | call :: earlier =>
      let (made, recorder) := start.replay earlier
      let reply := perform call recorder
      (⟨call, reply.answer⟩ :: made, reply.terminal)

def askedSince (before after : Recorder) : List Asked :=
  (before.replay (after.history.take (after.history.length - before.history.length))).1

variable {start stop : Recorder} {made : List Asked}

theorem replay_of_asks (asks : Asks start made stop) :
    start.replay (made.map Asked.call) = (made, stop) := by
  induction asks with
  | nil => rfl
  | call before called induction =>
      rw [List.map_cons, replay, induction]
      rfl

theorem history_of_asks (asks : Asks start made stop) :
    stop.history = made.map Asked.call ++ start.history := by
  have served : Served (fun _ _ => True) start (made.map Asked.call) stop :=
    asks.served fun _ _ => trivial
  exact history_of_served served

theorem askedSince_eq (asks : Asks start made stop) : askedSince start stop = made := by
  have latest : stop.history.take (stop.history.length - start.history.length) =
      made.map Asked.call := by
    rw [history_of_asks asks, List.length_append, Nat.add_sub_cancel_right, List.take_left]
  rw [askedSince, latest, replay_of_asks asks]

/-- A recorder has only one account of how it came from one state to another. -/
theorem asks_unique {other : List Asked} (asks : Asks start made stop)
    (others : Asks start other stop) : made = other :=
  (askedSince_eq asks).symm.trans (askedSince_eq others)

end Recorder

structure Entry where
  command : Command
  made : List Asked
  succeeded : Bool

structure Registration where
  name : String
  pair : ColorPair
  foreground : Color
  background : Color

/-! A window is recorded as long as it lives, whatever becomes of its flags. -/

structure WindowRecord where
  name : String
  handle : Handle
  border : Option ResolvedBorder
deriving DecidableEq

def BoundWindow.record (bound : BoundWindow) : WindowRecord :=
  ⟨bound.window.name, bound.handle, bound.border⟩

def Bindings.records (bindings : Bindings) : List WindowRecord :=
  bindings.windows.toList.map BoundWindow.record

namespace Asked

def pair? : Asked → Option ColorPair
  | ⟨.allocatePair _ _, .ok pair⟩ => some pair
  | _ => none

def window? : Asked → Option Handle
  | ⟨.openSession, .ok window⟩ => some window
  | ⟨.createWindow _ _, .ok window⟩ => some window
  | _ => none

end Asked

namespace Entry

def opens (entry : Entry) : Bool :=
  match entry.command with
  | .init _ => entry.succeeded
  | _ => false

def registration? (entry : Entry) : Option Registration :=
  match entry.command, entry.succeeded with
  | .act (.addColor name foreground background), true =>
      some ⟨name, (entry.made.findSome? Asked.pair?).getD .default, foreground, background⟩
  | _, _ => none

end Entry

namespace Diary

/-! All of these concern the session at hand, which starts with the latest entry that opened one. A
border is drawn with the pair that its color had when the window was made. -/

def registrations : List Entry → List Registration
  | [] => []
  | entry :: earlier =>
      if entry.opens then [] else entry.registration?.toList ++ registrations earlier

def sessionCalls : List Entry → List Asked
  | [] => []
  | entry :: earlier => if entry.opens then entry.made else entry.made ++ sessionCalls earlier

def latestPair (diary : List Entry) (name : String) : Option ColorPair :=
  ((registrations diary).find? (·.name = name)).map (·.pair)

def borderNow (diary : List Entry) (border : Border) : ResolvedBorder where
  glyphs := border.glyphs
  pair := border.color.bind fun color => latestPair diary color.name

def madeWindow? (earlier : List Entry) (entry : Entry) : Option WindowRecord :=
  let handle := (entry.made.findSome? Asked.window?).getD 0
  match entry.command, entry.succeeded with
  | .init _, true => some ⟨Window.defaultName, handle, none⟩
  | .act (.addWindow name _ _ border), true => some ⟨name, handle, border.map (borderNow earlier)⟩
  | _, _ => none

def windows : List Entry → List WindowRecord
  | [] => []
  | entry :: earlier =>
      (madeWindow? earlier entry).toList ++ if entry.opens then [] else windows earlier

section

variable {command : Command} {made : List Asked} {earlier : List Entry}

/-! An entry of a command that failed adds its calls and nothing else. -/

@[simp] theorem opens_failed : Entry.opens ⟨command, made, false⟩ = false := by
  cases command <;> rfl

@[simp] theorem registrations_failed :
    registrations (⟨command, made, false⟩ :: earlier) = registrations earlier := by
  simp [registrations, Entry.registration?]

@[simp] theorem windows_failed :
    windows (⟨command, made, false⟩ :: earlier) = windows earlier := by
  simp [windows, madeWindow?]

@[simp] theorem sessionCalls_failed :
    sessionCalls (⟨command, made, false⟩ :: earlier) = made ++ sessionCalls earlier := by
  simp [sessionCalls]

end

end Diary

namespace Machine

open Recorder

def entry (machine : Machine Recorder) (command : Command) : Entry where
  command
  made := askedSince machine.terminal (machine.execute command).2.terminal
  succeeded := (machine.execute command).1.isOk

/-! A read has the entry of a command that insists on the shape. -/

def readEntry (machine : Machine Recorder) (shape : ReadShape) : Entry where
  command := .act (.readAs shape)
  made := askedSince machine.terminal (machine.read shape).2.terminal
  succeeded := (machine.read shape).1.isOk

/-- The machines there can be on a recorder, each with its diary from the first command on. Between
two commands the recorder may be told to fail, or be given input. -/
inductive Chronicled : List Entry → Machine Recorder → Prop
  | new (terminal : Recorder) : Chronicled [] (.new terminal)
  | execute {diary : List Entry} {machine : Machine Recorder}
      (chronicled : Chronicled diary machine) (command : Command) :
      Chronicled (machine.entry command :: diary) (machine.execute command).2
  | read {diary : List Entry} {machine : Machine Recorder} (chronicled : Chronicled diary machine)
      (shape : ReadShape) : Chronicled (machine.readEntry shape :: diary) (machine.read shape).2
  | disturb {diary : List Entry} {machine : Machine Recorder}
      (chronicled : Chronicled diary machine) {terminal : Recorder}
      (change : Rearmed machine.terminal terminal) :
      Chronicled diary { machine with host := { machine.host with terminal } }

theorem Chronicled.reachable {diary : List Entry} {machine : Machine Recorder}
    (chronicled : Chronicled diary machine) : machine.Reachable Rearmed := by
  induction chronicled with
  | new terminal => exact .new terminal
  | execute chronicled command induction => exact .execute induction command
  | read chronicled shape induction => exact .read induction shape
  | disturb chronicled change induction => exact .disturb induction change

end Machine

end TerminalSession
