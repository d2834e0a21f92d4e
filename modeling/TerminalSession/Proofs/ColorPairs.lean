import TerminalSession.Proofs.CompletedActions
import TerminalSession.Proofs.LockStep

/-! # Colors reach the terminal as they were registered

Three tables go along with a session: the names of its colors, the pairs they are bound to, and the
pairs of the terminal. The diary says what must be in them. A step adds an entry to the diary, and
what it does to the tables is what the new entry says. -/

namespace TerminalSession

namespace Recorder

/-! ## The pairs of a recorder

Pairs are only ever added. -/

def KeepsPairs (before after : Recorder) : Prop :=
  ∀ (index : Nat) (found : Color × Color),
    before.pairs[index]? = some found → after.pairs[index]? = some found

variable {start stop : Recorder} {foreground background : Color} {pair : ColorPair}

theorem onPane_pairs {α : Type} (recorder : Recorder) (window : Handle) (use : Pane → α × Pane) :
    (recorder.onPane window use).2.pairs = recorder.pairs := by
  unfold onPane
  cases recorder.panes.get? window with
  | none => rfl
  | some pane => rfl

theorem keepsPairs_push {before after : Recorder} {added : Color × Color}
    (pushed : after.pairs = before.pairs.push added) : KeepsPairs before after := by
  intro index found there
  have bound : index < before.pairs.size := (Array.getElem?_eq_some_iff.mp there).1
  rw [pushed, Array.getElem?_push_lt bound, ← there, Array.getElem?_eq_getElem bound]

theorem keepsPairs_answer (called : Call) (recorder : Recorder) :
    KeepsPairs recorder (answer called recorder).2 := by
  have keeps : (answer called recorder).2.pairs = recorder.pairs →
      KeepsPairs recorder (answer called recorder).2 := by
    intro same index found there
    rw [same]
    exact there
  cases called with
  | allocatePair foreground background =>
      simp only [answer]
      split
      · exact keepsPairs_push rfl
      · exact fun _ _ there => there
  | destroyWindow window =>
      apply keeps
      simp only [answer]
      cases recorder.panes.get? window with
      | none => rfl
      | some pane => rfl
  | readInput window =>
      apply keeps
      simp only [answer]
      cases recorder.panes.get? window <;> cases recorder.input <;> rfl
  | openSession | closeSession | setRawMode | setCursor | createWindow | startColor
  | specialKeys => exact keeps rfl
  | _ => exact keeps (onPane_pairs recorder _ _)

theorem keepsPairs_perform (called : Call) (recorder : Recorder) :
    KeepsPairs recorder (perform called recorder).terminal := by
  rcases perform_cases called recorder with failed | ⟨armed, done⟩
  · rw [failed]
    exact fun _ _ there => there
  · rw [done]
    exact keepsPairs_answer called (recorder.noted called armed)

theorem keepsPairs_of_asks {made : List Asked} (asks : Asks start made stop) :
    KeepsPairs start stop := by
  induction asks with
  | nil => exact fun _ _ there => there
  | call before called induction =>
      intro index found there
      exact keepsPairs_perform called _ index found (induction index found there)

theorem allocated_last {notes : List Log.Entry}
    (reply : perform (.allocatePair foreground background) start = ⟨.ok pair, stop, notes⟩) :
    pair = start.pairs.size + 1 ∧ stop.pairs[pair - 1]? = some (foreground, background) := by
  rcases perform_cases (.allocatePair foreground background) start with failed | ⟨armed, done⟩
  · rw [failed] at reply
    cases reply
  · rw [done] at reply
    simp only [answer] at reply
    split at reply
    · cases reply
      simp [noted]
    · cases reply

end Recorder

/-! ## The order of calls -/

def Call.concernsColors : Call → Bool
  | startColor | allocatePair .. => true
  | _ => false

def Call.showsColors : Call → Bool
  | startColor | allocatePair .. | applyAttribute .. | drawBorder .. => true
  | _ => false

theorem Call.concernsColors_of_quiet {called : Call} (quiet : called.showsColors = false) :
    called.concernsColors = false := by
  cases called with
  | startColor => cases quiet
  | allocatePair foreground background => cases quiet
  | _ => rfl

namespace Diary

def Started (calls : List Asked) : Prop := (⟨.startColor, .ok ()⟩ : Asked) ∈ calls

def Allocated (calls : List Asked) : Prop :=
  ∃ foreground background pair,
    (⟨.allocatePair foreground background, .ok pair⟩ : Asked) ∈ calls

/-- The colors were started before any pair was asked for, and not again once one was allocated. The
calls are listed latest first. -/
def StartsFirst : List Asked → Prop
  | [] => True
  | asked :: earlier =>
      ((∃ foreground background, asked.call = .allocatePair foreground background) →
        Started earlier) ∧
      (asked.call = .startColor → ¬Allocated earlier) ∧ StartsFirst earlier

variable {made calls : List Asked}

theorem StartsFirst.append (order : StartsFirst calls)
    (plain : ∀ asked ∈ made, asked.call.concernsColors = false) : StartsFirst (made ++ calls) := by
  induction made with
  | nil => exact order
  | cons asked rest induction =>
      have colorless := plain asked List.mem_cons_self
      refine ⟨?_, ?_, induction fun other member => plain other (List.mem_cons_of_mem _ member)⟩
      · rintro ⟨foreground, background, same⟩
        rw [same] at colorless
        cases colorless
      · intro same
        rw [same] at colorless
        cases colorless

theorem Allocated.of_append (plain : ∀ asked ∈ made, asked.call.concernsColors = false)
    (allocated : Allocated (made ++ calls)) : Allocated calls := by
  rcases allocated with ⟨foreground, background, pair, member⟩
  rcases List.mem_append.mp member with latest | earlier
  · cases plain _ latest
  · exact ⟨foreground, background, pair, earlier⟩

/-! ## What the diary says of the tables -/

structure Tells (diary : List Entry) (bindings : Bindings) (recorder : Recorder) : Prop where
  colors : bindings.colors = (registrations diary).map fun color => (color.name, color.pair)
  records : bindings.records = windows diary
  paired : ∀ color ∈ registrations diary, 0 < color.pair ∧
    recorder.pairs[color.pair - 1]? = some (color.foreground, color.background)
  increasing : (registrations diary).Pairwise fun newer older => older.pair < newer.pair
  started : registrations diary ≠ [] → Started (sessionCalls diary)
  unused : registrations diary = [] → ¬Allocated (sessionCalls diary)

/-- What is sent for one command: every color as the pair of its latest registration, and as often
as the command asks for. -/
structure SendsColors (diary : List Entry) (entry : Entry) : Prop where
  attributes : ∀ asked ∈ entry.made, ∀ window native operation,
    asked.call = .applyAttribute window native operation →
      ∃ look, entry.command = .act (.changeAttribute operation look) ∧
        ∀ color, look = .color color →
          ∃ pair, latestPair diary color.name = some pair ∧ native = .pair pair
  borders : ∀ asked ∈ entry.made, ∀ window drawn, asked.call = .drawBorder window drawn →
    ∃ name position size border,
      entry.command = .act (.addWindow name position size (some border)) ∧
        drawn = borderNow diary border ∧ (border.color.isSome → drawn.pair.isSome)
  attributeSent : entry.succeeded = true → ∀ operation look,
    entry.command = .act (.changeAttribute operation look) →
      ∃ window native, entry.made = [⟨.applyAttribute window native operation, .ok ()⟩]
  borderSent : entry.succeeded = true → ∀ name position size border,
    entry.command = .act (.addWindow name position size (some border)) →
      ∃ window, ⟨.drawBorder window (borderNow diary border), .ok ()⟩ ∈ entry.made

variable {diary : List Entry} {bindings : Bindings} {recorder start stop : Recorder}

theorem lookup_registrations (colors : List Registration) (name : String) :
    (colors.map fun color => (color.name, color.pair)).lookup name =
      (colors.find? (·.name = name)).map (·.pair) := by
  rw [Bindings.lookup_eq_find?, List.find?_map, Option.map_map]
  rfl

theorem Tells.colorPair (tells : Tells diary bindings recorder) (name : String) :
    bindings.colorPair name = latestPair diary name := by
  rw [Bindings.colorPair, tells.colors, lookup_registrations, latestPair]

theorem Tells.resolveColor (tells : Tells diary bindings recorder) {color : RegisteredColor}
    {pair : ColorPair} (found : bindings.resolveColor color = .ok pair) :
    latestPair diary color.name = some pair := by
  rw [← tells.colorPair]
  unfold Bindings.resolveColor at found
  cases latest : bindings.colorPair color.name with
  | none =>
      rw [latest] at found
      cases found
  | some pair =>
      rw [latest] at found
      cases found
      rfl

theorem exists_of_map_ok {α β : Type} {checked : Except Refusal α} {change : α → β} {result : β}
    (mapped : checked.map change = .ok result) :
    ∃ value, checked = .ok value ∧ change value = result := by
  cases checked with
  | error refusal => cases mapped
  | ok value => exact ⟨value, rfl, Except.ok.inj mapped⟩

theorem Tells.resolveAttribute (tells : Tells diary bindings recorder) {color : RegisteredColor}
    {native : NativeAttribute} (found : bindings.resolveAttribute (.color color) = .ok native) :
    ∃ pair, latestPair diary color.name = some pair ∧ native = .pair pair := by
  rcases exists_of_map_ok found with ⟨pair, solved, rfl⟩
  exact ⟨pair, tells.resolveColor solved, rfl⟩

theorem Tells.resolveBorder (tells : Tells diary bindings recorder) {border : Border}
    {drawn : ResolvedBorder} (found : bindings.resolveBorder border = .ok drawn) :
    drawn = borderNow diary border ∧ (border.color.isSome → drawn.pair.isSome) := by
  rcases border with ⟨glyphs, color⟩
  cases color with
  | none =>
      cases found
      exact ⟨rfl, fun colored => absurd colored Bool.false_ne_true⟩
  | some color =>
      rcases exists_of_map_ok found with ⟨pair, solved, rfl⟩
      refine ⟨?_, fun _ => rfl⟩
      rw [borderNow, Option.bind_some, tells.resolveColor solved]

theorem Tells.resolveBorders (tells : Tells diary bindings recorder) {border : Option Border}
    {resolved : Option ResolvedBorder} (found : border.mapM bindings.resolveBorder = .ok resolved) :
    resolved = border.map (borderNow diary) := by
  cases border with
  | none =>
      cases found
      rfl
  | some border =>
      rw [Option.mapM_some] at found
      rcases exists_of_map_ok found with ⟨drawn, solved, rfl⟩
      rw [Option.map_some, (tells.resolveBorder solved).1]

/-! ## Steps

A step adds an entry to the diary. An entry that adds neither a color nor a window leaves the tables
as they are. -/

structure Steps (diary : List Entry) (entry : Entry) (bindings : Option Bindings)
    (recorder : Recorder) : Prop where
  order : StartsFirst (sessionCalls (entry :: diary))
  tells : ∀ bound, bindings = some bound → Tells (entry :: diary) bound recorder
  sends : SendsColors diary entry

def Concludes (diary : List Entry) (command : Command) (succeeded : Bool)
    (bindings : Option Bindings) (start stop : Recorder) : Prop :=
  ∃ made, Asks start made stop ∧ Steps diary ⟨command, made, succeeded⟩ bindings stop

variable {action : Action} {command : Command} {succeeded : Bool}

theorem Concludes.steps {after : Option Bindings}
    (concludes : Concludes diary command succeeded after start stop) :
    Steps diary ⟨command, Recorder.askedSince start stop, succeeded⟩ after stop := by
  rcases concludes with ⟨made, asks, steps⟩
  rw [Recorder.askedSince_eq asks]
  exact steps

/-- An entry that adds neither a color nor a window leaves the tables as they are. -/
theorem Tells.later {entry : Entry} {after : Bindings} (tells : Tells diary bindings start)
    (asks : Asks start entry.made stop) (same : bindings.Alike after)
    (colors : registrations (entry :: diary) = registrations diary)
    (records : windows (entry :: diary) = windows diary)
    (made : sessionCalls (entry :: diary) = entry.made ++ sessionCalls diary)
    (unallocated : Allocated (entry.made ++ sessionCalls diary) → Allocated (sessionCalls diary)) :
    Tells (entry :: diary) after stop := by
  constructor
  · rw [colors, same.1]
    exact tells.colors
  · rw [records, same.2]
    exact tells.records
  · rw [colors]
    intro color member
    have paired := tells.paired color member
    exact ⟨paired.1, Recorder.keepsPairs_of_asks asks _ _ paired.2⟩
  · rw [colors]
    exact tells.increasing
  · rw [colors, made]
    intro some
    exact List.mem_append_right _ (tells.started some)
  · rw [colors, made]
    intro none allocated
    exact tells.unused none (unallocated allocated)

theorem Tells.failed (tells : Tells diary bindings start) (asks : Asks start made stop)
    (unallocated : Allocated (made ++ sessionCalls diary) → Allocated (sessionCalls diary)) :
    Tells (⟨command, made, false⟩ :: diary) bindings stop :=
  tells.later asks ⟨rfl, rfl⟩ registrations_failed windows_failed sessionCalls_failed unallocated

theorem Tells.rearmed (tells : Tells diary bindings start) (change : Machine.Rearmed start stop) :
    Tells diary bindings stop := by
  rcases change with ⟨armed, input, rfl⟩
  exact ⟨tells.colors, tells.records, tells.paired, tells.increasing, tells.started, tells.unused⟩

theorem plain_of_mayAsk (allowed : ∀ asked ∈ made, action.MayAsk bindings asked.call)
    (noColor : ∀ name foreground background, action ≠ .addColor name foreground background) :
    ∀ asked ∈ made, asked.call.concernsColors = false := by
  intro asked member
  have may := allowed asked member
  rcases asked with ⟨called, answer⟩
  cases called with
  | startColor =>
      rcases may with ⟨name, foreground, background, rfl⟩
      exact absurd rfl (noColor name foreground background)
  | allocatePair foreground background =>
      rcases may with ⟨name, rfl⟩
      exact absurd rfl (noColor name foreground background)
  | _ => rfl

/-- What is sent for an action, whether it succeeds or not, is what the action may ask for. -/
theorem sends_of_mayAsk (tells : Tells diary bindings recorder)
    (allowed : ∀ asked ∈ made, action.MayAsk bindings asked.call)
    (complete : succeeded = true → ∃ after, Completes bindings action made after) :
    SendsColors diary ⟨.act action, made, succeeded⟩ := by
  constructor
  · rintro ⟨called, answer⟩ member window native operation same
    have may := allowed _ member
    change called = _ at same
    subst same
    rcases may with ⟨rfl, look, rfl, found⟩
    refine ⟨look, rfl, ?_⟩
    rintro color rfl
    exact tells.resolveAttribute found
  · rintro ⟨called, answer⟩ member window drawn same
    have may := allowed _ member
    change called = _ at same
    subst same
    rcases may with ⟨name, position, size, border, rfl, found⟩
    exact ⟨name, position, size, border, rfl, tells.resolveBorder found⟩
  · rintro succeeded operation look ⟨⟩
    rcases complete succeeded with ⟨after, completed⟩
    cases completed with
    | changeAttribute => exact ⟨_, _, rfl⟩
    | other noWindow noColor noLook => exact absurd rfl (noLook operation look)
  · rintro succeeded name position size border ⟨⟩
    rcases complete succeeded with ⟨after, completed⟩
    cases completed with
    | addWindow found created drawn => exact ⟨_, drawn _ (tells.resolveBorders found)⟩
    | other noWindow noColor noLook => exact absurd rfl (noWindow name position size (some border))

theorem sends_of_quiet (quiet : ∀ asked ∈ made, asked.call.showsColors = false)
    (failed : ∀ action, command = .act action → succeeded = false) :
    SendsColors diary ⟨command, made, succeeded⟩ := by
  constructor
  · rintro asked member window native operation same
    have shows := quiet asked member
    rw [same] at shows
    cases shows
  · rintro asked member window drawn same
    have shows := quiet asked member
    rw [same] at shows
    cases shows
  · rintro succeeded operation look same
    rw [failed _ same] at succeeded
    cases succeeded
  · rintro succeeded name position size border same
    rw [failed _ same] at succeeded
    cases succeeded

theorem Tells.colors_eq_nil_iff (tells : Tells diary bindings recorder) :
    bindings.colors = [] ↔ registrations diary = [] := by
  rw [tells.colors, List.map_eq_nil_iff]

theorem colorCalls_order (tells : Tells diary bindings recorder)
    (order : StartsFirst (sessionCalls diary)) (foreground background : Color)
    (answer : Except Fault ColorPair) :
    StartsFirst (colorCalls bindings foreground background answer ++ sessionCalls diary) ∧
      Started (colorCalls bindings foreground background answer ++ sessionCalls diary) := by
  unfold colorCalls
  cases empty : bindings.colors with
  -- without colors there are no pairs either, so the colors may be started
  | nil =>
      have unused := tells.unused (tells.colors_eq_nil_iff.mp empty)
      refine ⟨⟨?_, ?_, ?_, fun _ => unused, order⟩, ?_⟩
      · intro _
        exact List.mem_cons_self
      · intro same
        cases same
      · rintro ⟨_, _, ⟨⟩⟩
      · exact List.mem_cons_of_mem _ List.mem_cons_self
  | cons first rest =>
      have some : registrations diary ≠ [] := by
        intro none
        rw [tells.colors_eq_nil_iff.mpr none] at empty
        cases empty
      have started := tells.started some
      refine ⟨⟨fun _ => started, ?_, order⟩, List.mem_cons_of_mem _ started⟩
      intro same
      cases same

theorem order_of_colorFailed {foreground background : Color} (tells : Tells diary bindings recorder)
    (order : StartsFirst (sessionCalls diary))
    (failed : ColorFailed bindings foreground background made) :
    StartsFirst (made ++ sessionCalls diary) ∧
      (Allocated (made ++ sessionCalls diary) → Allocated (sessionCalls diary)) := by
  cases failed with
  | unstarted empty fault =>
      have unused := tells.unused (tells.colors_eq_nil_iff.mp empty)
      refine ⟨⟨?_, fun _ => unused, order⟩, ?_⟩
      · rintro ⟨_, _, ⟨⟩⟩
      · rintro ⟨foreground, background, pair, member⟩
        rcases List.mem_cons.mp member with latest | earlier
        · cases latest
        · exact ⟨foreground, background, pair, earlier⟩
  | unallocated fault =>
      refine ⟨(colorCalls_order tells order _ _ _).1, ?_⟩
      rintro ⟨front, back, pair, member⟩
      rcases List.mem_append.mp member with latest | earlier
      · unfold colorCalls at latest
        rcases List.mem_cons.mp latest with same | opening
        · cases same
        · split at opening
          · cases List.mem_singleton.mp opening
          · cases opening
      · exact ⟨front, back, pair, earlier⟩

theorem Tells.alike (tells : Tells diary bindings start) (asks : Asks start made stop)
    (allowed : ∀ asked ∈ made, action.MayAsk bindings asked.call)
    (noWindow : ∀ name position size border, action ≠ .addWindow name position size border)
    (noColor : ∀ name foreground background, action ≠ .addColor name foreground background)
    {after : Bindings} (same : bindings.Alike after) :
    Tells (⟨.act action, made, true⟩ :: diary) after stop := by
  have colors : registrations (⟨.act action, made, true⟩ :: diary) = registrations diary := by
    cases action with
    | addColor name foreground background => exact absurd rfl (noColor name foreground background)
    | _ => rfl
  have records : windows (⟨.act action, made, true⟩ :: diary) = windows diary := by
    cases action with
    | addWindow name position size border => exact absurd rfl (noWindow name position size border)
    | _ => rfl
  exact tells.later asks same colors records rfl
    (Allocated.of_append (plain_of_mayAsk allowed noColor))

theorem Tells.addWindow (tells : Tells diary bindings start) (asks : Asks start made stop)
    {name : String} {position : Position} {size : Size} {border : Option Border}
    (allowed : ∀ asked ∈ made,
      (Action.addWindow name position size border).MayAsk bindings asked.call)
    {resolved : Option ResolvedBorder} {window : Handle}
    (found : border.mapM bindings.resolveBorder = .ok resolved)
    (created : made.findSome? Asked.window? = some window) :
    Tells (⟨.act (.addWindow name position size border), made, true⟩ :: diary)
      (bindings.addWindow name resolved window) stop := by
  have plain := plain_of_mayAsk allowed (by simp)
  have failed : Tells (⟨.act (.addWindow name position size border), made, false⟩ :: diary)
      bindings stop := tells.failed asks (Allocated.of_append plain)
  refine ⟨failed.colors, ?_, failed.paired, failed.increasing, failed.started, failed.unused⟩
  change ⟨name, window, resolved⟩ :: bindings.records = windows _
  rw [windows, madeWindow?, created, tells.records, tells.resolveBorders found]
  rfl

theorem Tells.addColor (tells : Tells diary bindings start) {name : String}
    {foreground background : Color} {pair : ColorPair}
    (asks : Asks start (colorCalls bindings foreground background (.ok pair)) stop)
    (order : StartsFirst (sessionCalls diary)) :
    Tells (⟨.act (.addColor name foreground background),
        colorCalls bindings foreground background (.ok pair), true⟩ :: diary)
      (bindings.addColor name pair) stop := by
  rcases asks.last with ⟨middle, notes, before, replied⟩
  have allocated := Recorder.allocated_last replied
  have colors : registrations (⟨.act (.addColor name foreground background),
      colorCalls bindings foreground background (.ok pair), true⟩ :: diary) =
      ⟨name, pair, foreground, background⟩ :: registrations diary := rfl
  constructor
  · rw [colors, List.map_cons, ← tells.colors]
    rfl
  · exact tells.records
  · rw [colors]
    intro color member
    rcases List.mem_cons.mp member with rfl | earlier
    · exact ⟨by rw [allocated.1]; exact Nat.succ_pos _, allocated.2⟩
    · have paired := tells.paired color earlier
      exact ⟨paired.1, Recorder.keepsPairs_of_asks asks _ _ paired.2⟩
  · rw [colors, List.pairwise_cons]
    refine ⟨?_, tells.increasing⟩
    intro color earlier
    -- an earlier pair was in the table already, and the new one is the first beyond it
    have paired := tells.paired color earlier
    have there := Recorder.keepsPairs_of_asks before _ _ paired.2
    have bound : color.pair - 1 < middle.pairs.size := (Array.getElem?_eq_some_iff.mp there).1
    change color.pair < pair
    rw [allocated.1]
    exact Nat.lt_add_one_of_le (Nat.le_of_pred_lt bound)
  · intro _
    exact (colorCalls_order tells order foreground background (.ok pair)).2
  · intro none
    rw [colors] at none
    cases none

/-! ## Commands and reads

A command that failed and had nothing to do with colors leaves the tables as they are, and a session
starts with empty ones. Calls that show no colors need not send them, unless the command says so. -/

theorem steps_of_completes {after : Bindings} (tells : Tells diary bindings start)
    (order : StartsFirst (sessionCalls diary)) (asks : Asks start made stop)
    (allowed : ∀ asked ∈ made, action.MayAsk bindings asked.call)
    (completed : Completes bindings action made after) :
    Steps diary ⟨.act action, made, true⟩ (some after) stop := by
  have sends : SendsColors diary ⟨.act action, made, true⟩ :=
    sends_of_mayAsk tells allowed fun _ => ⟨after, completed⟩
  have both : StartsFirst (made ++ sessionCalls diary) ∧
      Tells (⟨.act action, made, true⟩ :: diary) after stop := by
    cases completed with
    | addColor => exact ⟨(colorCalls_order tells order _ _ _).1, tells.addColor asks order⟩
    | addWindow found created drawn =>
        exact ⟨order.append (plain_of_mayAsk allowed (by simp)),
          tells.addWindow asks allowed found created⟩
    | changeAttribute =>
        exact ⟨order.append (plain_of_mayAsk allowed (by simp)),
          tells.alike asks allowed (by simp) (by simp) ⟨rfl, rfl⟩⟩
    | other noWindow noColor noLook colors records =>
        exact ⟨order.append (plain_of_mayAsk allowed noColor),
          tells.alike asks allowed noWindow noColor ⟨colors, records⟩⟩
  refine ⟨both.1, ?_, sends⟩
  rintro _ ⟨⟩
  exact both.2

theorem steps_of_failed (tells : Tells diary bindings start)
    (order : StartsFirst (sessionCalls diary)) (asks : Asks start made stop)
    (allowed : ∀ asked ∈ made, action.MayAsk bindings asked.call)
    (colorFailed : ∀ name foreground background, action = .addColor name foreground background →
      ColorFailed bindings foreground background made) :
    Steps diary ⟨.act action, made, false⟩ (some bindings) stop := by
  have sends : SendsColors diary ⟨.act action, made, false⟩ :=
    sends_of_mayAsk tells allowed fun failed => absurd failed Bool.false_ne_true
  have ordered : StartsFirst (made ++ sessionCalls diary) ∧
      (Allocated (made ++ sessionCalls diary) → Allocated (sessionCalls diary)) := by
    by_cases color : ∃ name foreground background, action = .addColor name foreground background
    · rcases color with ⟨name, foreground, background, same⟩
      exact order_of_colorFailed tells order (colorFailed name foreground background same)
    · have plain := plain_of_mayAsk allowed fun name foreground background same =>
        color ⟨name, foreground, background, same⟩
      exact ⟨order.append plain, Allocated.of_append plain⟩
  refine ⟨ordered.1, ?_, sends⟩
  rintro _ ⟨⟩
  exact tells.failed asks ordered.2

theorem act_steps (session : Session) {host : Logged Recorder} (action : Action)
    (tells : Tells diary bindings host.terminal) (order : StartsFirst (sessionCalls diary)) :
    Ends (Machine.perform session bindings action) host
      (fun result stop => Concludes diary (.act action) true (some result.2)
        host.terminal stop.terminal)
      (fun _ stop => Concludes diary (.act action) false (some bindings)
        host.terminal stop.terminal) := by
  have only := Machine.perform_asksOnly session bindings action host
  apply (only.and (Machine.perform_completes session bindings action)).mono
  · rintro result stop ⟨⟨made, asks, allowed⟩, same, asksSame, completed⟩
    rw [Recorder.asks_unique asksSame asks] at completed
    exact ⟨made, asks, steps_of_completes tells order asks allowed completed⟩
  · rintro failure stop ⟨⟨made, asks, allowed⟩, colorFailed⟩
    refine ⟨made, asks, steps_of_failed tells order asks allowed ?_⟩
    intro name foreground background same
    rcases colorFailed name foreground background same with ⟨other, asksOther, failed⟩
    rw [Recorder.asks_unique asksOther asks] at failed
    exact failed

theorem readBound_steps {host : Logged Recorder} (shape : ReadShape)
    (tells : Tells diary bindings host.terminal) (order : StartsFirst (sessionCalls diary)) :
    Ends (Machine.readBound bindings shape) host
      (fun _ stop => Concludes diary (.act (.readAs shape)) true (some bindings)
        host.terminal stop.terminal)
      (fun _ stop => Concludes diary (.act (.readAs shape)) false (some bindings)
        host.terminal stop.terminal) := by
  have only : AsksOnly ((Action.readAs shape).MayAsk bindings)
      (Machine.readBound bindings shape : Exchange Recorder shape.Value) :=
    Machine.readBound_asksOnly trivial
  apply (only host).mono
  · rintro _ stop ⟨made, asks, allowed⟩
    have completed : Completes bindings (.readAs shape) made bindings :=
      .other (by simp) (by simp) (by simp) rfl rfl
    exact ⟨made, asks, steps_of_completes tells order asks allowed completed⟩
  · rintro _ stop ⟨made, asks, allowed⟩
    exact ⟨made, asks, steps_of_failed tells order asks allowed (by simp)⟩

variable {before : Option Bindings}

theorem failed_steps (tells : ∀ bound, before = some bound → Tells diary bound start)
    (order : StartsFirst (sessionCalls diary)) (asks : Asks start made stop)
    (quiet : ∀ asked ∈ made, asked.call.showsColors = false) :
    Steps diary ⟨command, made, false⟩ before stop := by
  have plain : ∀ asked ∈ made, asked.call.concernsColors = false := fun asked member =>
    Call.concernsColors_of_quiet (quiet asked member)
  refine ⟨?_, ?_, ?_⟩
  · rw [sessionCalls_failed]
    exact order.append plain
  · intro bound same
    exact (tells bound same).failed asks (Allocated.of_append plain)
  · exact sends_of_quiet quiet fun _ _ => rfl

theorem openSession_quiet {τ : Type} [Terminal τ] :
    AsksOnly (fun called => called.showsColors = false)
      (Machine.openSession : Exchange τ Bindings) :=
  .bind (.call rfl) fun _ => Machine.prepareScreen_asksOnly rfl rfl rfl rfl

theorem openSession_made {τ : Type} [Terminal τ] {host : Logged τ} :
    Ends (Machine.openSession : Exchange τ Bindings) host
      (fun fresh stop => ∃ made screen keys, Asks host.terminal made stop.terminal ∧
        made.findSome? Asked.window? = some screen ∧ fresh = .fresh screen keys)
      (fun _ _ => True) := by
  simp only [Machine.openSession, ends_bind]
  apply Exchange.ends_answered .nil
  intro screen _ _ opened
  apply Exchange.ends_answered opened
  intro _ _ _ mode
  apply Exchange.ends_answered mode
  intro _ _ _ keypad
  apply Exchange.ends_answered keypad
  intro _ _ _ noDelay
  apply Exchange.ends_answered noDelay
  intro keys _ _ special
  exact ⟨_, screen, keys, special, rfl, rfl⟩

theorem init_steps {host : Logged Recorder} (options : SessionOptions)
    (tells : ∀ bound, before = some bound → Tells diary bound host.terminal)
    (order : StartsFirst (sessionCalls diary)) :
    Ends Machine.openSession host
      (fun fresh stop =>
        Concludes diary (.init options) true (some fresh) host.terminal stop.terminal)
      (fun _ stop => Concludes diary (.init options) false before host.terminal stop.terminal) := by
  apply (Ends.and (openSession_quiet host) openSession_made).mono
  · rintro fresh stop ⟨⟨made, asks, quiet⟩, same, screen, keys, asksSame, opened, rfl⟩
    rw [Recorder.asks_unique asksSame asks] at opened
    have plain : ∀ asked ∈ made, asked.call.concernsColors = false := fun asked member =>
      Call.concernsColors_of_quiet (quiet asked member)
    have nothing : ¬Allocated [] := by
      rintro ⟨_, _, _, ⟨⟩⟩
    have ordered : StartsFirst (made ++ []) := StartsFirst.append trivial plain
    have unused : ¬Allocated (made ++ []) := fun some => nothing (some.of_append plain)
    rw [List.append_nil] at ordered unused
    have sends : SendsColors diary ⟨.init options, made, true⟩ :=
      sends_of_quiet quiet fun _ same => by cases same
    refine ⟨made, asks, ordered, ?_, sends⟩
    rintro _ ⟨⟩
    have none : registrations (⟨.init options, made, true⟩ :: diary) = [] := rfl
    refine ⟨rfl, ?_, ?_, .nil, fun some => absurd none some, fun _ => unused⟩
    · change [⟨Window.defaultName, screen, .none⟩] = windows _
      rw [windows, madeWindow?, opened]
      rfl
    · rw [none]
      intro color member
      cases member
  · rintro _ stop ⟨⟨made, asks, quiet⟩, _⟩
    exact ⟨made, asks, failed_steps tells order asks quiet⟩

theorem deinit_steps {host : Logged Recorder}
    (tells : ∀ bound, before = some bound → Tells diary bound host.terminal)
    (order : StartsFirst (sessionCalls diary)) :
    Ends Machine.closeSession host
      (fun _ stop => Concludes diary .deinit true none host.terminal stop.terminal)
      (fun _ stop => Concludes diary .deinit false before host.terminal stop.terminal) := by
  have only : AsksOnly (fun called => called.showsColors = false)
      (Machine.closeSession : Exchange Recorder Unit) :=
    .bind (.call rfl) fun _ => .note _ _ _
  apply (only host).mono
  · rintro _ stop ⟨made, asks, quiet⟩
    have plain : ∀ asked ∈ made, asked.call.concernsColors = false := fun asked member =>
      Call.concernsColors_of_quiet (quiet asked member)
    have sends : SendsColors diary ⟨.deinit, made, true⟩ :=
      sends_of_quiet quiet fun _ same => by cases same
    refine ⟨made, asks, order.append plain, ?_, sends⟩
    rintro _ ⟨⟩
  · rintro _ stop ⟨made, asks, quiet⟩
    exact ⟨made, asks, failed_steps tells order asks quiet⟩

theorem dispatch_steps {host : Logged Recorder} (same : host.terminal = start)
    {phase next : Phase} (tells : ∀ bound, before = some bound → Tells diary bound start)
    (order : StartsFirst (sessionCalls diary)) (leads : command.Leads phase next) :
    Ends (Machine.dispatch phase before command) host
      (fun answer stop => Concludes diary command true answer.2 start stop.terminal)
      (fun _ stop => Concludes diary command false before start stop.terminal) := by
  subst same
  cases leads with
  | init options =>
      simp only [Machine.dispatch, bind_pure_comp, ends_map]
      exact init_steps options tells order
  | deinit session =>
      simp only [Machine.dispatch, bind_pure_comp, ends_map]
      exact deinit_steps tells order
  | act met updated =>
      cases before with
      | none =>
          have quiet : ∀ asked ∈ ([] : List Asked), asked.call.showsColors = false := by simp
          exact ⟨[], .nil, failed_steps tells order .nil quiet⟩
      | some bindings =>
          simp only [Machine.dispatch, bind_pure_comp, ends_map]
          exact act_steps _ _ (tells bindings rfl) order

end Diary

namespace Machine

open Diary Recorder

structure Holds (diary : List Entry) (machine : Machine Recorder) : Prop where
  order : StartsFirst (sessionCalls diary)
  tells : ∀ bound, machine.bindings = some bound → Tells diary bound machine.terminal

variable {diary : List Entry} {machine : Machine Recorder}

theorem execute_steps (holds : Holds diary machine) (command : Command) :
    Steps diary (machine.entry command) (machine.execute command).2.bindings
      (machine.execute command).2.terminal := by
  apply execute_rule machine command (motive := fun result =>
    Steps diary ⟨command, askedSince machine.terminal result.2.terminal, result.1.isOk⟩
      result.2.bindings result.2.terminal)
  · intro refusal _
    have nothing : Asks machine.terminal [] machine.terminal := .nil
    rw [askedSince_eq nothing]
    exact failed_steps holds.tells holds.order nothing (by simp)
  · intro next log leads
    refine Ends.mono (dispatch_steps rfl holds.tells holds.order leads) ?_ ?_
    · intro answer stop concludes
      exact concludes.steps
    · intro failure stop concludes
      exact concludes.steps

theorem read_steps (holds : Holds diary machine) (shape : ReadShape) :
    Steps diary (machine.readEntry shape) (machine.read shape).2.bindings
      (machine.read shape).2.terminal := by
  apply read_rule machine shape (motive := fun result =>
    Steps diary ⟨.act (.readAs shape), askedSince machine.terminal result.2.terminal, result.1.isOk⟩
      result.2.bindings result.2.terminal)
  · intro refusal
    have nothing : Asks machine.terminal [] machine.terminal := .nil
    rw [askedSince_eq nothing]
    exact failed_steps holds.tells holds.order nothing (by simp)
  · intro session bindings _ bound
    rw [bound]
    apply (readBound_steps shape (holds.tells bindings bound) holds.order).mono
    · intro value stop concludes
      exact concludes.steps
    · intro failure stop concludes
      exact concludes.steps

theorem Chronicled.holds (chronicled : Chronicled diary machine) : Holds diary machine := by
  induction chronicled with
  | new terminal =>
      refine ⟨trivial, ?_⟩
      rintro bound ⟨⟩
  | execute chronicled command induction =>
      have steps := execute_steps induction command
      exact ⟨steps.order, steps.tells⟩
  | read chronicled shape induction =>
      have steps := read_steps induction shape
      exact ⟨steps.order, steps.tells⟩
  | disturb chronicled change induction =>
      exact ⟨induction.order, fun bound same => (induction.tells bound same).rearmed change⟩

theorem records_suffix {entry : Entry} {earlier later : Bindings} {stop : Recorder}
    (holds : Holds diary machine) (bound : machine.bindings = some earlier)
    (steps : Steps diary entry (some later) stop) (running : entry.opens = false) :
    earlier.records <:+ later.records := by
  rw [(holds.tells earlier bound).records, (steps.tells later rfl).records, windows, running]
  exact List.suffix_append _ _

theorem entry_opens {bindings : Bindings} (reached : machine.Reachable Rearmed)
    (bound : machine.bindings = some bindings) (command : Command) :
    (machine.entry command).opens = false := by
  cases command with
  | deinit => rfl
  | act action => rfl
  | init options =>
      have inStep := reached.inStep
      rcases machine with ⟨host, phase, _⟩
      cases bound
      cases inStep with
      | active => rfl

/-- Colors, pairs and borders are what the diary says in every session, and go to the terminal so.
Both tables of a session list the newest first. -/
theorem colors_reach_terminal (chronicled : Chronicled diary machine) :
    (∀ session, machine.phase = .active session →
      ∃ bindings, machine.bindings = some bindings ∧
        bindings.colors = (registrations diary).map (fun color => (color.name, color.pair)) ∧
        (registrations diary).Pairwise (fun newer older => older.pair < newer.pair) ∧
        (∀ color ∈ registrations diary, 0 < color.pair ∧
          machine.terminal.pairs[color.pair - 1]? = some (color.foreground, color.background)) ∧
        bindings.records = windows diary) ∧
    StartsFirst (sessionCalls diary) ∧
    (∀ command, SendsColors diary (machine.entry command) ∧
      ∀ earlier later, machine.bindings = some earlier →
        (machine.execute command).2.bindings = some later → earlier.records <:+ later.records) ∧
    (∀ shape, SendsColors diary (machine.readEntry shape) ∧
      ∀ earlier later, machine.bindings = some earlier →
        (machine.read shape).2.bindings = some later → earlier.records <:+ later.records) := by
  have holds := chronicled.holds
  have reached := chronicled.reachable
  refine ⟨?_, holds.order, ?_, ?_⟩
  · intro session running
    rcases (reached.agrees native_rearmed).bound running with ⟨bindings, bound, _⟩
    have tells := holds.tells bindings bound
    exact ⟨bindings, bound, tells.colors, tells.increasing, tells.paired, tells.records⟩
  · intro command
    have steps := execute_steps holds command
    refine ⟨steps.sends, ?_⟩
    intro earlier later bound kept
    rw [kept] at steps
    exact records_suffix holds bound steps (entry_opens reached bound command)
  · intro shape
    have steps := read_steps holds shape
    refine ⟨steps.sends, ?_⟩
    intro earlier later bound kept
    rw [kept] at steps
    exact records_suffix holds bound steps rfl

/-- A color is added, a window gets a border of it, and adding the color again fails once. Then the
color has the second pair, and the border still the first. -/
theorem readded_color_reaches_terminal :
    let red := (execute (execute (.new (Recorder.failAfter default .allocatePair 1)) (.init {})).2
      (.act (.addColor "c" .red .black))).2
    let drawn := (red.execute
      (.act (.addWindow "w" .origin ⟨3, 3⟩ (some ⟨.ascii, some ⟨"c"⟩⟩)))).2
    let denied := drawn.execute (.act (.addColor "c" .green .black))
    let blue := (denied.2.execute (.act (.addColor "c" .blue .black))).2
    denied.1 = .error (.fault (.device .injected)) ∧
      ∃ bindings, blue.bindings = some bindings ∧ bindings.colors = [("c", 2), ("c", 1)] ∧
        bindings.records = [⟨"w", 1, some ⟨.ascii, some 1⟩⟩, ⟨Window.defaultName, 0, none⟩] ∧
        blue.terminal.pairs[1]? = some (.blue, .black) := by
  intro red drawn denied blue
  have chronicled : ∃ diary, Chronicled diary blue ∧
      registrations diary = [⟨"c", 2, .blue, .black⟩, ⟨"c", 1, .red, .black⟩] ∧
      windows diary = [⟨"w", 1, some ⟨.ascii, some 1⟩⟩, ⟨Window.defaultName, 0, none⟩] :=
    ⟨_, .execute (.execute (.execute (.execute (.execute (.new _) _) _) _) _) _, rfl, rfl⟩
  rcases chronicled with ⟨diary, chronicled, added, made⟩
  have running : ∃ session, blue.phase = .active session := ⟨_, rfl⟩
  rcases running with ⟨session, running⟩
  rcases (colors_reach_terminal chronicled).1 session running with
    ⟨bindings, bound, colors, _, paired, records⟩
  rw [added] at colors paired
  rw [made] at records
  exact ⟨rfl, bindings, bound, colors, records, (paired _ List.mem_cons_self).2⟩

end Machine

end TerminalSession
