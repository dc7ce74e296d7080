import AppLauncher.Report.Console
import Mathlib.Data.List.TakeDrop

/-!
# Turns at a console

A console is given prompts and messages one after the other, and the sink may fail
to be flushed in any of them.  What a turn does is stated here once, by the first
thing that goes wrong in it: the sink is full, the sink is not flushed, or the line
that was read is no text.  In every case the sink takes of the text what it has
room for, and only a turn that reads touches the input.
-/

namespace AppLauncher

/-! ## Writing to a sink -/

namespace Sink

/-- What the sink takes of the bytes that are written to it. -/
def taken (sink : Sink) (bytes : Bytes) : Bytes :=
  match sink.room with
  | none => bytes
  | some room => bytes.take room

def after (sink : Sink) (bytes : Bytes) : Sink :=
  { sink with
    written := sink.written ++ sink.taken bytes
    room := sink.room.map (· - bytes.length) }

theorem write_eq (sink : Sink) (bytes : Bytes) :
    sink.write bytes =
      (if sink.taken bytes = bytes then .ok () else .error .outputFull, sink.after bytes) := by
  unfold write taken after
  cases hroom : sink.room with
  | none => simp [taken, hroom]
  | some room => simp [taken, hroom, List.take_eq_self_iff]

@[simp] theorem taken_nil (sink : Sink) : sink.taken [] = [] := by
  unfold taken
  cases sink.room <;> simp

@[simp] theorem after_nil (sink : Sink) : sink.after [] = sink := by
  cases sink with
  | mk written room flushFails => cases room <;> simp [after]

theorem taken_append (sink : Sink) (first second : Bytes) :
    sink.taken (first ++ second) = sink.taken first ++ (sink.after first).taken second := by
  unfold taken after
  cases sink.room with
  | none => rfl
  | some room => simp [List.take_append]

theorem after_append (sink : Sink) (first second : Bytes) :
    sink.after (first ++ second) = (sink.after first).after second := by
  have hwritten := sink.taken_append first second
  cases sink with
  | mk written room flushFails =>
      cases room with
      | none => simp_all [after]
      | some room => simp_all [after, Nat.sub_add_eq]

theorem length_taken_le (sink : Sink) (bytes : Bytes) :
    (sink.taken bytes).length ≤ bytes.length := by
  unfold taken
  cases sink.room with
  | none => exact Nat.le_refl _
  | some room => exact List.length_take_le' room bytes

theorem taken_append_eq_iff (sink : Sink) (first second : Bytes) :
    sink.taken (first ++ second) = first ++ second ↔
      sink.taken first = first ∧ (sink.after first).taken second = second := by
  rw [taken_append]
  constructor
  · intro h
    have hlength := congrArg List.length h
    have hfirst := sink.length_taken_le first
    have hsecond := (sink.after first).length_taken_le second
    simp only [List.length_append] at hlength
    exact List.append_inj h (by omega)
  · rintro ⟨hfirst, hsecond⟩
    rw [hfirst, hsecond]

theorem after_append_of_ne {sink : Sink} {first : Bytes} (hcut : sink.taken first ≠ first)
    (second : Bytes) : sink.after (first ++ second) = sink.after first := by
  cases sink with
  | mk written room flushFails =>
      cases room with
      | none => exact absurd rfl hcut
      | some room =>
          have hfull : room < first.length := by
            simpa [taken, List.take_eq_self_iff] using hcut
          have hnone : room - first.length = 0 := Nat.sub_eq_zero_of_le (Nat.le_of_lt hfull)
          rw [after_append]
          simp [after, taken, hnone]

end Sink

namespace Console

def afterWriting (console : Console) (bytes : Bytes) : Console :=
  { console with sink := console.sink.after bytes }

theorem writeAll_eq (console : Console) (texts : List String) :
    console.writeAll texts =
      (if console.sink.taken (texts.flatMap Bytes.ofText) = texts.flatMap Bytes.ofText
          then .ok () else .error .outputFull,
        console.afterWriting (texts.flatMap Bytes.ofText)) := by
  induction texts generalizing console with
  | nil => simp [writeAll, afterWriting]
  | cons text later ih =>
      rw [writeAll, write, Sink.write_eq, List.flatMap_cons]
      by_cases hfirst : console.sink.taken (Bytes.ofText text) = Bytes.ofText text
      · simp only [hfirst, if_true, ih]
        simp [Sink.taken_append_eq_iff, hfirst, afterWriting, Sink.after_append]
      · simp [Sink.taken_append_eq_iff, hfirst, afterWriting, Sink.after_append_of_ne hfirst]

/-! ## Turns -/

/-- What a console is asked for. -/
inductive Request where
  /-- Consent, after a dialog. -/
  | prompt (dialog : Dialog)
  /-- A dialog that needs no answer. -/
  | message (dialog : Dialog)
deriving DecidableEq, Repr

/-- A request, and whether the sink fails to be flushed meanwhile. -/
structure Turn where
  request : Request
  flushFails : Bool := false
deriving DecidableEq, Repr

/-- What became of a turn.  A message has no choice. -/
structure Reply where
  choice : Option Choice
  warnings : List ConsoleWarning
  /-- The bytes that the sink took. -/
  output : Bytes
  /-- The bytes that were taken from the input. -/
  consumed : Bytes
deriving DecidableEq, Repr

def answer (console : Console) : Request → Option Choice × List ConsoleWarning × Console
  | .prompt dialog =>
    let (choice, warnings, console) := console.prompt dialog
    (some choice, warnings, console)
  | .message dialog =>
    let (warnings, console) := console.tell dialog
    (none, warnings, console)

def during (console : Console) (turn : Turn) : Console :=
  { console with sink := { console.sink with flushFails := turn.flushFails } }

/-- Give the console a turn, and observe it from outside. -/
def serve (console : Console) (turn : Turn) : Reply × Console :=
  let (choice, warnings, after) := (console.during turn).answer turn.request
  ({ choice
     warnings
     output := after.sink.written.drop console.sink.written.length
     consumed := console.input.take (console.input.length - after.input.length) },
    after)

def serveAll (console : Console) : List Turn → List Reply × Console
  | [] => ([], console)
  | turn :: later =>
    let (reply, console) := console.serve turn
    let (replies, console) := console.serveAll later
    (reply :: replies, console)

namespace Request

def asks : Request → Bool
  | .prompt _ => true
  | .message _ => false

def dialog : Request → Dialog
  | .prompt dialog | .message dialog => dialog

/-- All that is to be written for a request: title, blank line, body, blank line,
and the question if somebody is asked. -/
def text (styled interactive : Bool) (request : Request) : Bytes :=
  let title := request.dialog.title
  Bytes.ofText ((if styled then highlight title else title) ++ "\n\n"
    ++ request.dialog.body ++ "\n\n"
    ++ if request.asks && interactive then question else "")

def failed : Request → ConsoleError → ConsoleWarning
  | .prompt _ => .promptFailed
  | .message _ => .messageFailed

def declined : Request → Option Choice
  | .prompt _ => some .cancel
  | .message _ => none

end Request

/-- How a turn may go. -/
inductive Served (console : Console) (turn : Turn) : Reply → Console → Prop where
  | cut {text : Bytes}
      (htext : turn.request.text console.styled console.interactive = text)
      (hcut : console.sink.taken text ≠ text) :
      Served console turn
        ⟨turn.request.declined, [turn.request.failed .outputFull], console.sink.taken text, []⟩
        ((console.during turn).afterWriting text)
  | unflushed {text : Bytes}
      (htext : turn.request.text console.styled console.interactive = text)
      (hwhole : console.sink.taken text = text) (hflush : turn.flushFails = true)
      (hasked : turn.request.asks = true → console.interactive = true) :
      Served console turn
        ⟨turn.request.declined, [turn.request.failed .flushFailed], text, []⟩
        ((console.during turn).afterWriting text)
  | unasked {text : Bytes}
      (htext : turn.request.text console.styled console.interactive = text)
      (hwhole : console.sink.taken text = text)
      (hasked : turn.request.asks = true → console.interactive = false)
      (hflush : turn.request.asks = false → turn.flushFails = false) :
      Served console turn ⟨turn.request.declined, [], text, []⟩
        ((console.during turn).afterWriting text)
  | answered {text line rest : Bytes} {characters : List Char}
      (htext : turn.request.text console.styled console.interactive = text)
      (hwhole : console.sink.taken text = text) (hflush : turn.flushFails = false)
      (hasked : turn.request.asks = true) (hinteractive : console.interactive = true)
      (hinput : splitLine console.input = (line, rest))
      (hline : Utf8.decode? line = some characters) :
      Served console turn ⟨some (interpret characters), [], text, line⟩
        { (console.during turn).afterWriting text with input := rest }
  | unreadable {text line rest : Bytes}
      (htext : turn.request.text console.styled console.interactive = text)
      (hwhole : console.sink.taken text = text) (hflush : turn.flushFails = false)
      (hasked : turn.request.asks = true) (hinteractive : console.interactive = true)
      (hinput : splitLine console.input = (line, rest))
      (hline : Utf8.decode? line = none) :
      Served console turn ⟨some .cancel, [.promptFailed .answerNotUtf8], text, line⟩
        { (console.during turn).afterWriting text with input := rest }

/-! ## What a turn does -/

theorem ofText_append (first second : String) :
    Bytes.ofText (first ++ second) = Bytes.ofText first ++ Bytes.ofText second := by
  simp [Bytes.ofText]

theorem ofText_blankLine :
    Bytes.ofText "\n\n" = Bytes.ofText "\n" ++ Bytes.ofText "\n" :=
  ofText_append "\n" "\n"

def dialogBytes (styled : Bool) (dialog : Dialog) : Bytes :=
  (dialogTexts styled dialog).flatMap Bytes.ofText

theorem text_message (styled interactive : Bool) (dialog : Dialog) :
    (Request.message dialog).text styled interactive = dialogBytes styled dialog := by
  simp [Request.text, Request.dialog, Request.asks, dialogBytes, dialogTexts, ofText_append,
    ofText_blankLine]

theorem text_prompt (styled interactive : Bool) (dialog : Dialog) :
    (Request.prompt dialog).text styled interactive =
      dialogBytes styled dialog ++ if interactive then Bytes.ofText question else [] := by
  cases interactive <;>
    simp [Request.text, Request.dialog, Request.asks, dialogBytes, dialogTexts, ofText_append,
      ofText_blankLine]

section Calls

variable {console : Console} {dialog : Dialog}

theorem present_of_whole
    (hwhole : console.sink.taken (dialogBytes console.styled dialog) =
      dialogBytes console.styled dialog) :
    console.present dialog =
      (.ok (), console.afterWriting (dialogBytes console.styled dialog)) := by
  have hwritten := console.writeAll_eq (dialogTexts console.styled dialog)
  rwa [if_pos (by exact hwhole)] at hwritten

theorem present_of_cut
    (hcut : console.sink.taken (dialogBytes console.styled dialog) ≠
      dialogBytes console.styled dialog) :
    console.present dialog =
      (.error .outputFull, console.afterWriting (dialogBytes console.styled dialog)) := by
  have hwritten := console.writeAll_eq (dialogTexts console.styled dialog)
  rwa [if_neg (by exact hcut)] at hwritten

theorem tell_of_cut
    (hcut : console.sink.taken (dialogBytes console.styled dialog) ≠
      dialogBytes console.styled dialog) :
    console.tell dialog =
      ([.messageFailed .outputFull],
        console.afterWriting (dialogBytes console.styled dialog)) := by
  simp only [tell, presentAndFlush, present_of_cut hcut]

theorem tell_of_whole
    (hwhole : console.sink.taken (dialogBytes console.styled dialog) =
      dialogBytes console.styled dialog) :
    console.tell dialog =
      (if console.sink.flushFails then [.messageFailed .flushFailed] else [],
        console.afterWriting (dialogBytes console.styled dialog)) := by
  have hflush : (console.afterWriting (dialogBytes console.styled dialog)).sink.flush =
      if console.sink.flushFails then .error .flushFailed else .ok () := rfl
  simp only [tell, presentAndFlush, present_of_whole hwhole, hflush]
  cases console.sink.flushFails <;> rfl

theorem prompt_of_cut_dialog
    (hcut : console.sink.taken (dialogBytes console.styled dialog) ≠
      dialogBytes console.styled dialog) :
    console.prompt dialog =
      (.cancel, [.promptFailed .outputFull],
        console.afterWriting (dialogBytes console.styled dialog)) := by
  simp only [prompt, presentAndAsk, present_of_cut hcut]

theorem prompt_of_unattended (hinteractive : console.interactive = false)
    (hwhole : console.sink.taken (dialogBytes console.styled dialog) =
      dialogBytes console.styled dialog) :
    console.prompt dialog =
      (.cancel, [], console.afterWriting (dialogBytes console.styled dialog)) := by
  have hattended :
      (console.afterWriting (dialogBytes console.styled dialog)).interactive = false :=
    hinteractive
  simp [prompt, presentAndAsk, present_of_whole hwhole, ask, hattended]

theorem write_afterWriting (console : Console) (bytes : Bytes) (text : String) :
    (console.afterWriting bytes).write text =
      (if (console.sink.after bytes).taken (Bytes.ofText text) = Bytes.ofText text
          then .ok () else .error .outputFull,
        console.afterWriting (bytes ++ Bytes.ofText text)) := by
  simp [write, Sink.write_eq, afterWriting, Sink.after_append]

theorem prompt_of_cut (hinteractive : console.interactive = true)
    (hcut : console.sink.taken
        (dialogBytes console.styled dialog ++ Bytes.ofText question) ≠
      dialogBytes console.styled dialog ++ Bytes.ofText question) :
    console.prompt dialog =
      (.cancel, [.promptFailed .outputFull],
        console.afterWriting
          (dialogBytes console.styled dialog ++ Bytes.ofText question)) := by
  by_cases hwhole : console.sink.taken (dialogBytes console.styled dialog) =
      dialogBytes console.styled dialog
  · have hquestion :
        (console.sink.after (dialogBytes console.styled dialog)).taken (Bytes.ofText question) ≠
          Bytes.ofText question := fun hquestion =>
      hcut ((console.sink.taken_append_eq_iff _ _).mpr ⟨hwhole, hquestion⟩)
    have hattended :
        (console.afterWriting (dialogBytes console.styled dialog)).interactive = true :=
      hinteractive
    simp [prompt, presentAndAsk, present_of_whole hwhole, ask, hattended, write_afterWriting,
      hquestion]
  · rw [prompt_of_cut_dialog hwhole, afterWriting, afterWriting, Sink.after_append_of_ne hwhole]

theorem prompt_of_whole (hinteractive : console.interactive = true)
    (hwhole : console.sink.taken
        (dialogBytes console.styled dialog ++ Bytes.ofText question) =
      dialogBytes console.styled dialog ++ Bytes.ofText question) :
    console.prompt dialog =
      let written := console.afterWriting
        (dialogBytes console.styled dialog ++ Bytes.ofText question)
      match console.sink.flush with
      | .error error => (.cancel, [.promptFailed error], written)
      | .ok () =>
        match written.readChoice with
        | (.ok choice, after) => (choice, [], after)
        | (.error error, after) => (.cancel, [.promptFailed error], after) := by
  obtain ⟨hdialog, hquestion⟩ := (console.sink.taken_append_eq_iff _ _).mp hwhole
  have hattended :
      (console.afterWriting (dialogBytes console.styled dialog)).interactive = true :=
    hinteractive
  have hflush : (console.afterWriting
      (dialogBytes console.styled dialog ++ Bytes.ofText question)).sink.flush =
        console.sink.flush := rfl
  simp only [prompt, presentAndAsk, present_of_whole hdialog, ask, hattended, if_true,
    write_afterWriting, if_pos hquestion, hflush]
  cases console.sink.flush <;> rfl

theorem prompt_of_unflushed (hinteractive : console.interactive = true)
    (hwhole : console.sink.taken
        (dialogBytes console.styled dialog ++ Bytes.ofText question) =
      dialogBytes console.styled dialog ++ Bytes.ofText question)
    (hflush : console.sink.flushFails = true) :
    console.prompt dialog =
      (.cancel, [.promptFailed .flushFailed],
        console.afterWriting
          (dialogBytes console.styled dialog ++ Bytes.ofText question)) := by
  have hfailed : console.sink.flush = .error .flushFailed := if_pos hflush
  simp only [prompt_of_whole hinteractive hwhole, hfailed]

section Flushed

variable (hinteractive : console.interactive = true)
  (hwhole : console.sink.taken
      (dialogBytes console.styled dialog ++ Bytes.ofText question) =
    dialogBytes console.styled dialog ++ Bytes.ofText question)
  (hflush : console.sink.flushFails = false)

include hinteractive hwhole hflush

theorem prompt_of_answer {answer : List Char}
    (hline : Utf8.decode? (splitLine console.input).1 = some answer) :
    console.prompt dialog =
      (interpret answer, [],
        { console.afterWriting (dialogBytes console.styled dialog ++ Bytes.ofText question) with
          input := (splitLine console.input).2 }) := by
  have hflushed : console.sink.flush = .ok () := if_neg (by simp [hflush])
  simp only [prompt_of_whole hinteractive hwhole, hflushed, readChoice, afterWriting, hline]

theorem prompt_of_unreadable (hline : Utf8.decode? (splitLine console.input).1 = none) :
    console.prompt dialog =
      (.cancel, [.promptFailed .answerNotUtf8],
        { console.afterWriting (dialogBytes console.styled dialog ++ Bytes.ofText question) with
          input := (splitLine console.input).2 }) := by
  have hflushed : console.sink.flush = .ok () := if_neg (by simp [hflush])
  simp only [prompt_of_whole hinteractive hwhole, hflushed, readChoice, afterWriting, hline]

end Flushed

end Calls

theorem splitLine_append (input : Bytes) : (splitLine input).1 ++ (splitLine input).2 = input := by
  unfold splitLine
  cases input.findIdx? (· == Bytes.lf) with
  | none => simp
  | some position => simp

/-- A turn is observed through what was written and what is left of the input. -/
theorem serve_of_answer {console : Console} {turn : Turn} {choice : Option Choice}
    {warnings : List ConsoleWarning} {text line rest : Bytes}
    (hanswer : (console.during turn).answer turn.request =
      (choice, warnings, { (console.during turn).afterWriting text with input := rest }))
    (hinput : console.input = line ++ rest) :
    console.serve turn =
      (⟨choice, warnings, console.sink.taken text, line⟩,
        { (console.during turn).afterWriting text with input := rest }) := by
  have hwritten :
      ((console.during turn).afterWriting text).sink.written.drop console.sink.written.length =
        console.sink.taken text := List.drop_left
  have hconsumed : console.input.take (console.input.length - rest.length) = line := by
    rw [hinput]
    simp
  simp only [serve, hanswer, hwritten, hconsumed]

theorem serve_of_unread {console : Console} {turn : Turn} {choice : Option Choice}
    {warnings : List ConsoleWarning} {text : Bytes}
    (hanswer : (console.during turn).answer turn.request =
      (choice, warnings, (console.during turn).afterWriting text)) :
    console.serve turn =
      (⟨choice, warnings, console.sink.taken text, []⟩,
        (console.during turn).afterWriting text) :=
  @serve_of_answer console turn choice warnings text [] console.input hanswer rfl

theorem served_message (console : Console) (dialog : Dialog) (flushFails : Bool) :
    let turn : Turn := { request := .message dialog, flushFails }
    Served console turn (console.serve turn).1 (console.serve turn).2 := by
  intro turn
  let text := dialogBytes console.styled dialog
  have htext : turn.request.text console.styled console.interactive = text :=
    text_message console.styled console.interactive dialog
  by_cases hwhole : console.sink.taken text = text
  · have htell : (console.during turn).tell dialog =
        (if flushFails then [.messageFailed .flushFailed] else [],
          (console.during turn).afterWriting text) := tell_of_whole hwhole
    have hanswer : (console.during turn).answer turn.request =
        (none, if flushFails then [.messageFailed .flushFailed] else [],
          (console.during turn).afterWriting text) := congrArg (Prod.mk none) htell
    rw [serve_of_unread hanswer, hwhole]
    cases flushFails with
    | true => exact .unflushed htext hwhole rfl (by simp [turn, Request.asks])
    | false => exact .unasked htext hwhole (by simp [turn, Request.asks]) (fun _ => rfl)
  · have htell : (console.during turn).tell dialog =
        ([.messageFailed .outputFull], (console.during turn).afterWriting text) :=
      tell_of_cut hwhole
    have hanswer : (console.during turn).answer turn.request =
        (none, [.messageFailed .outputFull], (console.during turn).afterWriting text) :=
      congrArg (Prod.mk none) htell
    rw [serve_of_unread hanswer]
    exact .cut htext hwhole

theorem answer_prompt {console after : Console} {dialog : Dialog} {choice : Choice}
    {warnings : List ConsoleWarning}
    (hprompt : console.prompt dialog = (choice, warnings, after)) :
    console.answer (.prompt dialog) = (some choice, warnings, after) := by
  simp only [answer, hprompt]

theorem served_prompt_unattended {console : Console} (dialog : Dialog) (flushFails : Bool)
    (hinteractive : console.interactive = false) :
    let turn : Turn := { request := .prompt dialog, flushFails }
    Served console turn (console.serve turn).1 (console.serve turn).2 := by
  intro turn
  let text := dialogBytes console.styled dialog
  have htext : turn.request.text console.styled console.interactive = text := by
    have hprompt := text_prompt console.styled console.interactive dialog
    simpa [hinteractive] using hprompt
  by_cases hwhole : console.sink.taken text = text
  · have hprompt : (console.during turn).prompt dialog =
        (.cancel, [], (console.during turn).afterWriting text) :=
      prompt_of_unattended hinteractive hwhole
    rw [serve_of_unread (answer_prompt hprompt), hwhole]
    exact .unasked htext hwhole (fun _ => hinteractive) (by simp [turn, Request.asks])
  · have hprompt : (console.during turn).prompt dialog =
        (.cancel, [.promptFailed .outputFull], (console.during turn).afterWriting text) :=
      prompt_of_cut_dialog hwhole
    rw [serve_of_unread (answer_prompt hprompt)]
    exact .cut htext hwhole

theorem served_prompt_attended {console : Console} (dialog : Dialog) (flushFails : Bool)
    (hinteractive : console.interactive = true) :
    let turn : Turn := { request := .prompt dialog, flushFails }
    Served console turn (console.serve turn).1 (console.serve turn).2 := by
  intro turn
  let text := dialogBytes console.styled dialog ++ Bytes.ofText question
  have hattended : (console.during turn).interactive = true := hinteractive
  have htext : turn.request.text console.styled console.interactive = text := by
    have hprompt := text_prompt console.styled console.interactive dialog
    simpa [hinteractive] using hprompt
  by_cases hwhole : console.sink.taken text = text
  · cases flushFails with
    | true =>
        have hprompt : (console.during turn).prompt dialog =
            (.cancel, [.promptFailed .flushFailed], (console.during turn).afterWriting text) :=
          prompt_of_unflushed hattended hwhole rfl
        rw [serve_of_unread (answer_prompt hprompt), hwhole]
        exact .unflushed htext hwhole rfl (fun _ => hinteractive)
    | false =>
        have hinput : console.input = (splitLine console.input).1 ++ (splitLine console.input).2 :=
          (splitLine_append console.input).symm
        cases hline : Utf8.decode? (splitLine console.input).1 with
        | some answer =>
            have hprompt : (console.during turn).prompt dialog =
                (interpret answer, [], { (console.during turn).afterWriting text with
                  input := (splitLine console.input).2 }) :=
              prompt_of_answer hattended hwhole rfl hline
            rw [serve_of_answer (answer_prompt hprompt) hinput, hwhole]
            exact .answered htext hwhole rfl rfl hinteractive rfl hline
        | none =>
            have hprompt : (console.during turn).prompt dialog =
                (.cancel, [.promptFailed .answerNotUtf8], { (console.during turn).afterWriting text
                  with input := (splitLine console.input).2 }) :=
              prompt_of_unreadable hattended hwhole rfl hline
            rw [serve_of_answer (answer_prompt hprompt) hinput, hwhole]
            exact .unreadable htext hwhole rfl rfl hinteractive rfl hline
  · have hprompt : (console.during turn).prompt dialog =
        (.cancel, [.promptFailed .outputFull], (console.during turn).afterWriting text) :=
      prompt_of_cut hinteractive hwhole
    rw [serve_of_unread (answer_prompt hprompt)]
    exact .cut htext hwhole

/-- What a turn does to a console and what comes out of it. -/
theorem served_serve (console : Console) (turn : Turn) :
    Served console turn (console.serve turn).1 (console.serve turn).2 := by
  obtain ⟨request, flushFails⟩ := turn
  cases request with
  | message dialog => exact served_message console dialog flushFails
  | prompt dialog =>
      cases hinteractive : console.interactive with
      | true => exact served_prompt_attended dialog flushFails hinteractive
      | false => exact served_prompt_unattended dialog flushFails hinteractive

theorem Served.kept {console after : Console} {turn : Turn} {reply : Reply}
    (served : Served console turn reply after) :
    after.styled = console.styled ∧ after.interactive = console.interactive := by
  cases served <;> exact ⟨rfl, rfl⟩

theorem Served.output_eq {console after : Console} {turn : Turn} {reply : Reply}
    (served : Served console turn reply after) :
    reply.output =
      console.sink.taken (turn.request.text console.styled console.interactive) := by
  cases served with
  | cut htext => rw [htext]
  | unflushed htext hwhole | unasked htext hwhole | answered htext hwhole
  | unreadable htext hwhole =>
      rw [htext]
      exact hwhole.symm

theorem Served.sink_eq {console after : Console} {turn : Turn} {reply : Reply}
    (served : Served console turn reply after) :
    after.sink =
      { console.sink.after (turn.request.text console.styled console.interactive) with
        flushFails := turn.flushFails } := by
  cases served with
  | cut htext | unflushed htext | unasked htext | answered htext | unreadable htext =>
      rw [htext]
      rfl

/-! ## Turn after turn -/

@[simp] theorem serveAll_nil (console : Console) : console.serveAll [] = ([], console) :=
  rfl

@[simp] theorem serveAll_cons (console : Console) (turn : Turn) (later : List Turn) :
    console.serveAll (turn :: later) =
      ((console.serve turn).1 :: ((console.serve turn).2.serveAll later).1,
        ((console.serve turn).2.serveAll later).2) :=
  rfl

theorem length_serveAll (console : Console) (turns : List Turn) :
    (console.serveAll turns).1.length = turns.length := by
  induction turns generalizing console with
  | nil => rfl
  | cons turn later ih => simp [ih]

theorem kept_serveAll (console : Console) (turns : List Turn) :
    (console.serveAll turns).2.styled = console.styled ∧
      (console.serveAll turns).2.interactive = console.interactive := by
  induction turns generalizing console with
  | nil => exact ⟨rfl, rfl⟩
  | cons turn later ih =>
      have hkept := (served_serve console turn).kept
      have hlater := ih (console.serve turn).2
      exact ⟨hlater.1.trans hkept.1, hlater.2.trans hkept.2⟩

theorem serveAll_append (console : Console) (earlier later : List Turn) :
    console.serveAll (earlier ++ later) =
      ((console.serveAll earlier).1 ++ ((console.serveAll earlier).2.serveAll later).1,
        ((console.serveAll earlier).2.serveAll later).2) := by
  induction earlier generalizing console with
  | nil => rfl
  | cons turn earlier ih => simp [ih]

/-- Every turn of a run is given to a console that shows dialogs as the first one does. -/
theorem exists_served_of_mem (console : Console) (turns : List Turn)
    {exchange : Turn × Reply} (hmem : exchange ∈ turns.zip (console.serveAll turns).1) :
    ∃ before after : Console, before.styled = console.styled ∧
      before.interactive = console.interactive ∧ Served before exchange.1 exchange.2 after := by
  induction turns generalizing console with
  | nil => simp at hmem
  | cons turn later ih =>
      rw [serveAll_cons, List.zip_cons_cons, List.mem_cons] at hmem
      rcases hmem with rfl | hmem
      · exact ⟨console, (console.serve turn).2, rfl, rfl, served_serve console turn⟩
      · obtain ⟨before, after, hstyled, hinteractive, served⟩ := ih (console.serve turn).2 hmem
        have hkept := (served_serve console turn).kept
        exact ⟨before, after, hstyled.trans hkept.1, hinteractive.trans hkept.2, served⟩

/-! ## The output of a run -/

def fullText (styled interactive : Bool) (turns : List Turn) : Bytes :=
  turns.flatMap fun turn => turn.request.text styled interactive

theorem fullText_cons (styled interactive : Bool) (turn : Turn) (later : List Turn) :
    fullText styled interactive (turn :: later) =
      turn.request.text styled interactive ++ fullText styled interactive later :=
  List.flatMap_cons

theorem sink_serveAll (console : Console) (turns : List Turn) :
    ∃ flushFails, (console.serveAll turns).2.sink =
      { console.sink.after (fullText console.styled console.interactive turns) with
        flushFails } := by
  induction turns generalizing console with
  | nil => exact ⟨console.sink.flushFails, by simp [fullText]⟩
  | cons turn later ih =>
      have hserved := served_serve console turn
      obtain ⟨flushFails, hlater⟩ := ih (console.serve turn).2
      refine ⟨flushFails, ?_⟩
      rw [serveAll_cons, fullText_cons, Sink.after_append, hlater, hserved.sink_eq,
        hserved.kept.1, hserved.kept.2]
      rfl

theorem written_serveAll (console : Console) (turns : List Turn) :
    (console.serveAll turns).2.sink.written =
      console.sink.written ++
        console.sink.taken (fullText console.styled console.interactive turns) := by
  obtain ⟨flushFails, hsink⟩ := console.sink_serveAll turns
  rw [hsink]
  rfl

theorem output_serveAll (console : Console) (turns : List Turn) :
    (console.serveAll turns).1.flatMap (·.output) =
      console.sink.taken (fullText console.styled console.interactive turns) := by
  induction turns generalizing console with
  | nil => simp [fullText]
  | cons turn later ih =>
      have hserved := served_serve console turn
      have hroom (bytes : Bytes) : (console.serve turn).2.sink.taken bytes =
          (console.sink.after (turn.request.text console.styled console.interactive)).taken
            bytes := by
        rw [hserved.sink_eq]
        rfl
      rw [serveAll_cons, List.flatMap_cons, ih, hserved.output_eq, hserved.kept.1,
        hserved.kept.2, fullText_cons, Sink.taken_append, hroom]

end Console

end AppLauncher
