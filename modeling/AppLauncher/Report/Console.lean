import AppLauncher.Text.Utf8
import AppLauncher.Text.Blank
import AppLauncher.Report.Dialog

/-!
# The console

Dialogs are written to a sink and answers are read from an input, line by
line.  The sink may be full, and flushing it may fail; neither stops the
launcher.  A failure is logged, and a question that failed counts as declined.
-/

namespace AppLauncher

inductive ConsoleError where
  | outputFull
  | flushFailed
  | answerNotUtf8
deriving DecidableEq, Repr

def ConsoleError.message : ConsoleError → String
  | .outputFull => "output full"
  | .flushFailed => "flush failed"
  | .answerNotUtf8 => "stream did not contain valid UTF-8"

inductive ConsoleWarning where
  | promptFailed (error : ConsoleError)
  | messageFailed (error : ConsoleError)
deriving DecidableEq, Repr

def ConsoleWarning.message : ConsoleWarning → String
  | .promptFailed error => "Failed to prompt user: " ++ error.message
  | .messageFailed error => "Failed to show message: " ++ error.message

structure Sink where
  written : Bytes := []
  /-- The bytes that are still accepted; `none` sets no bound. -/
  room : Option Nat := none
  flushFails : Bool := false
deriving DecidableEq, Repr

namespace Sink

/-- Write as many of the bytes as there is room for, and fail when that is
not all of them. -/
def write (sink : Sink) (bytes : Bytes) : Except ConsoleError Unit × Sink :=
  match sink.room with
  | none => (.ok (), { sink with written := sink.written ++ bytes })
  | some room =>
    (if bytes.length ≤ room then .ok () else .error .outputFull,
     { sink with
       written := sink.written ++ bytes.take room
       room := some (room - bytes.length) })

def flush (sink : Sink) : Except ConsoleError Unit :=
  if sink.flushFails then .error .flushFailed else .ok ()

end Sink

structure Console where
  input : Bytes := []
  sink : Sink := {}
  /-- Whether the input is somebody who can answer. -/
  interactive : Bool := true
  styled : Bool := false
deriving DecidableEq, Repr

namespace Console

def highlight (title : String) : String :=
  "\x1b[38;5;9m\x1b[1m" ++ title ++ "\x1b[0m"

/-- The texts that a dialog is written in, one after the other: title, blank line,
body, blank line. -/
def dialogTexts (styled : Bool) (dialog : Dialog) : List String :=
  [if styled then highlight dialog.title else dialog.title, "\n", "\n", dialog.body, "\n", "\n"]

def question : String := "[OK/Cancel] "

/-- The first line of the input, its line feed included, and the rest. -/
def splitLine (input : Bytes) : Bytes × Bytes :=
  match input.findIdx? (· == Bytes.lf) with
  | some position => input.splitAt (position + 1)
  | none => (input, [])

def consents : List String := ["ok", "o", "y", "yes"]

/-- What an answer means: consent is one of four words, whatever its case and
whatever white space is around it. -/
def interpret (answer : List Char) : Choice :=
  if String.ofList ((Text.trim answer).map Char.toLower) ∈ consents then
    .accept
  else
    .cancel

def write (console : Console) (text : String) : Except ConsoleError Unit × Console :=
  let (result, sink) := console.sink.write (Bytes.ofText text)
  (result, { console with sink })

/-- Write texts in order, up to one that the sink does not take. -/
def writeAll (console : Console) : List String → Except ConsoleError Unit × Console
  | [] => (.ok (), console)
  | text :: later =>
    match console.write text with
    | (.error error, console) => (.error error, console)
    | (.ok (), console) => console.writeAll later

def readChoice (console : Console) : Except ConsoleError Choice × Console :=
  let (line, rest) := splitLine console.input
  (match Utf8.decode? line with
   | some answer => .ok (interpret answer)
   | none => .error .answerNotUtf8,
   { console with input := rest })

/-- Put the question and read the answer.  Nobody is asked when nobody can
answer. -/
def ask (console : Console) : Except ConsoleError Choice × Console :=
  if console.interactive then
    match console.write question with
    | (.error error, console) => (.error error, console)
    | (.ok (), console) =>
      match console.sink.flush with
      | .error error => (.error error, console)
      | .ok () => console.readChoice
  else
    (.ok .cancel, console)

def present (console : Console) (dialog : Dialog) : Except ConsoleError Unit × Console :=
  console.writeAll (dialogTexts console.styled dialog)

def presentAndAsk (console : Console) (dialog : Dialog) :
    Except ConsoleError Choice × Console :=
  match console.present dialog with
  | (.error error, console) => (.error error, console)
  | (.ok (), console) => console.ask

def presentAndFlush (console : Console) (dialog : Dialog) :
    Except ConsoleError Unit × Console :=
  match console.present dialog with
  | (.error error, console) => (.error error, console)
  | (.ok (), console) => (console.sink.flush, console)

/-- Show a dialog and ask for consent; a failure is logged and declines. -/
def prompt (console : Console) (dialog : Dialog) :
    Choice × List ConsoleWarning × Console :=
  match console.presentAndAsk dialog with
  | (.ok choice, console) => (choice, [], console)
  | (.error error, console) => (.cancel, [.promptFailed error], console)

def tell (console : Console) (dialog : Dialog) : List ConsoleWarning × Console :=
  match console.presentAndFlush dialog with
  | (.ok (), console) => ([], console)
  | (.error error, console) => ([.messageFailed error], console)

end Console

end AppLauncher
