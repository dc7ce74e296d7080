import AppLauncher.Proofs.Report.Turns

/-!
# Output of a console under failure

A sink that takes so many bytes has at every time the first of them that a sink
without a bound would have.  This is a fact about the whole run: a dialog is written
in several pieces, the sink may fill up in any of them, and the turns that follow
are served all the same but add nothing.  The room that is left for a turn is
therefore known from the turns before it, whatever failed in them.
-/

namespace AppLauncher.Console

theorem fullText_congr (styled interactive : Bool) {turns turns' : List Turn}
    (hrequests : turns'.map (·.request) = turns.map (·.request)) :
    fullText styled interactive turns' = fullText styled interactive turns := by
  have hmap : ∀ turns : List Turn, fullText styled interactive turns =
      (turns.map (·.request)).flatMap (·.text styled interactive) := by
    intro turns
    rw [fullText, List.flatMap_map]
  rw [hmap turns', hmap turns, hrequests]

theorem length_text_pos (request : Request) (styled interactive : Bool) :
    0 < (request.text styled interactive).length := by
  have hblank : (Bytes.ofText "\n\n").length = 2 := by decide +kernel
  simp only [Request.text, ofText_append, List.length_append, hblank]
  omega

/-! ## A turn in a run -/

/-- What comes of a turn when a sink takes `room` bytes in all and the turns before it
were to write `before` bytes. -/
structure Outcome (room before : Nat) (turn : Turn) (reply : Reply) : Prop where
  output : reply.output = (turn.request.text false true).take (room - before)
  failed (hfailed : room < before + (turn.request.text false true).length ∨
      turn.flushFails = true) :
    reply.choice = turn.request.declined ∧
      reply.warnings = [turn.request.failed <|
        if room < before + (turn.request.text false true).length then .outputFull
        else .flushFailed]
  whole (hroom : before + (turn.request.text false true).length ≤ room)
      (hflush : turn.flushFails = false) :
    reply.output = turn.request.text false true ∧
      (reply.warnings = [] ∨
        turn.request.asks = true ∧ reply.warnings = [.promptFailed .answerNotUtf8])

theorem Outcome.of_unfailed {room before : Nat} {turn : Turn} {reply : Reply}
    (hroom : before + (turn.request.text false true).length ≤ room)
    (hflush : turn.flushFails = false) (houtput : reply.output = turn.request.text false true)
    (hwarnings : reply.warnings = [] ∨
      turn.request.asks = true ∧ reply.warnings = [.promptFailed .answerNotUtf8]) :
    Outcome room before turn reply where
  output := by rw [houtput, List.take_of_length_le (by omega)]
  failed hfailed := by
    rcases hfailed with hshort | hfailed
    · omega
    · exact absurd (hfailed.symm.trans hflush) (by decide)
  whole _ _ := ⟨houtput, hwarnings⟩

theorem Served.outcome {console after : Console} {turn : Turn} {reply : Reply}
    (served : Served console turn reply after) {room before : Nat}
    (hroom : console.sink.room = some (room - before)) (hstyled : console.styled = false)
    (hinteractive : console.interactive = true) : Outcome room before turn reply := by
  have htaken : console.sink.taken (turn.request.text false true) =
      (turn.request.text false true).take (room - before) := by
    simp [Sink.taken, hroom]
  have hfits : console.sink.taken (turn.request.text false true) = turn.request.text false true ↔
      before + (turn.request.text false true).length ≤ room := by
    have hpos := length_text_pos turn.request false true
    rw [htaken, List.take_eq_self_iff]
    omega
  cases served with
  | cut htext hcut =>
      rw [hstyled, hinteractive] at htext
      subst htext
      have hshort := mt hfits.mpr hcut
      exact
        { output := htaken
          failed := fun _ => ⟨rfl, by rw [if_pos (by omega)]⟩
          whole := fun hroom _ => absurd hroom hshort }
  | unflushed htext hwhole hflush hasked =>
      rw [hstyled, hinteractive] at htext
      subst htext
      have hlong := hfits.mp hwhole
      exact
        { output := hwhole.symm.trans htaken
          failed := fun _ => ⟨rfl, by rw [if_neg (by omega)]⟩
          whole := fun _ hflushed => absurd (hflush.symm.trans hflushed) (by decide) }
  | unasked htext hwhole hasked hflush =>
      rw [hstyled, hinteractive] at htext
      subst htext
      -- somebody can answer, so it is a message that asks nobody
      have hmessage : turn.request.asks = false := by
        cases hasks : turn.request.asks with
        | false => rfl
        | true => exact absurd (hinteractive.symm.trans (hasked hasks)) (by decide)
      exact .of_unfailed (hfits.mp hwhole) (hflush hmessage) rfl (.inl rfl)
  | answered htext hwhole hflush hasked hattended hinput hline =>
      rw [hstyled, hinteractive] at htext
      subst htext
      exact .of_unfailed (hfits.mp hwhole) hflush rfl (.inl rfl)
  | unreadable htext hwhole hflush hasked hattended hinput hline =>
      rw [hstyled, hinteractive] at htext
      subst htext
      exact .of_unfailed (hfits.mp hwhole) hflush rfl (.inr ⟨hasked, rfl⟩)

/-- The room for a turn is what the turns before it were to leave, whether they wrote
all their text or not. -/
theorem outcome_of_turn (room : Nat) (input : Bytes) (earlier later : List Turn) (turn : Turn) :
    let console : Console := { input, sink := { room := some room } }
    ∃ reply, (console.serveAll (earlier ++ turn :: later)).1[earlier.length]? = some reply ∧
      Outcome room (fullText false true earlier).length turn reply := by
  intro console
  let before := (console.serveAll earlier).2
  have hroom : before.sink.room = some (room - (fullText false true earlier).length) := by
    obtain ⟨flushFails, hsink⟩ := console.sink_serveAll earlier
    exact congrArg Sink.room hsink
  have hkept := console.kept_serveAll earlier
  refine ⟨(before.serve turn).1, ?_, (served_serve before turn).outcome hroom hkept.1 hkept.2⟩
  rw [serveAll_append, List.getElem?_append_right (Nat.le_of_eq (length_serveAll console earlier)),
    length_serveAll,
    Nat.sub_self]
  rfl

/-- A sink that takes `room` bytes has, after a run, the first of them that a sink
without a bound has after the same requests, whatever is answered and whichever flushes
fail. -/
theorem serveAll_output (room : Nat) (input input' : Bytes) (turns turns' : List Turn)
    (hrequests : turns'.map (·.request) = turns.map (·.request)) :
    let limited : Console := { input, sink := { room := some room } }
    let unlimited : Console := { input := input' }
    (limited.serveAll turns).2.sink.written =
        (unlimited.serveAll turns').2.sink.written.take room ∧
      (unlimited.serveAll turns').2.sink.written = fullText false true turns ∧
      (limited.serveAll turns).1.length = turns.length ∧
      ∀ (earlier later : List Turn) (turn : Turn), turns = earlier ++ turn :: later →
        ∃ reply, (limited.serveAll turns).1[earlier.length]? = some reply ∧
          Outcome room (fullText false true earlier).length turn reply := by
  intro limited unlimited
  have hunlimited : (unlimited.serveAll turns').2.sink.written = fullText false true turns := by
    have hwritten := unlimited.written_serveAll turns'
    have hsame := fullText_congr false true hrequests
    exact hwritten.trans hsame
  have hlimited : (limited.serveAll turns).2.sink.written =
      (fullText false true turns).take room := limited.written_serveAll turns
  refine ⟨?_, hunlimited, length_serveAll limited turns, ?_⟩
  · rw [hunlimited]
    exact hlimited
  · rintro earlier later turn rfl
    exact outcome_of_turn room input earlier later turn

/-- A flush fails and is logged, then the sink fills up in the middle of a message, and
the prompt after it is served all the same. -/
theorem serveAll_output_of_short_sink :
    let dialog : Dialog := { title := "Launcher Error", body := "unable to load" }
    let turns : List Turn :=
      [{ request := .prompt dialog, flushFails := true }, { request := .message dialog },
        { request := .prompt dialog }]
    let turns' : List Turn :=
      [{ request := .prompt dialog }, { request := .message dialog },
        { request := .prompt dialog }]
    turns'.map (·.request) = turns.map (·.request) ∧
      (serveAll { input := [0x79, 0x0A], sink := { room := some 60 } } turns).2.sink.written =
        (serveAll { input := [] } turns').2.sink.written.take 60 ∧
      (serveAll { input := [0x79, 0x0A], sink := { room := some 60 } } turns).1.map
          (fun reply => (reply.choice, reply.warnings)) =
        [(some .cancel, [.promptFailed .flushFailed]), (none, [.messageFailed .outputFull]),
          (some .cancel, [.promptFailed .outputFull])] := by
  intro dialog turns turns'
  have hrequests : turns'.map (·.request) = turns.map (·.request) := rfl
  have houtput := serveAll_output 60 [0x79, 0x0A] [] turns turns' hrequests
  exact ⟨hrequests, houtput.1, by decide +kernel⟩

end AppLauncher.Console
