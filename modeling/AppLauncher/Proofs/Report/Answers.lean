import AppLauncher.Proofs.Options.Lines
import AppLauncher.Proofs.Report.Turns
import AppLauncher.Proofs.Text.Decoding
import Mathlib.Data.List.TakeWhile

/-!
# Answers at a console

A prompt reads when somebody can answer, and the dialog and the question were
written and flushed.  It then takes one line of the input, whatever becomes of that
line; no other turn touches the input.  The lines that are taken are therefore the
lines of the input in their order, and consent is given by the line itself.
-/

namespace AppLauncher

open Options (physicalLines)

/-! ## White space around a word -/

namespace Text

theorem toLower_of_isBlank {character : Char} (hblank : isBlank character = true) :
    character.toLower = character := by
  have hrange : ¬(65 ≤ character.toNat ∧ character.toNat ≤ 90) := by
    simp only [isBlank, blankRanges, List.any_cons, List.any_nil, Bool.or_eq_true,
      Bool.and_eq_true, decide_eq_true_eq, Bool.or_false] at hblank
    omega
  exact dif_neg hrange

theorem exists_trim (text : List Char) :
    ∃ front back, text = front ++ trim text ++ back ∧
      (∀ character ∈ front, isBlank character = true) ∧
      ∀ character ∈ back, isBlank character = true := by
  let middle := text.dropWhile isBlank
  have hback : middle = trim text ++ (middle.reverse.takeWhile isBlank).reverse := by
    have hreverse : middle.reverse =
        middle.reverse.takeWhile isBlank ++ middle.reverse.dropWhile isBlank :=
      List.takeWhile_append_dropWhile.symm
    have hmiddle := congrArg List.reverse hreverse
    rwa [List.reverse_reverse, List.reverse_append] at hmiddle
  refine ⟨text.takeWhile isBlank, (middle.reverse.takeWhile isBlank).reverse, ?_, ?_, ?_⟩
  · rw [List.append_assoc, ← hback, List.takeWhile_append_dropWhile]
  · exact fun _ hmem => List.mem_takeWhile_imp hmem
  · exact fun _ hmem => List.mem_takeWhile_imp (List.mem_reverse.mp hmem)

theorem trim_append {front word back : List Char}
    (hfront : ∀ character ∈ front, isBlank character = true)
    (hword : ∀ character ∈ word, isBlank character = false)
    (hback : ∀ character ∈ back, isBlank character = true) :
    trim (front ++ word ++ back) = word := by
  have hkept : ∀ text : List Char, (∀ character ∈ text, isBlank character = false) →
      text.dropWhile isBlank = text := by
    intro text htext
    rw [List.dropWhile_eq_self_iff]
    intro hlength
    simp [htext _ (List.getElem_mem hlength)]
  have hreverse : ((word ++ back).reverse.dropWhile isBlank).reverse = word := by
    rw [List.reverse_append, List.dropWhile_append_of_pos (by simpa using hback),
      hkept word.reverse (by simpa using hword), List.reverse_reverse]
  unfold trim
  rw [List.append_assoc, List.dropWhile_append_of_pos hfront]
  cases word with
  | nil => simp [List.dropWhile_eq_nil_iff.mpr hback]
  | cons first word =>
      rw [List.cons_append, List.dropWhile_cons_of_neg (by simp [hword first]),
        ← List.cons_append, hreverse]

end Text

namespace Console

/-! ## Consent -/

/-- The line spells, in UTF-8, a word of consent with nothing but white space
around it. -/
def Consents (line : Bytes) : Prop :=
  ∃ front word back : List Char,
    line = Utf8.encode (front ++ word ++ back) ∧
      (∀ character ∈ front, Text.isBlank character = true) ∧
      (∀ character ∈ back, Text.isBlank character = true) ∧
      String.ofList (word.map Char.toLower) ∈ ["ok", "o", "y", "yes"]

theorem isBlank_eq_false_of_consents {word : List Char}
    (hword : String.ofList (word.map Char.toLower) ∈ consents) :
    ∀ character ∈ word, Text.isBlank character = false := by
  have hletters : ∀ letter ∈ word.map Char.toLower, Text.isBlank letter = false := by
    have hconsents : (consents.all fun consent =>
        consent.toList.all fun letter => !Text.isBlank letter) = true := by decide +kernel
    have hkept := List.all_eq_true.mp hconsents _ hword
    simpa using hkept
  intro character hmem
  cases hblank : Text.isBlank character with
  | false => rfl
  | true =>
      have hletter := hletters character.toLower (List.mem_map_of_mem hmem)
      rw [Text.toLower_of_isBlank hblank, hblank] at hletter
      exact absurd hletter (by decide)

theorem interpret_eq_accept_iff {answer : List Char} :
    interpret answer = .accept ↔ Consents (Utf8.encode answer) := by
  constructor
  · intro haccept
    obtain ⟨front, back, hanswer, hfront, hback⟩ := Text.exists_trim answer
    refine ⟨front, Text.trim answer, back, congrArg Utf8.encode hanswer, hfront, hback, ?_⟩
    by_contra hword
    have hcancel : interpret answer = .cancel := if_neg hword
    rw [hcancel] at haccept
    exact absurd haccept (by decide)
  · rintro ⟨front, word, back, hline, hfront, hback, hword⟩
    have hanswer : answer = front ++ word ++ back := by
      have hdecoded := congrArg Utf8.decode? hline
      simpa only [Utf8.decode?_encode, Option.some.injEq] using hdecoded
    have htrim := Text.trim_append hfront (isBlank_eq_false_of_consents hword) hback
    rw [hanswer, interpret, htrim, if_pos (by exact hword)]

theorem not_consents_of_decode? {line : Bytes} (hline : Utf8.decode? line = none) :
    ¬Consents line := by
  rintro ⟨front, word, back, rfl, -⟩
  rw [Utf8.decode?_encode] at hline
  exact absurd hline (by simp)

/-! ## The next line -/

theorem splitLine_cons (byte : UInt8) (rest : Bytes) :
    splitLine (byte :: rest) =
      if byte = Bytes.lf then ([byte], rest)
      else (byte :: (splitLine rest).1, (splitLine rest).2) := by
  unfold splitLine
  rw [List.findIdx?_cons]
  by_cases hlf : byte = Bytes.lf
  · simp [hlf]
  · cases rest.findIdx? (· == Bytes.lf) <;> simp [hlf]

theorem physicalLines_cons (byte : UInt8) (rest : Bytes) :
    physicalLines (byte :: rest) =
      (splitLine (byte :: rest)).1 :: physicalLines (splitLine (byte :: rest)).2 := by
  induction rest generalizing byte with
  | nil => by_cases hlf : byte = Bytes.lf <;> simp [physicalLines, splitLine, hlf]
  | cons next rest ih =>
      rw [physicalLines, splitLine_cons]
      by_cases hlf : byte = Bytes.lf
      · simp [hlf]
      · simp only [hlf, if_false, ih]

theorem getD_physicalLines_zero (input : Bytes) :
    (physicalLines input).getD 0 [] = (splitLine input).1 := by
  cases input with
  | nil => rfl
  | cons byte rest => rw [physicalLines_cons, List.getD_cons_zero]

theorem getD_physicalLines_succ (input : Bytes) (position : Nat) :
    (physicalLines input).getD (position + 1) [] =
      (physicalLines (splitLine input).2).getD position [] := by
  cases input with
  | nil => rfl
  | cons byte rest => rw [physicalLines_cons, List.getD_cons_succ]

/-! ## Turns that read -/

section Reading

variable (styled interactive : Bool)

/-- Somebody is asked who can answer, and all that is to be written was written and
flushed. -/
def Reads (exchange : Turn × Reply) : Prop :=
  exchange.1.request.asks = true ∧ interactive = true ∧
    exchange.2.output = exchange.1.request.text styled interactive ∧
    exchange.1.flushFails = false

instance (exchange : Turn × Reply) : Decidable (Reads styled interactive exchange) :=
  inferInstanceAs (Decidable (_ ∧ _))

end Reading

/-- A turn that reads takes a line and interprets it; any other leaves the input
alone and gives no consent. -/
theorem Served.reading {console after : Console} {turn : Turn} {reply : Reply}
    (served : Served console turn reply after) :
    (Reads console.styled console.interactive (turn, reply) ∧
        splitLine console.input = (reply.consumed, after.input) ∧
        (reply.choice = some .accept ∧ Consents reply.consumed ∨
          reply.choice = some .cancel ∧ ¬Consents reply.consumed)) ∨
      (¬Reads console.styled console.interactive (turn, reply) ∧
        reply.consumed = [] ∧ after.input = console.input ∧
        reply.choice = turn.request.declined) := by
  cases served with
  | cut htext hcut =>
      refine .inr ⟨?_, rfl, rfl, rfl⟩
      rintro ⟨-, -, houtput, -⟩
      exact hcut (houtput.trans htext)
  | unflushed htext hwhole hflush hasked =>
      refine .inr ⟨?_, rfl, rfl, rfl⟩
      rintro ⟨-, -, -, hflushed⟩
      exact absurd (hflush.symm.trans hflushed) (by decide)
  | unasked htext hwhole hasked hflush =>
      refine .inr ⟨?_, rfl, rfl, rfl⟩
      rintro ⟨hasks, hattended, -, -⟩
      exact absurd ((hasked hasks).symm.trans hattended) (by decide)
  | @answered text line rest characters htext hwhole hflush hasked hinteractive hinput hline =>
      refine .inl ⟨⟨hasked, hinteractive, htext.symm, hflush⟩, hinput, ?_⟩
      have hspelled : Utf8.encode characters = line := Utf8.decode?_eq_some_iff.mp hline
      have hconsents := @interpret_eq_accept_iff characters
      rw [hspelled] at hconsents
      cases hchoice : interpret characters with
      | accept => exact .inl ⟨rfl, hconsents.mp hchoice⟩
      | cancel =>
          refine .inr ⟨rfl, fun hgiven => ?_⟩
          exact absurd (hchoice.symm.trans (hconsents.mpr hgiven)) (by decide)
  | unreadable htext hwhole hflush hasked hinteractive hinput hline =>
      exact .inl ⟨⟨hasked, hinteractive, htext.symm, hflush⟩, hinput,
        .inr ⟨rfl, not_consents_of_decode? hline⟩⟩

/-- A prompt accepts when it takes a line of consent, and otherwise cancels; a message
takes nothing and chooses nothing. -/
def Answered (styled interactive : Bool) (exchange : Turn × Reply) : Prop :=
  let (turn, reply) := exchange
  match turn.request with
  | .message _ => reply.consumed = [] ∧ reply.choice = none
  | .prompt _ =>
    (reply.choice = some .accept ↔
        Reads styled interactive exchange ∧ Consents reply.consumed) ∧
      (reply.choice = some .cancel ↔
        ¬(Reads styled interactive exchange ∧ Consents reply.consumed))

theorem answered_of_served {console after : Console} {turn : Turn} {reply : Reply}
    (served : Served console turn reply after) :
    Answered console.styled console.interactive (turn, reply) := by
  have hreading := served.reading
  obtain ⟨request, flushFails⟩ := turn
  cases request with
  | message dialog =>
      rcases hreading with ⟨⟨hasks, -⟩, -⟩ | ⟨-, hconsumed, -, hchoice⟩
      · exact absurd hasks Bool.false_ne_true
      · exact ⟨hconsumed, hchoice⟩
  | prompt dialog =>
      rcases hreading with ⟨hreads, -, hchoice⟩ | ⟨hreads, -, -, hchoice⟩
      · rcases hchoice with ⟨hchoice, hconsents⟩ | ⟨hchoice, hconsents⟩
        · simp [Answered, hchoice, hreads, hconsents]
        · simp [Answered, hchoice, hreads, hconsents]
      · have hcancel : reply.choice = some .cancel := hchoice
        simp [Answered, hcancel, hreads]

/-! ## Runs -/

theorem Served.input_eq {console after : Console} {turn : Turn} {reply : Reply}
    (served : Served console turn reply after) :
    console.input = reply.consumed ++ after.input := by
  rcases served.reading with ⟨-, hline, -⟩ | ⟨-, hconsumed, hinput, -⟩
  · have hsplit := splitLine_append console.input
    rw [hline] at hsplit
    exact hsplit.symm
  · rw [hconsumed, hinput, List.nil_append]

theorem input_eq_flatMap_consumed (console : Console) (turns : List Turn) :
    console.input =
      (console.serveAll turns).1.flatMap (·.consumed) ++ (console.serveAll turns).2.input := by
  induction turns generalizing console with
  | nil => rfl
  | cons turn later ih =>
      rw [serveAll_cons, List.flatMap_cons, List.append_assoc, ← ih (console.serve turn).2]
      exact (served_serve console turn).input_eq

/-- The exchanges of a run that take a line. -/
def readings (console : Console) (turns : List Turn) : List (Turn × Reply) :=
  (turns.zip (console.serveAll turns).1).filter (Reads console.styled console.interactive ·)

/-- Lines are read in their order: the induction is over the turns, with the console
that is left after each of them. -/
theorem consumed_of_readings (console : Console) (turns : List Turn) {j : Nat}
    {exchange : Turn × Reply} (hreading : (console.readings turns)[j]? = some exchange) :
    exchange.2.consumed = (physicalLines console.input).getD j [] := by
  induction turns generalizing console j with
  | nil => simp [readings] at hreading
  | cons turn later ih =>
      have hserved := served_serve console turn
      have hlater : (later.zip ((console.serve turn).2.serveAll later).1).filter
          (Reads console.styled console.interactive ·) =
            (console.serve turn).2.readings later := by
        rw [readings, hserved.kept.1, hserved.kept.2]
      rw [readings, serveAll_cons, List.zip_cons_cons, List.filter_cons, hlater] at hreading
      rcases hserved.reading with ⟨hreads, hline, -⟩ | ⟨hreads, -, hinput, -⟩
      · rw [if_pos (by simpa using hreads)] at hreading
        cases j with
        | zero =>
            rw [List.getElem?_cons_zero, Option.some.injEq] at hreading
            rw [getD_physicalLines_zero, hline, ← hreading]
        | succ j =>
            rw [List.getElem?_cons_succ] at hreading
            rw [getD_physicalLines_succ, hline]
            exact ih (console.serve turn).2 hreading
      · rw [if_neg (by simpa using hreads)] at hreading
        rw [← hinput]
        exact ih (console.serve turn).2 hreading

/-- Each turn that reads takes one line of the input in order, through its line feed
or to the end of the input; no other turn takes anything.  Whether a turn reads is seen
from its output, and all turns together write what the sink has room for. -/
theorem serveAll_answers (console : Console) (turns : List Turn) :
    let (replies, final) := console.serveAll turns
    replies.length = turns.length ∧
      replies.flatMap (·.output) =
        console.sink.taken (fullText console.styled console.interactive turns) ∧
      console.input = replies.flatMap (·.consumed) ++ final.input ∧
      (∀ (j : Nat) (exchange : Turn × Reply), (console.readings turns)[j]? = some exchange →
        exchange.2.consumed = (physicalLines console.input).getD j []) ∧
      ∀ exchange ∈ turns.zip replies,
        (¬Reads console.styled console.interactive exchange → exchange.2.consumed = []) ∧
        Answered console.styled console.interactive exchange := by
  refine ⟨length_serveAll console turns, output_serveAll console turns,
    input_eq_flatMap_consumed console turns,
    fun j exchange => consumed_of_readings console turns, ?_⟩
  intro exchange hmem
  obtain ⟨before, after, hstyled, hinteractive, served⟩ :=
    exists_served_of_mem console turns hmem
  rw [← hstyled, ← hinteractive]
  refine ⟨fun hreads => ?_, answered_of_served served⟩
  rcases served.reading with ⟨hreads', -⟩ | ⟨-, hconsumed, -⟩
  · exact absurd hreads' hreads
  · exact hconsumed

/-- A line that is no text is taken by the prompt that reads it.  A prompt that is not
flushed and a message leave the next line for the prompt after them. -/
theorem serveAll_answers_of_broken_line :
    let dialog : Dialog := { title := "Launcher Error", body := "unable to load" }
    let console : Console := { input := [0xFF, 0x0A, 0x20, 0x59, 0x0A] }
    let turns : List Turn :=
      [{ request := .prompt dialog }, { request := .prompt dialog, flushFails := true },
        { request := .message dialog }, { request := .prompt dialog }]
    (console.serveAll turns).1.map (fun reply => (reply.choice, reply.consumed)) =
        [(some .cancel, [0xFF, 0x0A]), (some .cancel, []), (none, []),
          (some .accept, [0x20, 0x59, 0x0A])] ∧
      Consents [0x20, 0x59, 0x0A] := by
  intro dialog console turns
  let exchange : Turn × Reply :=
    ({ request := .prompt dialog },
      ⟨some .accept, [], (Request.prompt dialog).text false true, [0x20, 0x59, 0x0A]⟩)
  have hmem : exchange ∈ turns.zip (console.serveAll turns).1 := by decide +kernel
  have hanswered := ((serveAll_answers console turns).2.2.2.2 exchange hmem).2
  exact ⟨by decide +kernel, (hanswered.1.mp rfl).2⟩

end Console

end AppLauncher
