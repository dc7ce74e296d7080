import AppLauncher.Proofs.Launch.Calls
import AppLauncher.Proofs.Report.Turns

/-!
# Independence of reports

Statuses are reported one after the other, with one console and one browser.  The
report of a status that has a category is a turn at the console, and the answer alone
decides whether the browser is asked.  Any other report touches neither.  So the
console does not notice what becomes of an address, and reports that are silent are
not noticed by the others.
-/

namespace AppLauncher

variable {β γ : Type}

/-! ## Reports -/

/-- Opens addresses, or fails to; it may remember what it was asked before. -/
abbrev Browser (β : Type) := String → β → Except BrowserError Unit × β

/-- A console and a browser for reports, which start nothing. -/
def Browser.withConsole (browser : Browser β) : Collaborators (Console × β) where
  start _ state := (.success, state)
  prompt dialog state :=
    let (choice, warnings, console) := state.1.prompt dialog
    (choice, warnings, console, state.2)
  tell dialog state :=
    let (warnings, console) := state.1.tell dialog
    (warnings, console, state.2)
  openUrl address state :=
    let (result, memory) := browser address state.2
    (result, state.1, memory)

/-- The console while its flushes fail, or do not. -/
def Console.flushing (console : Console) (flushFails : Bool) : Console :=
  { console with sink := { console.sink with flushFails } }

def Call.answer? : Call → Option Choice
  | .prompt _ choice => some choice
  | _ => none

def Call.address? : Call → Option String
  | .openUrl address => some address
  | _ => none

/-- A status to report, and whether the sink fails to be flushed meanwhile.  No report
flushes twice. -/
structure Report where
  status : Status
  flushFails : Bool := false
deriving DecidableEq, Repr

structure Account where
  category : Option FailureCategory := none
  /-- The answer of the user, if there was a prompt. -/
  answer : Option Choice := none
  opened : List String := []
  /-- The bytes that the sink took. -/
  output : Bytes := []
  /-- The bytes that were taken from the input. -/
  consumed : Bytes := []
  warnings : List Warning := []
deriving DecidableEq, Repr

namespace Report

/-- Report a status with a console and a browser in a certain state. -/
def deliver (browser : Browser β) (messages : Messages) (report : Report)
    (state : Console × β) : Account × Console × β :=
  let (console, memory) := state
  let (reported, (after, memory), calls) :=
    reportFailure browser.withConsole.recorded messages report.status
      ((console.flushing report.flushFails, memory), [])
  ({ category := reported.value
     answer := calls.findSome? Call.answer?
     opened := calls.filterMap Call.address?
     output := after.sink.written.drop console.sink.written.length
     consumed := console.input.take (console.input.length - after.input.length)
     warnings := reported.warnings },
    after, memory)

def deliverAll (browser : Browser β) (messages : Messages) :
    List Report → Console × β → List Account × Console × β
  | [], state => ([], state)
  | report :: later, state =>
    let (account, state) := report.deliver browser messages state
    let (accounts, state) := deliverAll browser messages later state
    (account :: accounts, state)

def category (report : Report) : Option FailureCategory :=
  FailureCategory.classify report.status

end Report

/-- What a console is asked for when a category is explained. -/
def Messages.request (messages : Messages) : FailureCategory → Console.Request
  | .runtimeMissing => .prompt (messages.dialog .runtimeMissing)
  | category => .message (messages.dialog category)

/-- The account of a report that was a turn at the console.  The browser is asked for a
user who accepts. -/
def Account.ofReply (messages : Messages) (category : FailureCategory) (reply : Console.Reply)
    (results : List (Except BrowserError Unit)) : Account where
  category := some category
  answer := reply.choice
  opened := if reply.choice = some .accept then [messages.downloadUrl] else []
  output := reply.output
  consumed := reply.consumed
  warnings := .launchFailed :: reply.warnings.map .console ++ results.flatMap browserWarnings

theorem Console.during_eq (console : Console) (turn : Console.Turn) :
    console.during turn = console.flushing turn.flushFails :=
  rfl

namespace Report

variable {browser : Browser β} {messages : Messages} {report : Report} {console : Console}
  {memory : β}

theorem deliver_of_silent (hsilent : report.category = none) :
    report.deliver browser messages (console, memory) =
      ({}, console.flushing report.flushFails, memory) := by
  have hclassify : FailureCategory.classify report.status = none := hsilent
  simp [deliver, reportFailure, hclassify, Console.flushing]

/-- A report with a category is a turn at the console.  The browser is asked once for a
user who accepts, and only warnings depend on what becomes of that. -/
theorem exists_deliver_of_category {category : FailureCategory} {reply : Console.Reply}
    {after : Console} (hcategory : report.category = some category)
    (hserve : console.serve ⟨messages.request category, report.flushFails⟩ = (reply, after)) :
    ∃ results memory', report.deliver browser messages (console, memory) =
      (.ofReply messages category reply results, after, memory') := by
  have hclassify : FailureCategory.classify report.status = some category := hcategory
  cases category with
  | runtimeMissing =>
      rcases hprompt : (console.flushing report.flushFails).prompt
        (messages.dialog .runtimeMissing) with ⟨choice, warnings, final⟩
      have hanswer :
          (console.flushing report.flushFails).answer (messages.request .runtimeMissing) =
            (some choice, warnings, final) := Console.answer_prompt hprompt
      simp only [Console.serve, Console.during_eq, hanswer] at hserve
      obtain ⟨rfl, rfl⟩ := Prod.mk.inj hserve
      cases choice with
      | cancel =>
          refine ⟨[], memory, ?_⟩
          simp only [deliver, reportFailure, hclassify, Browser.withConsole,
            Collaborators.recorded, hprompt]
          simp [Account.ofReply, Call.answer?, Call.address?]
      | accept =>
          refine ⟨[(browser messages.downloadUrl memory).1],
            (browser messages.downloadUrl memory).2, ?_⟩
          simp only [deliver, reportFailure, hclassify, Browser.withConsole,
            Collaborators.recorded, hprompt]
          simp [Account.ofReply, Call.answer?, Call.address?, List.findSome?, List.filterMap]
  | badArguments | startFailure =>
      refine ⟨[], memory, ?_⟩
      simp only [Console.serve, Console.during_eq, Messages.request, Console.answer] at hserve
      obtain ⟨rfl, rfl⟩ := Prod.mk.inj hserve
      simp only [deliver, reportFailure, hclassify, Browser.withConsole, Collaborators.recorded]
      simp [Account.ofReply, Call.answer?, Call.address?]

/-! ## What a report leaves out of account -/

theorem deliver_flushing (flushFails : Bool) :
    report.deliver browser messages (console.flushing flushFails, memory) =
      report.deliver browser messages (console, memory) :=
  rfl

inductive Delivered (messages : Messages) (console : Console) (report : Report) :
    Account → Console → Prop where
  | silent (hsilent : report.category = none) :
      Delivered messages console report {} (console.flushing report.flushFails)
  | turn {category : FailureCategory} {reply : Console.Reply} {after : Console}
      (hcategory : report.category = some category)
      (hserve : console.serve ⟨messages.request category, report.flushFails⟩ = (reply, after))
      (results : List (Except BrowserError Unit)) :
      Delivered messages console report (.ofReply messages category reply results) after

theorem delivered_deliver (browser : Browser β) (messages : Messages) (report : Report)
    (console : Console) (memory : β) :
    let (account, after, _) := report.deliver browser messages (console, memory)
    Delivered messages console report account after := by
  cases hcategory : report.category with
  | none =>
      rw [deliver_of_silent hcategory]
      exact .silent hcategory
  | some category =>
      rcases hserve : console.serve ⟨messages.request category, report.flushFails⟩ with
        ⟨reply, after⟩
      obtain ⟨results, memory', hdeliver⟩ := exists_deliver_of_category hcategory hserve
      rw [hdeliver]
      exact .turn hcategory hserve results

end Report

/-! ## What one report shows -/

def Warning.isOfBrowser : Warning → Bool
  | .browserFailed _ => true
  | _ => false

def Account.apartFromBrowser (account : Account) : Account :=
  { account with warnings := account.warnings.filter (!·.isOfBrowser) }

/-- The address is opened for a user who accepts to fetch a runtime, and otherwise
nothing is. -/
def Account.OpensWithConsent (messages : Messages) (account : Account) : Prop :=
  account.opened =
    if account.category = some .runtimeMissing ∧ account.answer = some .accept then
      [messages.downloadUrl]
    else []

theorem filter_browserWarnings (results : List (Except BrowserError Unit)) :
    (results.flatMap browserWarnings).filter (!·.isOfBrowser) = [] := by
  rw [List.filter_eq_nil_iff]
  intro warning hmem
  obtain ⟨result, -, hwarning⟩ := List.mem_flatMap.mp hmem
  cases result with
  | ok => exact absurd hwarning List.not_mem_nil
  | error error =>
      rw [List.mem_singleton.mp hwarning]
      exact Bool.false_ne_true

namespace Report.Delivered

variable {messages : Messages} {console after after' : Console} {report : Report}
  {account account' : Account}

theorem category_eq (delivered : Delivered messages console report account after) :
    account.category = report.category := by
  cases delivered with
  | silent hsilent => exact hsilent.symm
  | turn hcategory => exact hcategory.symm

theorem opens (delivered : Delivered messages console report account after) :
    account.OpensWithConsent messages := by
  cases delivered with
  | silent => rfl
  | @turn category reply _ hcategory hserve results =>
      cases category with
      | runtimeMissing => simp [Account.OpensWithConsent, Account.ofReply]
      | badArguments | startFailure =>
          -- a message is not answered
          have hchoice : reply.choice = none := congrArg (·.1.choice) hserve.symm
          simp [Account.OpensWithConsent, Account.ofReply, hchoice]

theorem apartFromBrowser_eq (delivered : Delivered messages console report account after)
    (delivered' : Delivered messages console report account' after') :
    account.apartFromBrowser = account'.apartFromBrowser ∧ after = after' := by
  cases delivered with
  | silent hsilent =>
      cases delivered' with
      | silent => exact ⟨rfl, rfl⟩
      | turn hcategory => exact absurd (hsilent.symm.trans hcategory) (by simp)
  | turn hcategory hserve results =>
      cases delivered' with
      | silent hsilent => exact absurd (hsilent.symm.trans hcategory) (by simp)
      | turn hcategory' hserve' results' =>
          obtain rfl := Option.some.inj (hcategory.symm.trans hcategory')
          obtain ⟨rfl, rfl⟩ := Prod.mk.inj (hserve.symm.trans hserve')
          simp only [Account.apartFromBrowser, Account.ofReply, List.filter_append,
            filter_browserWarnings, and_self]

end Report.Delivered

/-! ## Runs -/

/-- The second list is the first one with items of a kind put in anywhere. -/
inductive Padded {α : Type} (extra : α → Prop) : List α → List α → Prop where
  | nil : Padded extra [] []
  | keep (item : α) {items more : List α} (later : Padded extra items more) :
      Padded extra (item :: items) (item :: more)
  | add {item : α} {items more : List α} (hextra : extra item) (later : Padded extra items more) :
      Padded extra items (item :: more)

namespace Report

/-- A status without a category was reported, and nothing came of it. -/
def IsSilent (exchange : Report × Account) : Prop :=
  exchange.1.category = none ∧ exchange.2 = {}

section Runs

variable (browser : Browser β) (messages : Messages)

theorem deliverAll_cons (report : Report) (later : List Report) (state : Console × β) :
    deliverAll browser messages (report :: later) state =
      ((report.deliver browser messages state).1 ::
          (deliverAll browser messages later (report.deliver browser messages state).2).1,
        (deliverAll browser messages later (report.deliver browser messages state).2).2) :=
  rfl

/-- Every report of a run is delivered to the console that the reports before it left. -/
theorem exists_delivered (report : Report) (state : Console × β) :
    ∃ account after memory, report.deliver browser messages state = (account, after, memory) ∧
      Delivered messages state.1 report account after :=
  ⟨_, _, _, rfl, delivered_deliver browser messages report state.1 state.2⟩

theorem category_deliverAll (reports : List Report) (state : Console × β) :
    (deliverAll browser messages reports state).1.map (·.category) =
      reports.map (·.category) := by
  induction reports generalizing state with
  | nil => rfl
  | cons report later ih =>
      obtain ⟨account, after, memory, hdeliver, delivered⟩ :=
        exists_delivered browser messages report state
      rw [deliverAll_cons, List.map_cons, List.map_cons, ih, hdeliver, delivered.category_eq]

theorem opens_of_mem_deliverAll (reports : List Report) (state : Console × β) :
    ∀ account ∈ (deliverAll browser messages reports state).1,
      account.OpensWithConsent messages := by
  induction reports generalizing state with
  | nil => simp [deliverAll]
  | cons report later ih =>
      obtain ⟨account, after, memory, hdeliver, delivered⟩ :=
        exists_delivered browser messages report state
      rw [deliverAll_cons, hdeliver]
      exact List.forall_mem_cons.mpr ⟨delivered.opens, ih _⟩

theorem deliverAll_apartFromBrowser (other : Browser γ) (reports : List Report)
    (console : Console) (memory : β) (memory' : γ) :
    let run := deliverAll browser messages reports (console, memory)
    let run' := deliverAll other messages reports (console, memory')
    run'.1.map (·.apartFromBrowser) = run.1.map (·.apartFromBrowser) ∧ run'.2.1 = run.2.1 := by
  induction reports generalizing console memory memory' with
  | nil => exact ⟨rfl, rfl⟩
  | cons report later ih =>
      obtain ⟨account, after, left, hdeliver, delivered⟩ :=
        exists_delivered browser messages report (console, memory)
      obtain ⟨account', after', left', hdeliver', delivered'⟩ :=
        exists_delivered other messages report (console, memory')
      -- the browsers may remember what they like; only the consoles have to agree
      obtain ⟨haccount, rfl⟩ := delivered'.apartFromBrowser_eq delivered
      obtain ⟨haccounts, hconsole⟩ := ih after' left left'
      simp only [deliverAll_cons, hdeliver, hdeliver', List.map_cons]
      exact ⟨by rw [haccount, haccounts], hconsole⟩

theorem deliverAll_flushing (flushFails : Bool) (reports : List Report) (console : Console)
    (memory : β) :
    (deliverAll browser messages reports (console.flushing flushFails, memory)).1 =
      (deliverAll browser messages reports (console, memory)).1 := by
  cases reports with
  | nil => rfl
  | cons report later => simp only [deliverAll_cons, deliver_flushing]

/-- Silent reports leave the console to the later ones as they found it. -/
theorem padded_deliverAll {reports more : List Report}
    (hmore : Padded (·.category = none) reports more) (console : Console) (memory : β) :
    Padded IsSilent
      (reports.zip (deliverAll browser messages reports (console, memory)).1)
      (more.zip (deliverAll browser messages more (console, memory)).1) := by
  induction hmore generalizing console memory with
  | nil => exact .nil
  | keep report later ih =>
      rw [deliverAll_cons, deliverAll_cons, List.zip_cons_cons, List.zip_cons_cons]
      exact .keep _ (ih _ _)
  | @add report reports more hsilent later ih =>
      rw [deliverAll_cons, List.zip_cons_cons, deliver_of_silent hsilent]
      refine .add ⟨hsilent, rfl⟩ ?_
      -- the silent report has set the flushes, which the next one sets anew
      rw [deliverAll_flushing]
      exact ih console memory

end Runs

/-- Reports in a row are independent of what does not concern them.  Their categories are
those of the statuses, and the download address is opened once for each prompt that is
accepted.  Another browser changes nothing but the warnings about it.  Reports of other
statuses can be put in anywhere: nothing comes of them, and each of the others keeps its
account. -/
theorem deliverAll_independent (browser : Browser β) (messages : Messages)
    (reports : List Report) (console : Console) (memory : β) :
    let run := deliverAll browser messages reports (console, memory)
    run.1.map (·.category) =
        reports.map (fun report => FailureCategory.classify report.status) ∧
      (∀ account ∈ run.1, account.OpensWithConsent messages) ∧
      (∀ {γ : Type} (other : Browser γ) (memory' : γ),
        let run' := deliverAll other messages reports (console, memory')
        run'.1.map (·.apartFromBrowser) = run.1.map (·.apartFromBrowser) ∧
          run'.2.1 = run.2.1) ∧
      ∀ more, Padded (·.category = none) reports more →
        let run' := deliverAll browser messages more (console, memory)
        run'.1.length = more.length ∧
          Padded IsSilent (reports.zip run.1) (more.zip run'.1) := by
  refine ⟨category_deliverAll browser messages reports _,
    opens_of_mem_deliverAll browser messages reports _, ?_, ?_⟩
  · intro γ other memory'
    exact deliverAll_apartFromBrowser browser messages other reports console memory memory'
  · intro more hmore
    have hlength :=
      congrArg List.length (category_deliverAll browser messages more (console, memory))
    rw [List.length_map, List.length_map] at hlength
    exact ⟨hlength, padded_deliverAll browser messages hmore console memory⟩

/-- Two prompts are accepted and the browser fails once; the sink is too short for the
third prompt.  Two silent reports in between are not noticed. -/
theorem deliverAll_independent_of_silent_reports :
    let browser : Browser Nat := fun _ earlier =>
      (if earlier = 0 then .error .unavailable else .ok (), earlier + 1)
    let messages : Messages := {}
    let console : Console :=
      { input := Bytes.ofText "ok\nYES\nok\n", sink := { room := some 450 } }
    let reports : List Report :=
      [{ status := .runtimeNotFound }, { status := .programStartFailed, flushFails := true },
        { status := .runtimeLoadFailed }, { status := .runtimeInitFailed }]
    let more : List Report :=
      [{ status := .runtimeNotFound }, { status := .success },
        { status := .programStartFailed, flushFails := true }, { status := .runtimeLoadFailed },
        { status := ⟨7⟩, flushFails := true }, { status := .runtimeInitFailed }]
    let accounts := (deliverAll browser messages reports (console, 0)).1
    let accounts' := (deliverAll browser messages more (console, 0)).1
    Padded (·.category = none) reports more ∧
      Padded IsSilent (reports.zip accounts) (more.zip accounts') ∧
      accounts.map (fun account => (account.answer, account.opened)) =
        [(some .accept, ["http://www.java.com/"]), (none, []),
          (some .accept, ["http://www.java.com/"]), (some .cancel, [])] := by
  intro browser messages console reports more accounts accounts'
  have hmore : Padded (·.category = none) reports more :=
    .keep _ (.add (by decide) (.keep _ (.keep _ (.add (by decide) (.keep _ .nil)))))
  have hindependent := deliverAll_independent browser messages reports console 0
  exact ⟨hmore, (hindependent.2.2.2 more hmore).2, by decide +kernel⟩

end Report

end AppLauncher
