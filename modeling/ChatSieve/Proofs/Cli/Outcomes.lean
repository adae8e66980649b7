import ChatSieve.Cli.Run
import ChatSieve.Proofs.Expr.Typing
import Mathlib.Data.List.Basic

/-!
# Outcomes of runs

The configuration, the filter and the log of an invocation can be bad, each by
itself (`Invocation.faults`). Whatever a run does, it goes by this list
(`goesBy_perform`): it fails with the first fault and has written nothing to the
output then, and without a fault it succeeds. So no later step of an evaluation
can fail, and a check succeeds like an evaluation over a log that can be read
(`outcome_by_faults`).
-/

namespace ChatSieve.Cli

open ChatSieve.Report ChatSieve.Token ChatSieve.Grammar

/-- What is wrong with an input, if anything is. -/
def faultOf {α : Type} : Except Failure α → List Failure
  | .ok _ => []
  | .error f => [f]

/-- What is wrong with the inputs of a command. -/
def Command.faults (files : Files) : Command → List Failure
  | .check text _ => faultOf (compileFilter text)
  | .eval text path _ _ => faultOf (compileFilter text) ++ faultOf (loadLog files path)
  | .identifiers => []

/-- What is wrong with the configuration, the filter and the log of an
invocation, in this order. Each is looked at whether or not the others are good. -/
def Invocation.faults (files : Files) (i : Invocation) : List Failure :=
  faultOf (loadConfig files i.config) ++ i.command.faults files

private theorem faultOf_eq_nil_iff {α : Type} {x : Except Failure α} :
    faultOf x = [] ↔ ∃ a, x = .ok a := by
  cases x with
  | ok a => exact ⟨fun _ => ⟨a, rfl⟩, fun _ => rfl⟩
  | error f => exact ⟨nofun, nofun⟩

private theorem compileFilter_eq_ok_iff {text : String} {f : Filter} :
    compileFilter text = .ok f ↔ Filter.ofText text = .ok f := by
  unfold compileFilter
  cases Filter.ofText text with
  | ok g => simp
  | error e => exact ⟨nofun, nofun⟩

private theorem loadLog_eq_ok_iff {files : Files} {path : String}
    {messages : List Message.Recorded} :
    loadLog files path = .ok messages ↔
      ∃ bytes, files path = .ok bytes ∧ Message.readLog bytes = .ok messages := by
  unfold loadLog
  cases files path with
  | error e => simp
  | ok bytes => cases read : Message.readLog bytes <;> simp [read]

private theorem faults_eval_eq_nil_iff {files : Files} {i : Invocation} {text path : String}
    {format : Format} {all : Bool} (evaluates : i.command = .eval text path format all) :
    i.faults files = [] ↔
      (∃ channels, loadConfig files i.config = .ok channels) ∧
      (∃ f, Filter.ofText text = .ok f) ∧
      ∃ messages bytes, files path = .ok bytes ∧ Message.readLog bytes = .ok messages := by
  unfold Invocation.faults
  rw [evaluates, Command.faults]
  simp only [List.append_eq_nil_iff, faultOf_eq_nil_iff, compileFilter_eq_ok_iff, loadLog_eq_ok_iff]

private theorem faults_check_eq_nil_iff {files : Files} {i : Invocation} {text : String}
    {debug : Bool}
    (checks : i.command = .check text debug) :
    i.faults files = [] ↔
      (∃ channels, loadConfig files i.config = .ok channels) ∧ ∃ f, Filter.ofText text = .ok f := by
  unfold Invocation.faults
  rw [checks, Command.faults]
  simp only [List.append_eq_nil_iff, faultOf_eq_nil_iff, compileFilter_eq_ok_iff]

/-- A session fails with the first of some faults, having written of it only what
has to be told at once. Without a fault it succeeds, having written to the output
only. -/
def Session.GoesBy (colored : Bool) (faults : List Failure) (x : Session Unit) : Prop :=
  ∀ c : Console,
    match faults with
    | [] => ∃ text, x.result c = (.ok (), c.print text)
    | f :: _ => x.result c = (.error f, c.complain (f.notice colored))

namespace Session

variable {colored : Bool} {faults : List Failure}

private theorem goesBy_print (text : String) : GoesBy colored [] (print text) :=
  fun c => ⟨text, result_print text c⟩

/-- Before a session comes an input that it needs. -/
theorem goesBy_ofExcept {α : Type} {x : Except Failure α} {next : α → Session Unit}
    (later : ∀ a, x = .ok a → GoesBy colored faults (next a)) :
    GoesBy colored (faultOf x ++ faults) (ofExcept colored x >>= next) := by
  intro c
  cases read : x with
  | ok a =>
    rw [result_ofExcept_ok rfl]
    exact later a read c
  | error f => exact result_ofExcept_error rfl colored next c

end Session

open Session

private theorem goesBy_runCommand (files : Files) (colored : Bool) (channels : Channels)
    (command : Command) :
    GoesBy colored (command.faults files) (runCommand files colored channels command) := by
  cases command with
  | check text debug =>
    rw [Command.faults, ← List.append_nil (faultOf _)]
    exact goesBy_ofExcept fun f _ => goesBy_print _
  | eval text path format all =>
    rw [Command.faults, ← List.append_nil (faultOf (loadLog files path))]
    exact goesBy_ofExcept fun f _ => goesBy_ofExcept fun log _ => goesBy_print _
  | identifiers => exact goesBy_print _

theorem goesBy_perform (files : Files) (colored : Bool) (i : Invocation) :
    GoesBy colored (i.faults files) (perform files colored i) :=
  goesBy_ofExcept fun channels _ => goesBy_runCommand files colored channels i.command

variable {files : Files} {i : Invocation}

private theorem outcome_of_fault (colored : Bool) {f : Failure} {rest : List Failure}
    (first : i.faults files = f :: rest) :
    i.outcome files colored = ⟨1, "", f.report colored⟩ := by
  have performed := goesBy_perform files colored i .empty
  rw [first] at performed
  unfold Invocation.outcome
  rw [performed]
  simp [Outcome.ofSession, Console.complain, Console.empty, Failure.report]

private theorem outcome_of_no_fault (colored : Bool) (sound : i.faults files = []) :
    ∃ text, i.outcome files colored = ⟨0, text, ""⟩ := by
  have performed := goesBy_perform files colored i .empty
  rw [sound] at performed
  obtain ⟨text, performed⟩ := performed
  unfold Invocation.outcome
  rw [performed]
  exact ⟨_, rfl⟩

private theorem code_eq_zero_iff (colored : Bool) :
    (i.outcome files colored).code = 0 ↔ i.faults files = [] := by
  cases faults : i.faults files with
  | nil =>
    obtain ⟨text, ended⟩ := outcome_of_no_fault colored faults
    simp [ended]
  | cons f rest => simp [outcome_of_fault colored faults]

/-- What a run writes to the output, or how it fails, says all of its outcome. -/
theorem ofResult_run (files : Files) (colored : Bool) (i : Invocation) :
    Outcome.ofResult colored (run files colored i) = i.outcome files colored := by
  have performed := goesBy_perform files colored i .empty
  unfold run
  cases faults : i.faults files with
  | nil =>
    rw [faults] at performed
    obtain ⟨text, performed⟩ := performed
    rw [Invocation.outcome, performed]
    rfl
  | cons f rest =>
    rw [faults] at performed
    rw [outcome_of_fault colored faults, performed]
    rfl

/-- The output of an evaluation with good inputs. Nothing is asked of the values
of the filter. -/
theorem outcome_eval (colored : Bool) {text path : String} {format : Format} {all : Bool}
    {channels : Channels} {f : Filter} {messages : List Message.Recorded}
    (evaluates : i.command = .eval text path format all)
    (loaded : loadConfig files i.config = .ok channels) (compiled : Filter.ofText text = .ok f)
    (read : loadLog files path = .ok messages) :
    i.outcome files colored =
      ⟨0, render colored format f.ty all (f.evaluate channels messages), ""⟩ := by
  unfold Invocation.outcome perform
  rw [result_ofExcept_ok loaded, evaluates, runCommand,
    result_ofExcept_ok (compileFilter_eq_ok_iff.2 compiled), result_ofExcept_ok read, result_print]
  simp [Outcome.ofSession, Console.print, Console.empty]

/-- A run that fails has written nothing to the output, and reports the first of
its faults. An evaluation succeeds exactly if its three inputs are good, with the
results on all messages. A check succeeds exactly if an evaluation of its filter
under its configuration does, over any log that can be read. -/
theorem outcome_by_faults (files : Files) (colored : Bool) (i : Invocation) :
    ((i.outcome files colored).code = 1 → (i.outcome files colored).output = "") ∧
    (∀ f rest, i.faults files = f :: rest →
      i.outcome files colored = ⟨1, "", f.report colored⟩) ∧
    (∀ text path format all, i.command = .eval text path format all →
      ((i.outcome files colored).code = 0 ↔
        (∃ channels, loadConfig files i.config = .ok channels) ∧
        (∃ f, Filter.ofText text = .ok f) ∧
        ∃ messages bytes, files path = .ok bytes ∧ Message.readLog bytes = .ok messages) ∧
      ∀ channels f bytes messages, loadConfig files i.config = .ok channels →
        Filter.ofText text = .ok f →
        files path = .ok bytes → Message.readLog bytes = .ok messages →
        i.outcome files colored =
          ⟨0, render colored format f.ty all (f.evaluate channels messages), ""⟩) ∧
    (∀ text debug, i.command = .check text debug →
      ∀ (j : Invocation) (path : String) (format : Format) (all colored' : Bool)
        (bytes : List UInt8) (messages : List Message.Recorded), j.config = i.config →
        j.command = .eval text path format all →
        files path = .ok bytes → Message.readLog bytes = .ok messages →
        ((i.outcome files colored).code = 0 ↔ (j.outcome files colored').code = 0)) := by
  refine ⟨?_, fun f rest => outcome_of_fault colored, ?_, ?_⟩
  · intro failed
    cases faults : i.faults files with
    | nil =>
      obtain ⟨text, ended⟩ := outcome_of_no_fault colored faults
      rw [ended] at failed
      exact absurd failed Nat.zero_ne_one
    | cons f rest => rw [outcome_of_fault colored faults]
  · intro text path format all evaluates
    refine ⟨(code_eq_zero_iff colored).trans (faults_eval_eq_nil_iff evaluates), ?_⟩
    intro channels f bytes messages loaded compiled content read
    exact outcome_eval colored evaluates loaded compiled (loadLog_eq_ok_iff.2 ⟨bytes, content, read⟩)
  · intro text debug checks j path format all colored' bytes messages same evaluates content read
    rw [code_eq_zero_iff, code_eq_zero_iff, faults_check_eq_nil_iff checks,
      faults_eval_eq_nil_iff evaluates, same]
    exact and_congr_right fun _ => (and_iff_left ⟨messages, bytes, content, read⟩).symm

/-- Of a file that is missing and a text that is no filter, the file is reported
as the configuration, and the text where the file is the log. A filter by itself
fails over a log that is no text, and succeeds over a log with a message. -/
theorem outcome_by_faults_missing :
    Invocation.outcome ⟨some "chat.toml", .auto, .eval "1 +" "chat.jsonl" .text false⟩
        (fun _ => .error .notFound) false =
      ⟨1, "", "error: Failed to load config: Failed to read config file 'chat.toml': " ++
        "No such file or directory (os error 2): No such file or directory (os error 2)\n"⟩ ∧
    Invocation.outcome ⟨none, .auto, .eval "1 +" "chat.jsonl" .text false⟩
        (fun _ => .error .notFound) false =
      ⟨1, "", "invalid filter\n  Unexpected end of statement\nerror: invalid filter\n"⟩ ∧
    Invocation.outcome ⟨none, .auto, .eval "7" "chat.jsonl" .text false⟩
        (fun _ => .ok [0xFF]) false =
      ⟨1, "", "error: Failed to parse message file 'chat.jsonl': Failed to read messages: " ++
        "stream did not contain valid UTF-8: stream did not contain valid UTF-8\n"⟩ ∧
    Invocation.outcome ⟨none, .auto, .eval "7" "chat.jsonl" .text false⟩
        (fun _ => .ok "\n\x7b\"content\":\"hi\"\x7d".toUTF8.data.toList) false =
      ⟨0, "FILTER evaluated 1 message (Int)\n      2: - # : hi => 7\n", ""⟩ := by
  have no_operand : tokens Catalogue.declarations "1 +" = [⟨.int, "1"⟩, ⟨.plus, "+"⟩] := by
    decide +kernel
  have malformed : (parse Catalogue.declarations "1 +").error = some .unexpectedEnd := by
    rw [parse, no_operand]
    rfl
  have fault : compileFilter "1 +" = .error (.filter (.malformed .unexpectedEnd)) := by
    rw [compileFilter, Filter.ofText, Filter.compile_of_error malformed]
  have integer : tokens Catalogue.declarations "7" = [⟨.int, "7"⟩] := by
    decide +kernel
  have parsed : parse Catalogue.declarations "7" = ⟨.int 7, none⟩ := by
    rw [parse, integer]
    rfl
  have compiled : Filter.ofText "7" = .ok ⟨.int 7, .int⟩ :=
    (Filter.compile_eq_ok_iff _ _ ⟨_, _⟩).2 ⟨parsed, rfl⟩
  have log : Message.readLog "\n\x7b\"content\":\"hi\"\x7d".toUTF8.data.toList =
      .ok [⟨2, { Message.blank with content := "hi" }⟩] := by
    decide +kernel
  refine ⟨?_, ?_, ?_, ?_⟩
  · exact ((outcome_by_faults _ _ _).2.1 _ _ rfl).trans (by decide +kernel)
  · have faults : Invocation.faults (fun _ => .error .notFound)
        ⟨none, .auto, .eval "1 +" "chat.jsonl" .text false⟩ =
        [.filter (.malformed .unexpectedEnd), .noLog "chat.jsonl" .notFound] := by
      simp only [Invocation.faults, Command.faults, fault]
      rfl
    exact ((outcome_by_faults _ _ _).2.1 _ _ faults).trans (by decide +kernel)
  · have faults : Invocation.faults (fun _ => .ok [0xFF])
        ⟨none, .auto, .eval "7" "chat.jsonl" .text false⟩ = [.log "chat.jsonl" .unreadable] := by
      have no_text : loadLog (fun _ => .ok [0xFF]) "chat.jsonl" = .error (.log "chat.jsonl" .unreadable) := by
        rfl
      simp only [Invocation.faults, Command.faults, compileFilter, compiled, no_text]
      rfl
    exact ((outcome_by_faults _ _ _).2.1 _ _ faults).trans (by decide +kernel)
  · exact (((outcome_by_faults _ _ _).2.2.1 _ _ _ _ rfl).2 .none _ _ _ rfl compiled rfl log).trans
      (by decide +kernel)

end ChatSieve.Cli
