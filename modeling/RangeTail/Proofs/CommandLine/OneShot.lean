import RangeTail.CommandLine.Run
import RangeTail.Proofs.CommandLine.FirstAnswer
import RangeTail.Proofs.CommandLine.Watch

/-!
This module contains the printing of a log that is not followed. It is read once: the one request is
made at the beginning, its answer is the only snapshot there ever is after the initial one, and that
is printed and ends the printing, whatever the answer is. Only bytes that reach past the largest offset
may break a part of the program down instead, and then nothing is printed.
-/

namespace RangeTail

namespace CommandLine

section

variable {config : Config} {url : Url} {offset : Option Nat} {started now : Nat}
variable {range : ByteRange} {o : RangeTail.Outcome}

namespace Watch

/-- What happens while a log is read once: the request is answered, what was learnt is looked at,
and the tail stops. A part that breaks down puts an end to it before. -/
def schedule (now : Nat) (answer : Except Fault Chunk) : Option Part → List Move
  | none => [.event now (.fetched answer), .look, .stop]
  | some .tail => [.event now (.fetched answer), .notice]
  | some .printer => [.event now (.fetched answer), .look]

/-- The log has been asked for. -/
def waiting (config : Config) (url : Url) (range : ByteRange) (started : Nat) : Watch where
  printing := { tail := .reading config url.text range started }
  requests := [range]
  seen := 0

/-- The tail has broken down at the answer. -/
def lost (config : Config) (url : Url) (range : ByteRange) (started : Nat) : Watch :=
  { waiting config url range started with progress := .lost }

/-- The request has been answered, and nobody has looked. -/
def ready (config : Config) (url : Url) (o : RangeTail.Outcome) : Watch where
  printing := .answered config url o
  requests := [o.request]
  seen := 0

/-- All that was learnt has been printed. -/
def finished (config : Config) (url : Url) (o : RangeTail.Outcome) (progress : Progress) : Watch where
  printing := .shown config url o
  requests := [o.request]
  seen := 1
  written := [o.snapshot.text.getD ""]
  verdict := .ofOutcome o
  progress := progress

/-- The printing is over since a part has broken down. -/
def brokenOff (w : Watch) (part : Part) : Watch :=
  { w with verdict := .broken part }

/-- How far the reading of a log that is read once has come. -/
inductive Stage (config : Config) (url : Url) (range : ByteRange) (started : Nat)
    : List Move → Watch → Prop
  | asked : Stage config url range started [] (waiting config url range started)
  | lost (now : Nat) (answer : Except Fault Chunk) :
      Part.ofOutcome? ⟨range, now - started, answer⟩ = some .tail →
      Stage config url range started [.event now (.fetched answer)]
        (lost config url range started)
  | noticed (now : Nat) (answer : Except Fault Chunk) :
      Part.ofOutcome? ⟨range, now - started, answer⟩ = some .tail →
      Stage config url range started [.event now (.fetched answer), .notice]
        ((lost config url range started).brokenOff .tail)
  | answered (now : Nat) (answer : Except Fault Chunk) :
      Part.ofOutcome? ⟨range, now - started, answer⟩ ≠ some .tail →
      Stage config url range started [.event now (.fetched answer)]
        (ready config url ⟨range, now - started, answer⟩)
  | crashed (now : Nat) (answer : Except Fault Chunk) :
      Part.ofOutcome? ⟨range, now - started, answer⟩ = some .printer →
      Stage config url range started [.event now (.fetched answer), .look]
        ((ready config url ⟨range, now - started, answer⟩).brokenOff .printer)
  | looked (now : Nat) (answer : Except Fault Chunk) :
      Part.ofOutcome? ⟨range, now - started, answer⟩ = none →
      Stage config url range started [.event now (.fetched answer), .look]
        (finished config url ⟨range, now - started, answer⟩ .works)
  | stopped (now : Nat) (answer : Except Fault Chunk) :
      Part.ofOutcome? ⟨range, now - started, answer⟩ = none →
      Stage config url range started [.event now (.fetched answer), .look, .stop]
        (finished config url ⟨range, now - started, answer⟩ .stopped)

variable {w : Watch} {moves : List Move} {m : Move}

theorem ofPrinting_launch (hfollow : config.follow = false)
    : ofPrinting (.launch config url offset started)
        =
      waiting config url (firstRange config offset) started := by
  rw [Printing.launch_of_not_follow hfollow]
  rfl

theorem waiting_after_fetched (answer : Except Fault Chunk)
    : let o : RangeTail.Outcome := ⟨range, now - started, answer⟩
      (waiting config url range started).after (.event now (.fetched answer))
        =
      if o.breaksTail then lost config url range started else ready config url o := by
  intro o
  unfold after waiting
  dsimp only
  rw [Printing.handle?_reading, Tail.request?_reading]
  cases hbreaks : RangeTail.Outcome.breaksTail ⟨range, now - started, answer⟩ <;> rfl

theorem ready_after_look (hfollow : config.follow = false)
    : (ready config url o).after .look
        =
      if o.breaksPrinter then (ready config url o).brokenOff .printer
      else finished config url o .works := by
  unfold after ready
  dsimp only
  rw [Printing.look?_answered]
  cases o.breaksPrinter with
  | true => rfl
  | false =>
    rw [if_neg nofun, if_neg nofun]
    dsimp only
    rw [Printing.verdict_shown hfollow]
    rfl

/-- A tail that waits for nothing hears of nothing. -/
theorem not_canHappen_event (h : w.printing.tail.IsOver) (e : Event)
    : ¬ w.CanHappen (.event now e) := by
  intro hcan
  exact h.not_canHappen e hcan.2.2

theorem Stage.after_waiting (answer : Except Fault Chunk)
    : Stage config url range started [.event now (.fetched answer)]
        ((waiting config url range started).after (.event now (.fetched answer))) := by
  rw [waiting_after_fetched]
  split
  . next h => exact .lost now answer (if_pos h)
  . next h =>
    apply Stage.answered
    unfold Part.ofOutcome?
    rw [if_neg h]
    split <;> nofun

theorem Stage.after_ready (hfollow : config.follow = false) {answer : Except Fault Chunk}
    (h : Part.ofOutcome? ⟨range, now - started, answer⟩ ≠ some .tail)
    : Stage config url range started [.event now (.fetched answer), .look]
        ((ready config url ⟨range, now - started, answer⟩).after .look) := by
  rw [ready_after_look hfollow]
  have htail : ¬ RangeTail.Outcome.breaksTail ⟨range, now - started, answer⟩ := by
    intro htail
    exact h (if_pos htail)
  split
  . next hprinter =>
    apply Stage.crashed
    unfold Part.ofOutcome?
    rw [if_neg htail, if_pos hprinter]
  . next hprinter =>
    apply Stage.looked
    unfold Part.ofOutcome?
    rw [if_neg htail, if_neg hprinter]

theorem Stage.after (hfollow : config.follow = false) (h : Stage config url range started moves w)
    (hm : m ≠ .interrupt) (hcan : w.CanHappen m)
    : Stage config url range started (moves ++ [m]) (w.after m) := by
  cases h with
  | asked =>
    cases m with
    | event now e =>
      obtain ⟨answer, rfl⟩ := Tail.eq_fetched_of_reading hcan.2.2
      exact .after_waiting answer
    | look => exact absurd hcan.2 (Nat.lt_irrefl 0)
    | notice => exact absurd hcan.1 nofun
    | stop => exact absurd rfl hcan.2.2
    | interrupt => contradiction
  | lost now answer hpart =>
    cases m with
    | event now e => exact absurd hcan.1 nofun
    | look => exact absurd hcan.2 (Nat.lt_irrefl 0)
    | notice => exact .noticed now answer hpart
    | stop => exact absurd hcan.1 nofun
    | interrupt => contradiction
  | noticed now answer hpart =>
    cases m with
    | event now e => exact absurd hcan.1 nofun
    | look => exact absurd hcan.1 nofun
    | notice => exact absurd rfl (hcan.2.1 .tail)
    | stop => exact absurd hcan.1 nofun
    | interrupt => contradiction
  | answered now answer hpart =>
    cases m with
    | event now e => exact absurd hcan (not_canHappen_event Tail.isOver_wasRead e)
    | look => exact .after_ready hfollow hpart
    | notice => exact absurd hcan.1 nofun
    | stop => exact absurd rfl hcan.2.2
    | interrupt => contradiction
  | crashed now answer hpart =>
    cases m with
    | event now e => exact absurd hcan (not_canHappen_event Tail.isOver_wasRead e)
    | look => exact absurd hcan.1 nofun
    | notice => exact absurd hcan.1 nofun
    | stop => exact absurd rfl hcan.2.1
    | interrupt => contradiction
  | looked now answer hpart =>
    cases m with
    | event now e => exact absurd hcan (not_canHappen_event Tail.isOver_wasRead e)
    | look => exact absurd hcan.1 (Verdict.ofOutcome_ne_continues _)
    | notice => exact absurd hcan.1 nofun
    | stop => exact .stopped now answer hpart
    | interrupt => contradiction
  | stopped now answer hpart =>
    cases m with
    | event now e => exact absurd hcan.1 nofun
    | look => exact absurd hcan.1 (Verdict.ofOutcome_ne_continues _)
    | notice => exact absurd hcan.1 nofun
    | stop => exact absurd hcan.1 nofun
    | interrupt => contradiction

theorem stage_of_run (hfollow : config.follow = false)
    (hrun : Run (· ≠ .interrupt) (waiting config url range started) moves w)
    : Stage config url range started moves w := by
  induction hrun with
  | refl => exact .asked
  | next m _ hm hcan ih => exact ih.after hfollow hm hcan

theorem Stage.requests_eq (h : Stage config url range started moves w) : w.requests = [range] := by
  cases h <;> rfl

theorem Stage.exists_prefix (h : Stage config url range started moves w)
    : ∃ now answer, moves <+: schedule now answer (Part.ofOutcome? ⟨range, now - started, answer⟩) := by
  cases h with
  | asked => exact ⟨0, .error .aborted, List.nil_prefix⟩
  | lost now answer hpart =>
    refine ⟨now, answer, ?_⟩
    rw [hpart]
    exact ⟨[.notice], rfl⟩
  | noticed now answer hpart =>
    refine ⟨now, answer, ?_⟩
    rw [hpart]
    exact List.prefix_rfl
  | answered now answer hpart =>
    refine ⟨now, answer, ?_⟩
    cases h : Part.ofOutcome? ⟨range, now - started, answer⟩ with
    | none => exact ⟨[.look, .stop], rfl⟩
    | some part =>
      cases part with
      | tail => contradiction
      | printer => exact ⟨[.look], rfl⟩
  | crashed now answer hpart =>
    refine ⟨now, answer, ?_⟩
    rw [hpart]
    exact List.prefix_rfl
  | looked now answer hpart =>
    refine ⟨now, answer, ?_⟩
    rw [hpart]
    exact ⟨[.stop], rfl⟩
  | stopped now answer hpart =>
    refine ⟨now, answer, ?_⟩
    rw [hpart]
    exact List.prefix_rfl

theorem printed_finished (h : Part.ofOutcome? o = none) (progress : Progress)
    : (finished config url o progress).printed = .once config url o := by
  rw [Printed.once_of_whole h]
  unfold printed finished
  dsimp only
  rw [String.join, List.foldl_cons, List.foldl_nil, String.empty_append]
  cases hverdict : Verdict.ofOutcome o with
  | broken part => exact absurd hverdict (Verdict.ofOutcome_ne_broken o part)
  | continues => rfl
  | done => rfl
  | failed f => rfl

/-- The reading goes on until the tail has stopped or a part has broken down. -/
theorem Stage.ends (h : Stage config url range started moves w)
    (hstuck : w.IsStuck (· ≠ .interrupt))
    : ∃ now answer,
        let o : RangeTail.Outcome := ⟨range, now - started, answer⟩
        moves = schedule now answer (Part.ofOutcome? o)
          ∧ w.printed = .once config url o
          ∧ (Part.ofOutcome? o = none → w.progress = .stopped ∧ w.written = [w.printed.output]) := by
  cases h with
  | asked =>
    exact absurd ⟨rfl, nofun, rfl⟩ (hstuck (.event 0 (.fetched (.error .aborted))) nofun)
  | lost now answer hpart => exact absurd ⟨rfl, nofun, fun _ => Nat.le_refl 0⟩ (hstuck .notice nofun)
  | noticed now answer hpart =>
    refine ⟨now, answer, ?_⟩
    dsimp only
    rw [Printed.once_of_broken hpart, hpart]
    exact ⟨rfl, rfl, nofun⟩
  | answered now answer hpart => exact absurd ⟨rfl, Nat.zero_lt_one⟩ (hstuck .look nofun)
  | crashed now answer hpart =>
    refine ⟨now, answer, ?_⟩
    dsimp only
    rw [Printed.once_of_broken hpart, hpart]
    exact ⟨rfl, rfl, nofun⟩
  | looked now answer hpart =>
    exact absurd ⟨rfl, Verdict.ofOutcome_ne_broken _ _, Verdict.ofOutcome_ne_continues _⟩
      (hstuck .stop nofun)
  | stopped now answer hpart =>
    have hprinted : (finished config url _ .stopped).printed = _ := printed_finished hpart .stopped
    refine ⟨now, answer, ?_⟩
    dsimp only
    rw [hprinted, hpart, Printed.once_of_whole hpart]
    exact ⟨rfl, rfl, fun _ => ⟨rfl, rfl⟩⟩

end Watch

end

namespace Outcome

/-- The program has read a log once, and ended as its answer says. -/
structure TellsOf (out : Outcome) (url : Url) (o : RangeTail.Outcome) : Prop where
  requests : out.requests = requestsAt url [o.request]
  output : out.output = o.snapshot.text.getD ""
  fails : ∀ fault, o.answer = .error fault → (∀ total, fault ≠ .emptyFile total) →
    out.code = 1 ∧ out.complaint = "Error: " ++ fault.message ++ " (" ++ o.request.text ++ ")\n"
  succeeds : (∀ fault, o.answer = .error fault → ∃ total, fault = .emptyFile total) →
    out.code = 0 ∧ out.complaint = ""

/-- The program has asked for a log once, and broken down at the answer. -/
structure IsBrokenOff (out : Outcome) (url : Url) (o : RangeTail.Outcome) (part : Part) : Prop where
  requests : out.requests = requestsAt url [o.request]
  output : out.output = ""
  code : out.code = part.code

theorem complaint_text (fault : Fault) (range : ByteRange) (latency : Nat)
    : (Complaint.ofFailure (.ofFault fault range latency)).text
        = "Error: " ++ fault.message ++ " (" ++ range.text ++ ")\n" := by
  have hmessage : (Complaint.ofFailure (.ofFault fault range latency)).message
      = fault.message ++ " (" ++ range.text ++ ")" := rfl
  have hcauses : Complaint.causeLines (Complaint.ofFailure (.ofFault fault range latency)).causes
      = "" := rfl
  unfold Complaint.text
  rw [hmessage, hcauses]
  simp only [String.append_assoc, String.append_empty]
  rfl

variable {config : Config} {url : Url} {o : RangeTail.Outcome} {part : Part}

theorem isBrokenOff_once (h : Part.ofOutcome? o = some part)
    : (ofPrinted url (.once config url o)).IsBrokenOff url o part := by
  rw [Printed.once_of_broken h]
  exact ⟨rfl, rfl, rfl⟩

theorem tellsOf_once (h : Part.ofOutcome? o = none)
    : (ofPrinted url (.once config url o)).TellsOf url o := by
  rw [Printed.once_of_whole h]
  unfold ofPrinted Verdict.ofOutcome
  cases hfailure : o.failure? with
  | some f =>
    obtain ⟨fault, hanswer, hfault, rfl⟩ := RangeTail.Outcome.failure?_eq_some_iff.mp hfailure
    refine ⟨rfl, rfl, ?_, ?_⟩
    . intro fault' hanswer' _
      rw [hanswer, Except.error.injEq] at hanswer'
      subst hanswer'
      exact ⟨rfl, complaint_text ..⟩
    . intro hempty
      obtain ⟨total, htotal⟩ := hempty fault hanswer
      exact absurd htotal (hfault total)
  | none =>
    refine ⟨rfl, rfl, ?_, ?_⟩
    . intro fault hanswer hfault
      rw [RangeTail.Outcome.failure?_of_fault hanswer hfault] at hfailure
      contradiction
    . intro _
      exact ⟨rfl, rfl⟩

end Outcome

theorem prepare_eq_ok {o : TailOptions} {file : String → Except String (List UInt8)}
    {config : Config} {url : Url} (hsettings : o.settings file = .ok config)
    (hurl : Url.parse o.url = .ok url)
    : o.prepare file = .ok (config, url) := by
  unfold TailOptions.prepare
  rw [hsettings]
  dsimp only
  rw [hurl]

theorem runTail_of_not_follow {config : Config} {url : Url} {w : World} {o : TailOptions}
    {serve : ByteRange → Except Fault Chunk} {rest : List (ByteRange → Except Fault Chunk)}
    (hfollow : config.follow = false) (hprepare : o.prepare w.file = .ok (config, url))
    (hanswers : w.answers url = serve :: rest)
    : let range := firstRange config o.offset
      runTail w o = .ofPrinted url (.once config url ⟨range, 0, serve range⟩) := by
  intro range
  unfold runTail
  rw [hprepare]
  dsimp only
  rw [hanswers, Printing.run_launch hfollow, Nat.sub_zero]

/--
A log that is not followed is read by one request, for the range at the given position or at the end
of the file. Whatever the answer is, unless a part of the program breaks down at it, the text of the
snapshot after it is all that is printed, the printing has failed exactly if the request has, for
another reason than that the file is empty, and nothing is left for the tail to do. While the tail works
by itself, all that can happen unless the user interrupts it is that the request is answered, the
snapshot is looked at once and the tail stops, and it comes to the same. The program ends with the
code 1 and names the failure and the range if there is one, and else with the code 0. No part breaks
down at an answer whose bytes end at a position that 64 bits hold; where one does, nothing is printed,
and the program ends with the code of that part.
-/
theorem unfollowed_is_read_once {config : Config} (hfollow : config.follow = false) (url : Url)
    (offset : Option Nat)
    : let range := firstRange config offset
      let p := Printing.launch config url offset
      (∀ o : RangeTail.Outcome, o.Fits → Part.ofOutcome? o = none)
        ∧ (∀ started now serve rest,
            let o : RangeTail.Outcome := ⟨range, now - started, serve range⟩
            let printed := (p started).run now (serve :: rest)
            (Part.ofOutcome? o = none → printed.IsReadOnce o)
              ∧ ∀ part, Part.ofOutcome? o = some part → printed.IsBrokenOff o part)
        ∧ (∀ started moves w, Watch.Run (· ≠ .interrupt) (.ofPrinting (p started)) moves w →
            w.requests = [range]
              ∧ (∃ now answer,
                moves <+: Watch.schedule now answer
                  (Part.ofOutcome? ⟨range, now - started, answer⟩))
              ∧ (w.IsStuck (· ≠ .interrupt) →
                ∃ now answer,
                  let o : RangeTail.Outcome := ⟨range, now - started, answer⟩
                  moves = Watch.schedule now answer (Part.ofOutcome? o)
                    ∧ w.printed = (p started).run now [fun _ => answer]
                    ∧ (Part.ofOutcome? o = none →
                      w.progress = .stopped ∧ w.written = [w.printed.output])))
        ∧ ∀ (w : World) (o : TailOptions) serve rest,
            o.prepare w.file = .ok (config, url) → o.offset = offset →
            w.answers url = serve :: rest →
              let came : RangeTail.Outcome := ⟨range, 0, serve range⟩
              (Part.ofOutcome? came = none → (runTail w o).TellsOf url came)
                ∧ ∀ part, Part.ofOutcome? came = some part →
                  (runTail w o).IsBrokenOff url came part := by
  intro range p
  refine ⟨fun _ => Part.ofOutcome?_of_fits, ?_, ?_, ?_⟩
  . intro started now serve rest o printed
    have hprinted : printed = .once config url o := Printing.run_launch hfollow serve rest
    rw [hprinted]
    exact ⟨Printed.isReadOnce_once, fun _ => Printed.isBrokenOff_once⟩
  . intro started moves w hrun
    rw [Watch.ofPrinting_launch hfollow] at hrun
    have hstage := Watch.stage_of_run hfollow hrun
    refine ⟨hstage.requests_eq, hstage.exists_prefix, ?_⟩
    intro hstuck
    obtain ⟨now, answer, hmoves, hprinted, hwhole⟩ := hstage.ends hstuck
    refine ⟨now, answer, hmoves, ?_, hwhole⟩
    rw [hprinted, Printing.run_launch hfollow]
  . intro w o serve rest hprepare hoffset hanswers came
    rw [runTail_of_not_follow hfollow hprepare hanswers, hoffset]
    exact ⟨Outcome.tellsOf_once, fun _ => Outcome.isBrokenOff_once⟩

/-- The URL of a log. -/
def logUrl : Url where
  scheme := "http".toList
  host := some (.name "logs.example".toList)
  path := .rooted ["log".toList]

/-- A world without files, where all servers refuse what they are asked for. -/
def refusingWorld : World where
  file _ := .error "no such file"
  servers _ := [fun _ => some { status := 404 }]

/-- The log is read from a position, and the request is refused. If the answer told of bytes past the
largest offset instead, the tail would break down at it. -/
theorem unfollowed_is_read_once_refused
    : let config : Config := { chunkSize := 4 }
      let refused : Except Fault Chunk := .error (.status 404)
      let past : Except Fault Chunk :=
        .ok ⟨maxOffset - 1, "a\nb".toUTF8.toList, maxOffset⟩
      let o : TailOptions :=
        { url := "http://logs.example/log", offset := some 6, chunkSize := some 4 }
      let p := Printing.launch config logUrl (some 6) 1
      let w := (Watch.schedule 3 refused none).foldl Watch.after (.ofPrinting p)
      (p.run 3 [fun _ => refused]).IsReadOnce ⟨.span 6 10, 2, refused⟩
        ∧ (p.run 3 [fun _ => past]).IsBrokenOff ⟨.span 6 10, 2, past⟩ .tail
        ∧ w.requests = [.span 6 10]
        ∧ w.progress = .stopped
        ∧ w.written = [w.printed.output]
        ∧ (runTail refusingWorld o).code = 1
        ∧ (runTail refusingWorld o).complaint
          = "Error: unexpected status 404, expected 206 partial content (6-10)\n"
        ∧ (runTail refusingWorld o).requests = [{ url := logUrl, range := .span 6 10 }] := by
  intro config refused past o p w
  obtain ⟨hfits, hrun, hwatch, hprogram⟩ := @unfollowed_is_read_once config rfl logUrl (some 6)
  have hwhole : Part.ofOutcome? ⟨.span 6 10, 2, refused⟩ = none := hfits _ nofun
  have hbroken : Part.ofOutcome? ⟨.span 6 10, 2, past⟩ = some .tail := by decide +kernel
  have hnil : Watch.Run (· ≠ .interrupt) (.ofPrinting p) [] (.ofPrinting p) := .refl
  have hw : Watch.Run (· ≠ .interrupt) (.ofPrinting p) (Watch.schedule 3 refused none) w := hnil
    |>.next (.event 3 (.fetched refused)) nofun ⟨rfl, nofun, rfl⟩
    |>.next .look nofun ⟨rfl, Nat.zero_lt_one⟩
    |>.next .stop nofun ⟨rfl, nofun, nofun⟩
  have hstuck : w.IsStuck (· ≠ .interrupt) := by
    intro m hm hcan
    cases m with
    | event now e => exact absurd hcan.1 nofun
    | look => exact absurd hcan.1 nofun
    | notice => exact absurd hcan.1 nofun
    | stop => exact absurd hcan.1 nofun
    | interrupt => contradiction
  obtain ⟨hrequests, _, hend⟩ := hwatch 1 _ w hw
  obtain ⟨now, answer, hmoves, _, hstopped⟩ := hend hstuck
  -- three things happen only where no part breaks down
  have hlength := congrArg List.length hmoves
  have hpart : Part.ofOutcome? ⟨.span 6 10, now - 1, answer⟩ = none := by
    cases hpart : Part.ofOutcome? ⟨.span 6 10, now - 1, answer⟩ with
    | none => rfl
    | some part =>
      have hother : 3 = (Watch.schedule now answer (some part)).length := by
        rw [← hpart]
        exact hlength
      cases part <;> simp [Watch.schedule] at hother
  obtain ⟨hprogress, hwritten⟩ := hstopped hpart
  have hprepare : o.prepare refusingWorld.file = .ok (config, logUrl) := by
    have hsettings : o.settings refusingWorld.file = .ok config := rfl
    have hparse : Url.parse o.url = .ok logUrl := by decide +kernel
    exact prepare_eq_ok hsettings hparse
  have hask : Http.Request.canAsk logUrl = true := by decide +kernel
  have htells := (hprogram refusingWorld o _ _ hprepare rfl (if_pos hask)).1 (hfits _ nofun)
  obtain ⟨hcode, hcomplaint⟩ := htells.fails (.status 404) rfl nofun
  exact ⟨(hrun 1 3 _ _).1 hwhole, (hrun 1 3 _ _).2 .tail hbroken, hrequests, hprogress, hwritten,
    hcode, hcomplaint.trans (by decide +kernel), htells.requests.trans (if_pos hask)⟩

end CommandLine
end RangeTail
