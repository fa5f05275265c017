import ReversePolish.Proofs.GivenLines

/-! # Lines given and lines asked for

The lines of a session are given with the options, or they are asked for and come from the input.
It is the same session either way: the same comes back for each line, and the same line is the
last one.  Asking only adds the banner, a prompt in front of each line, and a prompt for the
line that never came if none exits.  Both ways are compared with the feedbacks of the session
(`Session.feedbacks`), which know neither of them.

Two dashes are the exception.  As a line that is asked for they are complained about, and as a line
that is given they are taken away, so the complaint is missing (`run_given_dashes`).
-/

namespace ReversePolish.CommandLine

theorem inputLines_append {line : Text} (unbroken : '\n' ∉ line) (rest : Text) :
    inputLines (line ++ '\n' :: rest) = line :: inputLines rest := by
  induction line with
  | nil => rfl
  | cons c line ih =>
      rw [List.mem_cons, not_or] at unbroken
      have inLine : ¬ c = '\n' := fun same => unbroken.1 same.symm
      rw [List.cons_append, inputLines, if_neg inLine, ih unbroken.2]
      rfl

/-- Texts without line feeds are the lines of the input that has a line feed behind each. -/
theorem inputLines_lines {lines : List Text} (unbroken : ∀ line ∈ lines, '\n' ∉ line) :
    inputLines (Text.lines lines) = lines := by
  induction lines with
  | nil => rfl
  | cons line lines ih =>
      obtain ⟨first, others⟩ := List.forall_mem_cons.mp unbroken
      have rest : Text.lines (line :: lines) = line ++ '\n' :: Text.lines lines := by
        simp [Text.lines]
      rw [rest, inputLines_append first, ih others]

/-- A line of the session escapes: what came back before it is all that is written, and asking had
    written the prompt for it. -/
structure CutShort (session : Session) (lines : List Text) (before : List Feedback)
    (error : ConversionError) : Prop where
  run_escaped : (runLines session lines).conclusion = .escaped error
  run_output : (runLines session lines).output = before.flatMap Feedback.output
  asked_escaped : (askLines session lines).conclusion = .escaped error
  asked_output : (askLines session lines).output =
    before.flatMap (fun feedback => prompt ++ feedback.output) ++ prompt

namespace CutShort

variable {session : Session} {line : Text} {error : ConversionError}

theorem of_first (escaped : (session.feed line).run.ending = .escaped error) (later : List Text) :
    CutShort session (line :: later) [] error := by
  have silent := Session.feed_output_of_escaped escaped
  constructor
  · simp only [runLines, escaped]
  · simp only [runLines, escaped, silent, List.flatMap_nil]
  · rw [askLines_cons_of_escaped escaped]
  · rw [askLines_cons_of_escaped escaped, silent, List.flatMap_nil, List.append_nil,
      List.nil_append]

theorem cons (told : (session.feed line).Told)
    (goesOn : (session.feed line).run.ending ≠ .exited) {later : List Text}
    {before : List Feedback} (cut : CutShort (session.feed line).session later before error) :
    CutShort session (line :: later) (session.feed line :: before) error := by
  have runs := runLines_cons_of_told told goesOn later
  have asks := askLines_cons_of_told told goesOn later
  constructor
  · rw [runs]
    exact cut.run_escaped
  · simp only [runs, Transcript.after, cut.run_output, List.flatMap_cons]
  · rw [asks]
    exact cut.asked_escaped
  · simp only [asks, Transcript.after, cut.asked_output, List.flatMap_cons, List.append_assoc]

/-- The first line that escapes cuts the session short. -/
theorem of_escaped {lines : List Text} {before after : List Feedback} {feedback : Feedback}
    (fed : session.feedbacks lines = before ++ feedback :: after)
    (earlier : ∀ feedback ∈ before, ¬ feedback.run.Escaped)
    (escaped : feedback.run.ending = .escaped error) : CutShort session lines before error := by
  induction lines generalizing session before with
  | nil => simp [Session.feedbacks] at fed
  | cons line later ih =>
      by_cases exited : (session.feed line).run.ending = .exited
      · -- The line that exits is the only one that is fed, and it does not escape.
        have only : feedback ∈ [session.feed line] := by
          rw [← Session.feedbacks_cons_of_exited exited later, fed]
          simp
        rw [List.mem_singleton.mp only, exited] at escaped
        cases escaped
      · rw [Session.feedbacks_cons_of_not_exited exited] at fed
        cases before with
        | nil =>
            obtain ⟨rfl, -⟩ := List.cons.inj fed
            exact of_first escaped later
        | cons first before =>
            obtain ⟨rfl, rest⟩ := List.cons.inj fed
            obtain ⟨returned, others⟩ := List.forall_mem_cons.mp earlier
            exact cons ((session.feed_told_iff line).mpr returned) exited (ih rest others)

end CutShort

/-- What comes back for the lines of a session is written between an opening and a closing, each
    time behind a text that asks for the line, and the program returns.  If a line escapes, the
    transcript ends where the line was asked for, and the program does not return. -/
structure Transcript.Writes (transcript : Transcript) (opening asking closing : Text)
    (fed : List Feedback) : Prop where
  returned : (∀ feedback ∈ fed, ¬ feedback.run.Escaped) →
    transcript.output =
        opening ++ fed.flatMap (fun feedback => asking ++ feedback.output) ++ closing ∧
      transcript.conclusion = .returned
  cut : ∀ before feedback after error, fed = before ++ feedback :: after →
    (∀ earlier ∈ before, ¬ earlier.run.Escaped) → feedback.run.ending = .escaped error →
    transcript.output =
        opening ++ before.flatMap (fun feedback => asking ++ feedback.output) ++ asking ∧
      transcript.conclusion = .escaped error

section Writes

variable {opening asking closing : Text} {fed : List Feedback}

/-- Only output and conclusion count. -/
theorem Transcript.Writes.congr {first second : Transcript}
    (writes : first.Writes opening asking closing fed) (output : second.output = first.output)
    (conclusion : second.conclusion = first.conclusion) :
    second.Writes opening asking closing fed := by
  constructor
  · rw [output, conclusion]
    exact writes.returned
  · rw [output, conclusion]
    exact writes.cut

/-- If a line of a session escapes, there is a first one that does. -/
theorem exists_first_escaped {feedback : Feedback} (member : feedback ∈ fed)
    (escaped : feedback.run.Escaped) :
    ∃ before first after error, fed = before ++ first :: after ∧
      (∀ earlier ∈ before, ¬ earlier.run.Escaped) ∧ first.run.ending = .escaped error := by
  have found : (fed.find? fun feedback => decide feedback.run.Escaped).isSome := by
    rw [List.find?_isSome]
    exact ⟨feedback, member, decide_eq_true escaped⟩
  obtain ⟨first, here⟩ := Option.isSome_iff_exists.mp found
  obtain ⟨stops, before, after, split, earlier⟩ := List.find?_eq_some_iff_append.mp here
  obtain ⟨error, ending⟩ := of_decide_eq_true stops
  exact ⟨before, first, after, error, split, by simpa using earlier, ending⟩

/-- What is written is settled by what comes back for the lines. -/
theorem Transcript.Writes.output_eq {first second : Transcript}
    (one : first.Writes opening asking closing fed)
    (other : second.Writes opening asking closing fed) : first.output = second.output := by
  by_cases returned : ∀ feedback ∈ fed, ¬ feedback.run.Escaped
  · rw [(one.returned returned).1, (other.returned returned).1]
  · obtain ⟨feedback, member, escaped⟩ : ∃ feedback ∈ fed, feedback.run.Escaped := by
      simpa using returned
    obtain ⟨before, stop, after, error, split, earlier, ending⟩ :=
      exists_first_escaped member escaped
    rw [(one.cut before stop after error split earlier ending).1,
      (other.cut before stop after error split earlier ending).1]

end Writes

theorem writes_runLines (session : Session) (lines : List Text) :
    (runLines session lines).Writes [] [] [] (session.feedbacks lines) where
  returned returned := by
    have endures := Endures.of_none_escaped returned
    simpa using ⟨endures.run_output, endures.run_returned⟩
  cut before feedback after error split earlier escaped := by
    have cut := CutShort.of_escaped split earlier escaped
    simpa using ⟨cut.run_output, cut.run_escaped⟩

theorem writes_askLines (session : Session) (lines : List Text) :
    ((askLines session lines).after banner []).Writes banner prompt
      (closing (session.feedbacks lines)) (session.feedbacks lines) where
  returned returned := by
    have endures := Endures.of_none_escaped returned
    refine ⟨?_, endures.asked_returned⟩
    simp only [Transcript.after, endures.asked_output, List.append_assoc]
  cut before feedback after error split earlier escaped := by
    have cut := CutShort.of_escaped split earlier escaped
    refine ⟨?_, cut.asked_escaped⟩
    simp only [Transcript.after, cut.asked_output, List.append_assoc]

/-- What the program writes and how it concludes hang on the settings that its arguments come to. -/
theorem run_of_read {arguments : List Text} {settings : Settings}
    (reads : read arguments = .ok settings) (input : Text) :
    (run arguments input).output = (runWith settings input).output ∧
      (run arguments input).conclusion = (runWith settings input).conclusion := by
  simp only [run, reads]
  split <;> exact ⟨rfl, rfl⟩

section Sources

variable {arguments lines : List Text} {quiet verbose : Bool}

theorem writes_of_read_given (reads : read arguments = .ok ⟨lines, quiet, verbose⟩)
    (some_line : lines ≠ []) (input : Text) :
    (run arguments input).Writes [] [] [] ((Session.start quiet).feedbacks lines) := by
  obtain ⟨output, conclusion⟩ := run_of_read reads input
  have given : runWith ⟨lines, quiet, verbose⟩ input = runLines (Session.start quiet) lines :=
    if_neg some_line
  rw [given] at output conclusion
  exact (writes_runLines _ _).congr output conclusion

theorem writes_of_read_asked (reads : read arguments = .ok ⟨[], quiet, verbose⟩)
    (unbroken : ∀ line ∈ lines, '\n' ∉ line) :
    (run arguments (Text.lines lines)).Writes banner prompt
      (closing ((Session.start quiet).feedbacks lines))
      ((Session.start quiet).feedbacks lines) := by
  obtain ⟨output, conclusion⟩ := run_of_read reads (Text.lines lines)
  have asked : runWith ⟨[], quiet, verbose⟩ (Text.lines lines) =
      (askLines (Session.start quiet) lines).after banner [] := by
    have cut : inputLines (Text.lines lines) = lines := inputLines_lines unbroken
    simp only [runWith, if_true, cut]
  rw [asked] at output conclusion
  exact (writes_askLines _ _).congr output conclusion

/-- Lines without their dashes make the session of the lines themselves just if none of these that
    is fed is two dashes: otherwise less is written. -/
theorem writes_map_lineOf_iff (session : Session) (lines : List Text) :
    (runLines session (lines.map lineOf)).Writes [] [] [] (session.feedbacks lines) ↔
      ∀ feeding ∈ session.feedings lines, feeding.line ≠ "--".toList := by
  constructor
  · intro writes feeding member dashes
    have same := congrArg List.length (writes.output_eq (writes_runLines session lines))
    have less := length_output_map_lineOf (.refl session) lines
    simp only [runLines_eq] at same
    have nothing : unsaid (session.feedings lines) = [] :=
      List.eq_nil_of_length_eq_zero (by omega)
    have said := List.flatMap_eq_nil_iff.mp nothing feeding member
    rw [if_pos dashes] at said
    revert said
    decide
  · intro noDashes
    have same := (feedings_map_lineOf_iff session lines).mpr noDashes
    have runs : runLines session (lines.map lineOf) = runLines session lines := by
      rw [runLines_eq, runLines_eq, same]
    rw [runs]
    exact writes_runLines session lines

end Sources

/-- Lines given with the options and the same lines asked for make the same session, unless two
    dashes are given.

    As long as no line escapes, what comes back for the lines up to the first one that exits is
    written, after a prompt for each line if it was asked for; then asking closes unless a line
    exited, and the program returns.  If a line escapes, the program does not return either way,
    and what came back for the lines before it has been written, and the prompt for it.  For lines
    that are attached to their options this is so just if none that is fed is two dashes.  However
    else the arguments come to the lines, or to none, it is always so. -/
theorem run_given_or_asked {lines : List Text} (some_line : lines ≠ [])
    (unbroken : ∀ line ∈ lines, '\n' ∉ line) (quiet : Bool) (input : Text) :
    let session := Session.start quiet
    let fed := session.feedbacks lines
    (run (evalArguments quiet []) (Text.lines lines)).Writes banner prompt (closing fed) fed ∧
      ((run (evalArguments quiet lines) input).Writes [] [] [] fed ↔
        ∀ feeding ∈ session.feedings lines, feeding.line ≠ "--".toList) ∧
      ∀ arguments verbose,
        (read arguments = .ok ⟨[], quiet, verbose⟩ →
          (run arguments (Text.lines lines)).Writes banner prompt (closing fed) fed) ∧
        (read arguments = .ok ⟨lines, quiet, verbose⟩ →
          (run arguments input).Writes [] [] [] fed) := by
  intro session fed
  refine ⟨?_, ?_, fun arguments verbose => ⟨fun reads => ?_, fun reads => ?_⟩⟩
  · exact writes_of_read_asked (read_evalArguments_lineOf quiet []) unbroken
  · obtain ⟨output, conclusion⟩ := run_of_read (read_evalArguments_lineOf quiet lines) input
    have given : runWith ⟨lines.map lineOf, quiet, false⟩ input =
        runLines session (lines.map lineOf) :=
      if_neg (List.map_eq_nil_iff.not.mpr some_line)
    rw [given] at output conclusion
    rw [← writes_map_lineOf_iff]
    exact ⟨fun writes => writes.congr output.symm conclusion.symm,
      fun writes => writes.congr output conclusion⟩
  · exact writes_of_read_asked reads unbroken
  · exact writes_of_read_given reads some_line input

/-- A session with an empty line, a line that fails and one that exits, and a session that a number
    word with a dotless `i` cuts short at its second line. -/
theorem run_given_or_asked_dotless :
    let exiting := ["5 x".toList, [], "= x print @".toList, "exit 1".toList, "--".toList]
    let cut := ["2 dup * print".toList, "\u0131nf".toList, "--".toList]
    (run (evalArguments true exiting) []).output = "x\n? unrecognised token: @\n".toList ∧
      (run (evalArguments true []) (Text.lines exiting)).output =
        banner ++ "> > > x\n? unrecognised token: @\n> ".toList ∧
      (run (evalArguments true cut) []).output = "4.0\n".toList ∧
      (run (evalArguments true []) (Text.lines cut)).output = banner ++ "> 4.0\n> ".toList := by
  intro exiting cut
  have some_exiting : exiting ≠ [] := by decide
  have unbroken_exiting : ∀ line ∈ exiting, '\n' ∉ line := by decide
  have some_cut : cut ≠ [] := by decide
  have unbroken_cut : ∀ line ∈ cut, '\n' ∉ line := by decide
  let first := (Session.start true).feed "2 dup * print".toList
  let second := first.session.feed "\u0131nf".toList
  have split : (Session.start true).feedbacks cut =
      [first] ++ second :: second.session.feedbacks ["--".toList] := by
    rw [Session.feedbacks_cons_of_not_exited (by decide +kernel),
      Session.feedbacks_cons_of_not_exited (by decide +kernel), List.singleton_append]
  have escaped : second.run.ending = .escaped (.notNumeral "\u0131nf".toList) := by decide +kernel
  obtain ⟨askedExiting, givenExiting, -⟩ :=
    run_given_or_asked some_exiting unbroken_exiting true []
  obtain ⟨askedCut, givenCut, -⟩ := run_given_or_asked some_cut unbroken_cut true []
  have returned : ∀ feedback ∈ (Session.start true).feedbacks exiting,
      ¬ feedback.run.Escaped := by
    decide +kernel
  have earlier : ∀ feedback ∈ [first], ¬ feedback.run.Escaped := by decide +kernel
  refine ⟨?_, ?_, ?_, ?_⟩
  · rw [((givenExiting.mpr (by decide +kernel)).returned returned).1]
    decide +kernel
  · rw [(askedExiting.returned returned).1]
    decide +kernel
  · rw [((givenCut.mpr (by decide +kernel)).cut _ _ _ _ split earlier escaped).1]
    decide +kernel
  · rw [(askedCut.cut _ _ _ _ split earlier escaped).1]
    decide +kernel

/-- Two dashes are complained about when they are asked for, and nothing at all is written when they
    are given to a quiet session. -/
theorem run_given_dashes :
    let dashes := "--".toList
    let fed := (Session.start true).feedbacks [dashes]
    (∀ feedback ∈ fed, ¬ feedback.run.Escaped) ∧
      fed.flatMap Feedback.output = "? unrecognised token: --\n".toList ∧
      (run (evalArguments true [dashes]) []).output = [] ∧
      ¬ (run (evalArguments true [dashes]) []).Writes [] [] [] fed := by
  intro dashes fed
  have returned : ∀ feedback ∈ fed, ¬ feedback.run.Escaped := by decide +kernel
  have told : fed.flatMap Feedback.output = "? unrecognised token: --\n".toList := by
    decide +kernel
  have silent : (run (evalArguments true [dashes]) []).output = [] := by decide +kernel
  refine ⟨returned, told, silent, fun writes => ?_⟩
  have written := (writes.returned returned).1
  rw [silent] at written
  revert written
  decide +kernel

end ReversePolish.CommandLine
