import Mathlib.Data.List.Forall2
import ReversePolish.Proofs.Arguments
import ReversePolish.Proofs.Feedings

/-! # Lines that are given

The lines that the options give are fed to one session, whatever the arguments look like that give
them.  A line that is attached to its option is fed as it is, unless it is two dashes, which are
taken away (`run_evalArguments`).  The options that make the session quiet or log it only observe
it: wherever they stand among the others, the same lines are fed in the same states
(`flags_onlyObserve`).
-/

namespace ReversePolish.CommandLine

open OptionGroup

namespace OptionGroup

/-- The lines that the groups give, as they are fed. -/
def feedingsOf (groups : List OptionGroup) : List Feeding :=
  (Session.start (settingsOf groups).quiet).feedings (settingsOf groups).lines

/-- What the program does with options that give lines is told by the lines that are fed. -/
theorem run_argumentsOf {groups : List OptionGroup} (some_line : (settingsOf groups).lines ≠ [])
    (input : Text) :
    run (argumentsOf groups) input =
      ⟨(feedingsOf groups).flatMap (·.feedback.output),
        if (settingsOf groups).verbose then (feedingsOf groups).flatMap Feeding.entries else [],
        concluded (feedingsOf groups)⟩ := by
  have given : runWith (settingsOf groups) input =
      runLines (Session.start (settingsOf groups).quiet) (settingsOf groups).lines :=
    if_neg some_line
  simp only [run, read_argumentsOf, given, runLines_eq]
  cases (settingsOf groups).verbose <;> rfl

end OptionGroup

/-- Lines without their dashes are fed as they are just if no line that is fed is two dashes. -/
theorem feedings_map_lineOf_iff (session : Session) (lines : List Text) :
    session.feedings (lines.map lineOf) = session.feedings lines ↔
      ∀ feeding ∈ session.feedings lines, feeding.line ≠ "--".toList := by
  induction lines generalizing session with
  | nil => exact iff_of_true rfl (List.forall_mem_nil _)
  | cons line later ih =>
      by_cases kept : lineOf line = line
      · have noDashes := lineOf_eq_self_iff.mp kept
        rw [List.map_cons, kept]
        cases ending : (session.feed line).run.ending with
        | completed | abandoned failure =>
            simp only [Session.feedings, ending, List.cons.injEq, true_and, ih,
              List.forall_mem_cons]
            exact (and_iff_right noDashes).symm
        | exited | escaped error =>
            simp only [Session.feedings, ending, List.forall_mem_cons]
            exact iff_of_true trivial ⟨noDashes, List.forall_mem_nil _⟩
      · constructor
        · intro same
          have firsts : some (⟨session, lineOf line⟩ : Feeding) = some ⟨session, line⟩ :=
            congrArg List.head? same
          exact absurd (congrArg Feeding.line (Option.some.inj firsts)) kept
        · intro noDashes
          have first := noDashes ⟨session, line⟩ (List.mem_cons_self ..)
          exact absurd (lineOf_eq_self_iff.mpr first) kept

/-- Sessions that go on alike: they differ at most in what their machines have told last. -/
structure GoOnAlike (first second : Session) : Prop where
  vocabulary : first.machine.vocabulary = second.machine.vocabulary
  state : first.state = second.state
  quiet : first.quiet = second.quiet

theorem GoOnAlike.refl (session : Session) : GoOnAlike session session :=
  ⟨rfl, rfl, rfl⟩

theorem GoOnAlike.feed_eq {first second : Session} (alike : GoOnAlike first second)
    (line : Text) : first.feed line = second.feed line := by
  obtain ⟨⟨_, _, _⟩, _, _⟩ := first
  obtain ⟨⟨_, _, _⟩, _, _⟩ := second
  obtain ⟨rfl, rfl, rfl⟩ := alike
  rfl

/-- What a session says to two dashes. -/
def complaint : Text := Text.lines [Run.report (.unrecognised "--".toList)]

section Dashes

variable (vocabulary : Vocabulary) (state : State) (session : Session)

theorem ofLine_nil : Run.ofLine vocabulary [] state = ⟨state, [], [], .completed⟩ := by
  rw [Run.ofLine_eq]
  rfl

theorem ofLine_dashes : Run.ofLine vocabulary "--".toList state =
    ⟨state, [], [⟨.invalid, "--".toList⟩], .abandoned (.unrecognised "--".toList)⟩ := by
  have words : Token.ofWords (Words.split "--".toList) = [⟨.invalid, "--".toList⟩] := by
    decide +kernel
  rw [Run.ofLine_eq, words]
  rfl

theorem output_feed_dashes :
    (session.feed "--".toList).output = complaint ++ (session.feed []).output := by
  simp only [Session.feed, Machine.processLine, ofLine_dashes, ofLine_nil]
  rfl

theorem goOnAlike_feed_dashes :
    GoOnAlike (session.feed []).session (session.feed "--".toList).session := by
  simp only [Session.feed, Machine.processLine, ofLine_dashes, ofLine_nil]
  exact ⟨rfl, rfl, rfl⟩

end Dashes

/-- What is not written if lines are fed without their dashes. -/
def unsaid (fed : List Feeding) : Text :=
  fed.flatMap fun feeding => if feeding.line = "--".toList then complaint else []

/-- Without their dashes, lines are fed just as they are but for what is left unsaid. -/
theorem length_output_map_lineOf {first second : Session} (alike : GoOnAlike first second)
    (lines : List Text) :
    ((first.feedings (lines.map lineOf)).flatMap (·.feedback.output)).length +
        (unsaid (second.feedings lines)).length =
      ((second.feedings lines).flatMap (·.feedback.output)).length := by
  induction lines generalizing first second with
  | nil => rfl
  | cons line later ih =>
      by_cases dashes : line = "--".toList
      · subst dashes
        have ending : (second.feed []).run.ending = .completed := by
          simp only [Session.feed, Machine.processLine, ofLine_nil]
        have abandoned : (second.feed "--".toList).run.ending =
            .abandoned (.unrecognised "--".toList) := by
          simp only [Session.feed, Machine.processLine, ofLine_dashes]
        have rest := ih (alike.feed_eq [] ▸ goOnAlike_feed_dashes second)
        have said := congrArg List.length (output_feed_dashes second)
        simp only [lineOf, List.map_cons, if_true, Session.feedings, ending, abandoned, unsaid,
          List.flatMap_cons, List.length_append, Feeding.feedback, alike.feed_eq []] at rest said ⊢
        omega
      · rw [List.map_cons, lineOf_eq_self_iff.mpr dashes]
        cases ending : (second.feed line).run.ending with
        | completed | abandoned failure =>
            have rest := ih (.refl (second.feed line).session)
            simp only [Session.feedings, alike.feed_eq, ending, unsaid, List.flatMap_cons,
              List.length_append, Feeding.feedback, dashes, if_false, List.length_nil] at rest ⊢
            omega
        | exited | escaped error =>
            simp only [Session.feedings, alike.feed_eq, ending, unsaid, List.flatMap_cons,
              List.flatMap_nil, Feeding.feedback, dashes, if_false, List.append_nil,
              List.length_nil, Nat.add_zero]

/-- Lines that are attached to their options are all accepted, and fed to one session up to the
    first that exits or escapes.  They are fed as they are just if none of those that are fed is
    two dashes, in whose place a line without words is fed. -/
theorem run_evalArguments (first : Text) (later : List Text) (input : Text) :
    let lines := first :: later
    let session := Session.start false
    let fed := session.feedings (lines.map lineOf)
    read (lines.map evalArgument) = .ok ⟨lines.map lineOf, false, false⟩ ∧
      run (lines.map evalArgument) input =
        ⟨fed.flatMap (·.feedback.output), [], concluded fed⟩ ∧
      (fed = session.feedings lines ↔
        ∀ feeding ∈ session.feedings lines, feeding.line ≠ "--".toList) := by
  intro lines session fed
  have some_line : (settingsOf (lines.map eval)).lines ≠ [] := by
    rw [settingsOf_eval]
    exact List.cons_ne_nil _ _
  have runs := run_argumentsOf some_line input
  simp only [argumentsOf_eval, settingsOf_eval, feedingsOf] at runs
  exact ⟨read_map_evalArgument lines, runs, feedings_map_lineOf_iff session lines⟩

/-- Two dashes are an invalid word, and a session that is fed them says so; given as a line, they
    are never fed, and only the empty state is shown. -/
theorem run_eval_dashes :
    let dashes := "--".toList
    let shown := Display.render State.initial Display.standardWidth
    read [evalArgument dashes] = .ok ⟨[[]], false, false⟩ ∧
      (run [evalArgument dashes] []).output = Text.lines [shown] ∧
      ((Session.start false).feed dashes).output =
        Text.lines ["? unrecognised token: --".toList, shown] := by
  decide +kernel

namespace OptionGroup

variable {plain flagged : List OptionGroup}

theorem feedingsOf_eq_map (sameLines : (settingsOf flagged).lines = (settingsOf plain).lines) :
    feedingsOf flagged = (feedingsOf plain).map (Feeding.withQuiet (settingsOf flagged).quiet) := by
  rw [feedingsOf, sameLines, feedingsOf, ← Session.feedings_withQuiet]
  rfl

/-- Of the flags, what is written depends on one and what is logged on the other. -/
theorem run_eq_of_lines (sameLines : (settingsOf flagged).lines = (settingsOf plain).lines)
    (some_line : (settingsOf plain).lines ≠ []) (input : Text) :
    run (argumentsOf flagged) input =
      ⟨(feedingsOf plain).flatMap fun feeding =>
          feeding.told ++ if (settingsOf flagged).quiet then [] else feeding.displayed,
        if (settingsOf flagged).verbose then (feedingsOf plain).flatMap Feeding.entries else [],
        concluded (feedingsOf plain)⟩ := by
  rw [run_argumentsOf (sameLines ▸ some_line), feedingsOf_eq_map sameLines,
    Feeding.flatMap_output_withQuiet, Feeding.flatMap_entries_withQuiet, concluded_withQuiet]

end OptionGroup

/-- Groups of options give the same lines, perhaps with flags at different places among them, and
    the flags only observe what is done with the lines. -/
structure OnlyObserve (plain flagged : List OptionGroup) (input : Text) : Prop where
  /-- The same lines are fed in the same states and with the same running flags. -/
  fed : List.Forall₂ Feeding.Alike (feedingsOf plain) (feedingsOf flagged)
  plain_concluded : (run (argumentsOf plain) input).conclusion = concluded (feedingsOf plain)
  flagged_concluded : (run (argumentsOf flagged) input).conclusion = concluded (feedingsOf plain)
  /-- Nothing that is written tells whether there is a log. -/
  unheard : (settingsOf flagged).quiet = (settingsOf plain).quiet →
    (run (argumentsOf flagged) input).output = (run (argumentsOf plain) input).output
  logged : (run (argumentsOf flagged) input).log =
    if (settingsOf flagged).verbose then (feedingsOf plain).flatMap Feeding.entries else []
  traced : ∀ feeding ∈ feedingsOf plain, feeding.Traced
  displayed : (settingsOf plain).quiet = false → (run (argumentsOf plain) input).output =
    (feedingsOf plain).flatMap fun feeding => feeding.told ++ feeding.displayed
  quieted : (settingsOf flagged).quiet = true → (run (argumentsOf flagged) input).output =
    (feedingsOf plain).flatMap Feeding.told

/-- Options that give the same lines make the same session of them, wherever flags stand among
    them.  A session that is logged writes the same as one that is not, and its log is the trace of
    the words that were tried, line by line.  A quiet session leaves out one display behind the
    messages of each line that neither exits nor escapes, and nothing else. -/
theorem flags_onlyObserve {plain flagged : List OptionGroup}
    (sameLines : (settingsOf flagged).lines = (settingsOf plain).lines)
    (some_line : (settingsOf plain).lines ≠ []) (input : Text) :
    OnlyObserve plain flagged input := by
  have runsPlain := run_eq_of_lines (Eq.refl (settingsOf plain).lines) some_line input
  have runsFlagged := run_eq_of_lines sameLines some_line input
  constructor
  case fed =>
    rw [feedingsOf_eq_map sameLines, List.forall₂_map_right_iff, List.forall₂_same]
    exact fun feeding _ => feeding.alike_withQuiet _
  case plain_concluded => rw [runsPlain]
  case flagged_concluded => rw [runsFlagged]
  case unheard =>
    intro sameQuiet
    rw [runsPlain, runsFlagged, sameQuiet]
  case logged => rw [runsFlagged]
  case traced => exact fun feeding _ => feeding.traced
  case displayed =>
    intro shows
    simp only [runsPlain, shows, Bool.false_eq_true, if_false]
  case quieted =>
    intro quiets
    simp only [runsFlagged, quiets, if_true, List.append_nil]

/-- Two flags between a line that is abandoned and one that escapes. -/
theorem flags_onlyObserve_escaping :
    let abandoned := eval "1 print @ 2".toList
    let escaping := eval "3 print -\u0131nf".toList
    let flagged := run (argumentsOf [verbose, abandoned, quiet, escaping]) []
    (settingsOf [verbose, abandoned, quiet, escaping]).lines =
        (settingsOf [abandoned, escaping]).lines ∧
      (settingsOf [abandoned, escaping]).lines ≠ [] ∧
      (run (argumentsOf [abandoned, escaping]) []).output =
        Text.lines ["1.0".toList, "? unrecognised token: @".toList,
          Display.render ⟨[], NameTable.empty⟩ Display.standardWidth] ∧
      flagged.output = Text.lines ["1.0".toList, "? unrecognised token: @".toList] ∧
      flagged.log.map Entry.message =
        ["NUMBER '1'", "KEYWORD 'print'", "INVALID '@'",
          "abandoning line '1 print @ 2': unrecognised token: @",
          "NUMBER '3'", "KEYWORD 'print'", "NUMBER '-\u0131nf'"].map String.toList ∧
      flagged.conclusion = .escaped (.notNumeral "-\u0131nf".toList) := by
  intro abandoned escaping flagged
  have sameLines : (settingsOf [verbose, abandoned, quiet, escaping]).lines =
      (settingsOf [abandoned, escaping]).lines := lines_eq_of_givers rfl
  have some_line : (settingsOf [abandoned, escaping]).lines ≠ [] := List.cons_ne_nil _ _
  have observe := flags_onlyObserve sameLines some_line []
  refine ⟨sameLines, some_line, ?_, ?_, ?_, ?_⟩
  · rw [observe.displayed rfl]
    decide +kernel
  · rw [observe.quieted rfl]
    decide +kernel
  · rw [observe.logged]
    decide +kernel
  · rw [observe.flagged_concluded]
    decide +kernel

end ReversePolish.CommandLine
