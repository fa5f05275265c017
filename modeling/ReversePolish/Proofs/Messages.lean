import ReversePolish.Proofs.Causes
import ReversePolish.Proofs.Dump
import ReversePolish.Proofs.LineSources
import ReversePolish.Proofs.Replay

/-! # What the user is told

The messages of a line are the texts of the cells that it printed and, if it was abandoned, a
report behind them.  None can be taken for another.  The text of a cell is one word, since states
that lines lead to hold identifiers only as names, and a report has a space after its mark.  And
no message breaks a line: it is made of words, numerals and the wording of failures, and the only
blanks in these are spaces (`Text.OnOneLine`).
-/

namespace ReversePolish

namespace Unicode

/-- The characters that end a line, whatever the convention. -/
def lineBoundaryRanges : Ranges := [
  (0x000A, 0x000D), (0x001C, 0x001E), (0x0085, 0x0085), (0x2028, 0x2029)]

def isLineBoundary (c : Char) : Bool := lineBoundaryRanges.contains c.toNat

theorem isBlank_of_isLineBoundary {c : Char} (boundary : isLineBoundary c = true) :
    isBlank c = true := by
  have all : ∀ code ∈ lineBoundaryRanges.codes, blankRanges.contains code = true := by
    decide +kernel
  exact all c.toNat (Ranges.mem_codes_of_contains boundary)

end Unicode

namespace Text

/-- The text stands on one line: it has no blanks but spaces. -/
def OnOneLine (text : Text) : Prop := ∀ c ∈ text, c = ' ' ∨ Unicode.isBlank c = false

instance (text : Text) : Decidable text.OnOneLine :=
  inferInstanceAs (Decidable (∀ c ∈ text, c = ' ' ∨ Unicode.isBlank c = false))

namespace OnOneLine

variable {text other : Text}

theorem append_iff : (text ++ other).OnOneLine ↔ text.OnOneLine ∧ other.OnOneLine :=
  List.forall_mem_append

theorem of_isWord (isWord : Words.IsWord text) : text.OnOneLine :=
  fun c member => .inr (isWord.2 c member)

theorem ofNat (n : Nat) : (Text.ofNat n).OnOneLine := fun c member =>
  .inr (Unicode.not_isBlank_of_isDigit
    (Numeral.isDigit_of_ascii (Numeral.areDigits_ofNat n c member)))

theorem no_boundary (oneLine : text.OnOneLine) :
    ∀ c ∈ text, Unicode.isLineBoundary c = false := by
  intro c member
  rcases oneLine c member with rfl | inWord
  · decide
  · by_contra boundary
    have blank := Unicode.isBlank_of_isLineBoundary (by simpa using boundary)
    rw [inWord] at blank
    cases blank

theorem no_lineFeed (oneLine : text.OnOneLine) : '\n' ∉ text := by
  intro member
  have boundary := oneLine.no_boundary '\n' member
  revert boundary
  decide

end OnOneLine

end Text

namespace State.WellNamed

variable {state : State} (wellNamed : state.WellNamed)

include wellNamed

/-- The text of a cell is read as what the cell is. -/
theorem classify_text {cell : Cell} (stacked : cell ∈ state.stack) :
    classify cell.text = .number ∨ classify cell.text = .identifier := by
  cases cell with
  | number value => exact .inl (classify_eq_number_iff.mpr value.isNumber_text)
  | named name => exact .inr (wellNamed.cells name stacked)

theorem isWord_text {cell : Cell} (stacked : cell ∈ state.stack) : Words.IsWord cell.text := by
  rcases wellNamed.classify_text stacked with number | identifier
  · exact isWord_of_number number
  · exact isWord_of_identifier identifier

end State.WellNamed

open Text.OnOneLine in
/-- The failure of a word is worded on one line. -/
theorem Token.Cause.onOneLine {token : Token} {state : State} {failure : Failure}
    (cause : token.Cause state failure) (isWord : Words.IsWord token.word)
    (wellNamed : state.WellNamed) : failure.message.OnOneLine := by
  have word : token.word.OnOneLine := .of_isWord isWord
  have cell : ∀ cell ∈ state.stack, cell.text.OnOneLine :=
    fun _ stacked => .of_isWord (wellNamed.isWord_text stacked)
  cases cause with
  | unrecognised => exact append_iff.mpr ⟨by decide, word⟩
  | lacking =>
      have purpose : token.purpose.OnOneLine := by
        unfold Token.purpose
        split
        · decide
        · exact word
      rw [Failure.message_underflow]
      simp only [append_iff]
      exact ⟨⟨⟨⟨⟨⟨by decide, purpose⟩, by decide⟩, .ofNat _⟩, by decide⟩, .ofNat _⟩, by decide⟩
  | numberTarget _ operands =>
      exact append_iff.mpr ⟨by decide, cell (.number _) (by simp [operands])⟩
  | @valuelessSource target source _ _ operands =>
      have message : (Failure.assignedUnassigned source target).message =
          "cannot assign unassigned variable ".toList ++ source ++ " to ".toList ++ target := rfl
      rw [message]
      simp only [append_iff]
      exact ⟨⟨⟨by decide, cell (.named source) (by simp [operands])⟩, by decide⟩,
        cell (.named target) (by simp [operands])⟩
  | unassigned _ stacked => exact append_iff.mpr ⟨by decide, cell _ stacked⟩

/-- Only `print` prints. -/
theorem Action.printed_effect {action : Action} (noPrint : action ≠ .act .print) (state : State) :
    (action.effect state).printed = [] := by
  have outcome := action.outcome_effect state
  generalize action.effect state = effect at outcome ⊢
  cases outcome with
  | printed => exact absurd rfl noPrint
  | restacked | failed | assigned | reset | exited | escaped => rfl

namespace Step

/-- The step is a `print` that is carried out. -/
def Prints (step : Step) : Prop :=
  step.token.word = Keyword.print.word ∧ step.effect.ending = .completed

instance (step : Step) : Decidable step.Prints := inferInstanceAs (Decidable (_ ∧ _))

/-- The text is that of the cell on top before the step. -/
def Shows (step : Step) (text : Text) : Prop :=
  ∃ cell rest, step.before.stack = cell :: rest ∧ text = cell.text

/-- A step that prints shows the cell on top, and all others print nothing. -/
theorem Taken.printed_cases {step : Step} (taken : step.Taken) :
    (step.Prints ∧ ∃ text, step.Shows text ∧ step.effect.printed = [text]) ∨
      ¬ step.Prints ∧ step.effect.printed = [] := by
  cases taken with
  | ofWord vocabulary word before =>
      by_cases printing : word = Keyword.print.word
      · subst printing
        have acts : Token.effect vocabulary (.ofWord Keyword.print.word) before =
            before.act .print := by
          rw [Token.effect_eq_action, Token.action_eq_act_iff.mpr rfl]
          rfl
        obtain ⟨stack, bindings⟩ := before
        cases stack with
        | nil =>
            refine .inr ⟨fun prints => ?_, congrArg Effect.printed acts⟩
            have completed := (congrArg Effect.ending acts).symm.trans prints.2
            cases completed
        | cons cell rest =>
            exact .inl ⟨⟨rfl, congrArg Effect.ending acts⟩, cell.text, ⟨cell, rest, rfl, rfl⟩,
              congrArg Effect.printed acts⟩
      · refine .inr ⟨fun prints => printing prints.1, ?_⟩
        rw [take, Token.effect_eq_action]
        exact Action.printed_effect (fun acts => printing (Token.action_eq_act_iff.mp acts)) before

/-- Of the steps of a run, those that print show one text each, in their order. -/
theorem forall₂_shows {steps : List Step} (taken : ∀ step ∈ steps, step.Taken) :
    List.Forall₂ Shows (steps.filter Prints) (steps.flatMap (·.effect.printed)) := by
  induction steps with
  | nil => exact .nil
  | cons step later ih =>
      obtain ⟨first, others⟩ := List.forall_mem_cons.mp taken
      rw [List.flatMap_cons]
      rcases first.printed_cases with ⟨prints, text, shows_text, printed⟩ | ⟨silent, printed⟩
      · rw [List.filter_cons_of_pos (by simpa using prints), printed]
        exact .cons shows_text (ih others)
      · rw [List.filter_cons_of_neg (by simpa using silent), printed]
        exact ih others

/-- The steps that exit are those of the word. -/
theorem Taken.exited_iff {step : Step} (taken : step.Taken) :
    step.effect.ending = .exited ↔ step.token.word = Keyword.exit.word := by
  cases taken with
  | ofWord vocabulary word before =>
      rw [take, Token.effect_eq_action]
      constructor
      · intro exited
        rcases ((Token.ofWord word).action vocabulary).ending_cases before with
          completed | ⟨failure, failed⟩ | ⟨exits, -⟩ | ⟨error, -, escaped⟩
        · rw [completed] at exited
          cases exited
        · rw [failed] at exited
          cases exited
        · exact Token.action_eq_act_iff.mp exits
        · rw [escaped] at exited
          cases exited
      · intro exit
        have acts : (Token.ofWord word).action vocabulary = .act .exit :=
          Token.action_eq_act_iff.mpr exit
        rw [acts]
        rfl

end Step

namespace Run

/-- The mark of a report holds a blank, so no word can be taken for a report. -/
theorem not_mark_prefix_of_isWord {word : Text} (isWord : Words.IsWord word) :
    ¬ "? ".toList <+: word := by
  intro marked
  have noBlank := isWord.2 ' ' (marked.subset (by decide))
  revert noBlank
  decide

end Run

namespace Machine

variable {machine : Machine} {line : Text} {state : State} {step : Step}

theorem taken_of_mem_steps (member : step ∈ machine.steps line state) : step.Taken := by
  obtain ⟨word, -, before, rfl⟩ := mem_steps member
  exact .ofWord machine.vocabulary word before

theorem isWord_of_mem_steps (member : step ∈ machine.steps line state) :
    Words.IsWord step.token.word := by
  obtain ⟨word, among, before, rfl⟩ := mem_steps member
  exact Words.isWord_of_mem_split among

theorem wellNamed_of_mem_steps (wellNamed : state.WellNamed)
    (member : step ∈ machine.steps line state) : step.before.WellNamed := by
  refine Run.before_of_mem_steps wellNamed ?_ member
  intro token among before named
  obtain ⟨word, -, rfl⟩ := List.mem_map.mp among
  exact State.wellNamed_effect named machine.vocabulary word

/-- A text that a line prints is a word that is read as a number or an identifier. -/
theorem isWord_of_mem_printed (wellNamed : state.WellNamed) {text : Text}
    (member : text ∈ (machine.processLine line state).2.printed) :
    Words.IsWord text ∧ (classify text = .number ∨ classify text = .identifier) := by
  rw [← flatMap_printed_steps] at member
  obtain ⟨step, among, printed⟩ := List.mem_flatMap.mp member
  have named := wellNamed_of_mem_steps wellNamed among
  rcases (taken_of_mem_steps among).printed_cases with
    ⟨-, shown, ⟨cell, rest, stack, rfl⟩, prints⟩ | ⟨-, silent⟩
  · rw [prints, List.mem_singleton] at printed
    have stacked : cell ∈ step.before.stack := by simp [stack]
    rw [printed]
    exact ⟨named.isWord_text stacked, named.classify_text stacked⟩
  · rw [silent] at printed
    cases printed

/-- No message breaks a line. -/
theorem onOneLine_of_mem_messages (made : machine.Made) (wellNamed : state.WellNamed)
    {message : Text} (member : message ∈ (machine.processLine line state).1.messages) :
    message.OnOneLine := by
  rw [processLine_messages] at member
  by_cases abandoned : ∃ failure, (machine.processLine line state).2.ending = .abandoned failure
  · obtain ⟨failure, ending⟩ := abandoned
    rw [Run.messages_of_abandoned ending, List.mem_append, List.mem_singleton] at member
    rcases member with printed | rfl
    · exact .of_isWord (isWord_of_mem_printed wellNamed printed).1
    · obtain ⟨step, last, -, cause⟩ := last_step_of_abandoned made ending
      have among := List.mem_of_getLast? last
      exact Text.OnOneLine.append_iff.mpr ⟨by decide,
        cause.onOneLine (isWord_of_mem_steps among) (wellNamed_of_mem_steps wellNamed among)⟩
  · rw [Run.messages_of_not_abandoned (not_exists.mp abandoned)] at member
    exact .of_isWord (isWord_of_mem_printed wellNamed member).1

/-- The session is over just if the run of the line exited. -/
theorem running_eq_false_iff_exited :
    (machine.processLine line state).1.running = false ↔
      (machine.processLine line state).2.ending = .exited := by
  have goesOn : (machine.processLine line state).1.running =
      decide ((machine.processLine line state).2.ending ≠ .exited) := rfl
  rw [goesOn, decide_eq_false_iff_not, not_not]

/-- The session is over just if an `exit` was reached. -/
theorem running_eq_false_iff :
    (machine.processLine line state).1.running = false ↔
      ∃ step ∈ machine.steps line state, step.token.word = Keyword.exit.word := by
  rw [running_eq_false_iff_exited]
  constructor
  · intro exited
    have stopped : (machine.processLine line state).2.ending ≠ .completed := by simp [exited]
    obtain ⟨step, last, ending⟩ := getLast?_steps stopped
    have among := List.mem_of_getLast? last
    exact ⟨step, among, (taken_of_mem_steps among).exited_iff.mp (ending.trans exited)⟩
  · rintro ⟨step, among, exit⟩
    have exited := (taken_of_mem_steps among).exited_iff.mpr exit
    rw [ending_of_mem_steps among (by simp [exited]), exited]

/-- What is told about the line in the state cannot be mistaken, neither the messages for one
    another nor what a quiet session writes for other messages. -/
structure Unmistakable (machine : Machine) (line : Text) (state : State) : Prop where
  /-- There is one text for each `print` that was carried out, in their order. -/
  shows : List.Forall₂ Step.Shows ((machine.steps line state).filter Step.Prints)
    (machine.processLine line state).2.printed
  /-- Each of these texts is a single word, and it is read as a number or an identifier. -/
  words : ∀ text ∈ (machine.processLine line state).2.printed,
    Words.split text = [text] ∧ (classify text = .number ∨ classify text = .identifier)
  /-- Behind them is a marked report if a failure abandoned the line, which does not end the
      session, and nothing if none did. -/
  messages :
    (∃ failure, (machine.processLine line state).2.ending = .abandoned failure ∧
        (machine.processLine line state).1.running = true ∧
        (machine.processLine line state).1.messages =
          (machine.processLine line state).2.printed ++ [Run.report failure] ∧
        "? ".toList <+: Run.report failure) ∨
      (∀ failure, (machine.processLine line state).2.ending ≠ .abandoned failure) ∧
        (machine.processLine line state).1.messages = (machine.processLine line state).2.printed
  exits : (machine.processLine line state).1.running = false ↔
    ∃ step ∈ machine.steps line state, step.token.word = Keyword.exit.word
  unbroken : ∀ message ∈ (machine.processLine line state).1.messages,
    ∀ c ∈ message, Unicode.isLineBoundary c = false
  /-- The lines that a quiet session writes are the messages. -/
  written : CommandLine.inputLines ((Session.mk machine state true).feed line).output =
    (machine.processLine line state).1.messages
  /-- It shows in the last message whether the line was abandoned. -/
  marked : (∃ failure, (machine.processLine line state).2.ending = .abandoned failure) ↔
    ∃ last, (machine.processLine line state).1.messages.getLast? = some last ∧
      "? ".toList <+: last

/-- A line prints one text for each of its steps that print. -/
theorem forall₂_shows_steps (machine : Machine) (line : Text) (state : State) :
    List.Forall₂ Step.Shows ((machine.steps line state).filter Step.Prints)
      (machine.processLine line state).2.printed := by
  rw [← flatMap_printed_steps]
  exact Step.forall₂_shows fun _ member => taken_of_mem_steps member

theorem messages_cases (machine : Machine) (line : Text) (state : State) :
    (∃ failure, (machine.processLine line state).2.ending = .abandoned failure ∧
        (machine.processLine line state).1.running = true ∧
        (machine.processLine line state).1.messages =
          (machine.processLine line state).2.printed ++ [Run.report failure] ∧
        "? ".toList <+: Run.report failure) ∨
      (∀ failure, (machine.processLine line state).2.ending ≠ .abandoned failure) ∧
        (machine.processLine line state).1.messages =
          (machine.processLine line state).2.printed := by
  rw [processLine_messages]
  by_cases abandoned : ∃ failure, (machine.processLine line state).2.ending = .abandoned failure
  · obtain ⟨failure, ending⟩ := abandoned
    have running : (machine.processLine line state).1.running = true := by
      rw [← Bool.not_eq_false, running_eq_false_iff_exited, ending]
      exact Ending.noConfusion
    exact .inl ⟨failure, ending, running, Run.messages_of_abandoned ending, List.prefix_append ..⟩
  · exact .inr ⟨not_exists.mp abandoned, Run.messages_of_not_abandoned (not_exists.mp abandoned)⟩

/-- The lines that a quiet session writes are the messages. -/
theorem inputLines_feed_output (unbroken : ∀ message ∈ (machine.processLine line state).1.messages,
      '\n' ∉ message) (returned : ¬ (machine.processLine line state).2.Escaped) :
    CommandLine.inputLines ((Session.mk machine state true).feed line).output =
      (machine.processLine line state).1.messages := by
  let session : Session := ⟨machine, state, true⟩
  have quiet : (session.feed line).session.shown = [] := by
    simp [Session.shown, Session.feed, session]
  have written : (session.feed line).output =
      Text.lines (machine.processLine line state).1.messages ++
        (session.feed line).session.shown := Session.feed_output_of_not_escaped returned
  rw [written, quiet, List.append_nil, CommandLine.inputLines_lines unbroken]

theorem abandoned_iff_marked (wellNamed : state.WellNamed) :
    (∃ failure, (machine.processLine line state).2.ending = .abandoned failure) ↔
      ∃ last, (machine.processLine line state).1.messages.getLast? = some last ∧
        "? ".toList <+: last := by
  rcases messages_cases machine line state with
    ⟨failure, ending, -, messages, marked⟩ | ⟨goesThrough, messages⟩
  · rw [messages, List.getLast?_concat]
    exact iff_of_true ⟨failure, ending⟩ ⟨_, rfl, marked⟩
  · rw [messages]
    refine iff_of_false (not_exists.mpr goesThrough) ?_
    rintro ⟨last, isLast, marked⟩
    have printed := isWord_of_mem_printed wellNamed (List.mem_of_getLast? isLast)
    exact Run.not_mark_prefix_of_isWord printed.1 marked

/-- Whatever lines led to the state, a line that does not escape tells what cannot be mistaken. -/
theorem processLine_unmistakable {machine : Machine} (made : machine.Made)
    (earlier : List (Machine × Text)) (line : Text)
    (returned : ¬ (machine.processLine line (State.initial.afterLines earlier)).2.Escaped) :
    machine.Unmistakable line (State.initial.afterLines earlier) := by
  have wellNamed := State.wellNamed_afterLines earlier State.wellNamed_initial
  have oneLine : ∀ message ∈ (machine.processLine line _).1.messages, message.OnOneLine :=
    fun _ => onOneLine_of_mem_messages made wellNamed
  exact {
    shows := forall₂_shows_steps machine line _
    words := fun text member =>
      have printed := isWord_of_mem_printed wellNamed member
      ⟨Words.split_word printed.1, printed.2⟩
    messages := messages_cases machine line _
    exits := running_eq_false_iff
    unbroken := fun message member => (oneLine message member).no_boundary
    written := inputLines_feed_output
      (fun message member => (oneLine message member).no_lineFeed) returned
    marked := abandoned_iff_marked wellNamed }

/-- A line with two texts to print and a word of no kind in front of a line separator, after a line
    that escaped. -/
theorem processLine_unmistakable_separator :
    let machine := Machine.fresh
    let earlier := [(machine, "7 x = 2".toList), (machine, "dup print -\u0131nf clear".toList)]
    let line := "x dup print + print @\u2028exit".toList
    let state := State.initial.afterLines earlier
    ¬ (machine.processLine line state).2.Escaped ∧
      CommandLine.inputLines ((Session.mk machine state true).feed line).output =
        ["x".toList, "9.0".toList, "? unrecognised token: @".toList] ∧
      machine.Unmistakable line state := by
  intro machine earlier line state
  have returned : ¬ (machine.processLine line state).2.Escaped := by decide +kernel
  have unmistakable := processLine_unmistakable .fresh earlier line returned
  refine ⟨returned, ?_, unmistakable⟩
  rw [unmistakable.written]
  decide +kernel

end Machine

end ReversePolish
