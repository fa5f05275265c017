import ReversePolish.Proofs.Actions
import ReversePolish.Proofs.Dump
import ReversePolish.Proofs.SharedMachines
import ReversePolish.Proofs.Steps

/-! # Shuffles that cancel

Some words undo each other: a cell that is put on the stack and dropped, a copy that is dropped, two
cells that are exchanged twice.  Others come to the same with and without a further word: to
exchange a cell and its copy is to do nothing.  This is so in the middle of any line.  Words that
lead silently from a state to the same state as others can take their place there, whatever
stands in front of them and behind them (`Run.ofRun_between`).
-/

namespace ReversePolish

namespace Reply

/-- What comes back from a run. -/
def ofRun (run : Run) : Reply := ⟨run.messages, run.goesOn, run.ending, run.state⟩

/-- The same reply, with messages from before. -/
def following (reply : Reply) (earlier : List Text) : Reply :=
  { reply with messages := earlier ++ reply.messages }

theorem ofProcessed_eq (machine : Machine) (line : Text) (state : State) :
    ofProcessed (machine.processLine line state) =
      ofRun (Run.ofLine machine.vocabulary line state) :=
  rfl

theorem ofRun_andThen (first second : Run) :
    ofRun (first.andThen second) = (ofRun second).following first.printed := by
  simp only [ofRun, following, Run.messages_andThen]
  rfl

end Reply

/-- A line that has words between two parts, with single spaces. -/
def between (before : Text) (words : List Text) (after : Text) : Text :=
  Text.joinWith [' '] (before :: words ++ [after])

namespace Run

variable {vocabulary : Vocabulary} {state : State} {before : Text} {words : List Text}

theorem ofLine_between (before : Text) (words : List Text) (after : Text) :
    ofLine vocabulary (between before words after) state =
      ofTokens vocabulary
        (Token.ofWords (Words.split before) ++
          (Token.ofWords (words.flatMap Words.split) ++ Token.ofWords (Words.split after)))
        state := by
  have split : Words.split (between before words after) =
      Words.split before ++ (words.flatMap Words.split ++ Words.split after) := by
    rw [between, Words.split_joinWith_texts, List.cons_append, List.flatMap_cons,
      List.flatMap_append, List.flatMap_singleton]
  rw [ofLine_eq, split]
  simp only [Token.ofWords, List.map_append]

/-- Words that lead silently to a state leave it to what stands behind them. -/
theorem ofRun_between (areWords : ∀ word ∈ words, Words.IsWord word)
    (completed : (ofLine vocabulary before state).ending = .completed) {reached : State}
    (leads : Leads vocabulary (Token.ofWords words) (ofLine vocabulary before state).state reached)
    (after : Text) :
    Reply.ofRun (ofLine vocabulary (between before words after) state) =
      (Reply.ofRun (ofLine vocabulary after reached)).following
        (ofLine vocabulary before state).printed := by
  rw [ofLine_between, Words.flatMap_split_words areWords]
  simp only [ofLine_eq] at completed leads ⊢
  have silent : ofTokens vocabulary (Token.ofWords words ++ Token.ofWords (Words.split after))
      (ofTokens vocabulary (Token.ofWords (Words.split before)) state).state =
        andThen ⟨reached, [], Token.ofWords words, .completed⟩
          (ofTokens vocabulary (Token.ofWords (Words.split after)) reached) := by
    rw [ofTokens_append_of_completed (by rw [leads]), leads]
  rw [ofTokens_append_of_completed completed, Reply.ofRun_andThen, silent, Reply.ofRun_andThen]
  rfl

/-- A line that stops early comes neither to the words behind it nor to what follows them. -/
theorem ofLine_between_of_stopped
    (stopped : (ofLine vocabulary before state).ending ≠ .completed) (words : List Text)
    (after : Text) :
    ofLine vocabulary (between before words after) state = ofLine vocabulary before state := by
  rw [ofLine_between]
  simp only [ofLine_eq] at stopped ⊢
  exact ofTokens_append_of_stopped stopped _

end Run

theorem Keyword.areWords (keywords : List Keyword) :
    ∀ word ∈ keywords.map Keyword.word, Words.IsWord word := by
  intro word member
  obtain ⟨keyword, -, rfl⟩ := List.mem_map.mp member
  cases keyword <;> exact ⟨by decide, by decide⟩

namespace Token

/-- The word is read as a cell that it puts on the stack. -/
def Puts (word : Text) : Prop := classify word = .identifier ∨ IsNumeral word

variable {vocabulary : Vocabulary} {word : Text}

theorem Puts.isWord (puts : Puts word) : Words.IsWord word := by
  rcases puts with identifier | ⟨number, -⟩
  · exact isWord_of_identifier identifier
  · exact isWord_of_number number

theorem Puts.effect (puts : Puts word) (state : State) :
    ∃ cell, (ofWord word).effect vocabulary state = .done (state.push cell) := by
  rcases puts with identifier | ⟨number, value, reads⟩
  · exact ⟨_, effect_identifier vocabulary state identifier⟩
  · exact ⟨_, effect_number vocabulary state number reads⟩

theorem effect_keyword (keyword : Keyword) (state : State) :
    (ofWord keyword.word).effect vocabulary state = state.act keyword := by
  rw [effect_eq_action, action_eq_act_iff.mpr rfl]
  rfl

end Token

namespace Run

variable {vocabulary : Vocabulary} {state : State}

open Token

theorem leads_nil : Leads vocabulary (ofWords []) state state := rfl

theorem leads_put_drop {word : Text} (puts : Puts word) :
    Leads vocabulary (ofWords [word, Keyword.drop.word]) state state := by
  obtain ⟨cell, put⟩ := puts.effect state
  exact .cons put (.cons (effect_keyword .drop (state.push cell)) leads_nil)

/-- A stack that is deep enough has a top cell. -/
theorem leads_dup (deep : 1 ≤ state.stack.length) :
    ∃ doubled, Leads vocabulary (ofWords [Keyword.dup.word]) state doubled ∧
      Leads vocabulary (ofWords [Keyword.dup.word, Keyword.swap.word]) state doubled ∧
      Leads vocabulary (ofWords [Keyword.dup.word, Keyword.drop.word]) state state := by
  obtain ⟨stack, bindings⟩ := state
  cases stack with
  | nil => simp at deep
  | cons cell rest =>
      let doubled : State := ⟨cell :: cell :: rest, bindings⟩
      have dup : (ofWord Keyword.dup.word).effect vocabulary ⟨cell :: rest, bindings⟩ =
          .done doubled :=
        effect_keyword .dup ⟨cell :: rest, bindings⟩
      refine ⟨doubled, .cons dup leads_nil, .cons dup ?_, .cons dup ?_⟩
      · exact .cons (effect_keyword .swap doubled) leads_nil
      · exact .cons (effect_keyword .drop doubled) leads_nil

theorem leads_swap_swap (deep : 2 ≤ state.stack.length) :
    Leads vocabulary (ofWords [Keyword.swap.word, Keyword.swap.word]) state state := by
  obtain ⟨stack, bindings⟩ := state
  match stack with
  | [] | [_] => simp at deep
  | last :: previous :: rest =>
      apply Leads.cons (effect_keyword .swap ⟨last :: previous :: rest, bindings⟩)
      exact .cons (effect_keyword .swap ⟨previous :: last :: rest, bindings⟩) leads_nil

end Run

namespace Machine

variable {machine : Machine} {state reached : State} {before : Text} {words others : List Text}

/-- Words that lead silently to the same state are as good as each other between two lines. -/
theorem ofProcessed_between_eq
    (completed : (machine.processLine before state).2.ending = .completed)
    (areWords : ∀ word ∈ words, Words.IsWord word) (othersAre : ∀ word ∈ others, Words.IsWord word)
    (leads : Run.Leads machine.vocabulary (Token.ofWords words)
      (machine.processLine before state).2.state reached)
    (othersLead : Run.Leads machine.vocabulary (Token.ofWords others)
      (machine.processLine before state).2.state reached) (after : Text) :
    Reply.ofProcessed (machine.processLine (between before words after) state) =
      Reply.ofProcessed (machine.processLine (between before others after) state) := by
  rw [Reply.ofProcessed_eq, Reply.ofProcessed_eq, Run.ofRun_between areWords completed leads,
    Run.ofRun_between othersAre completed othersLead]

/-- Between any two lines, if the first one comes to its end: to put a cell on the stack and to
    drop it is to do nothing, and so it is to drop a copy, to exchange a cell with its copy, and to
    exchange two cells twice, if these cells are there.  With and without these words, the same
    comes back from the machine: the messages, the running flag, the way to end and the state.  If
    the first line stops early, all is as if nothing stood behind it. -/
theorem processLine_shuffles (machine : Machine) (before after : Text) (state : State) :
    let front := (machine.processLine before state).2
    let depth := front.state.stack.length
    let reply := fun words =>
      Reply.ofProcessed (machine.processLine (between before words after) state)
    (front.ending = .completed →
      (∀ word, Token.Puts word → reply [word, Keyword.drop.word] = reply []) ∧
      (1 ≤ depth → reply [Keyword.dup.word, Keyword.drop.word] = reply []) ∧
      (1 ≤ depth → reply [Keyword.dup.word, Keyword.swap.word] = reply [Keyword.dup.word]) ∧
      (2 ≤ depth → reply [Keyword.swap.word, Keyword.swap.word] = reply [])) ∧
    (front.ending ≠ .completed → ∀ words,
      reply words = Reply.ofProcessed (machine.processLine before state)) := by
  intro front depth reply
  constructor
  · intro completed
    refine ⟨fun word puts => ?_, fun deep => ?_, fun deep => ?_, fun deep => ?_⟩
    · have areWords : ∀ other ∈ [word, Keyword.drop.word], Words.IsWord other :=
        List.forall_mem_cons.mpr ⟨puts.isWord, Keyword.areWords [.drop]⟩
      exact ofProcessed_between_eq completed areWords (List.forall_mem_nil _)
        (Run.leads_put_drop puts) Run.leads_nil after
    · obtain ⟨doubled, -, -, dropped⟩ := Run.leads_dup deep
      exact ofProcessed_between_eq completed (Keyword.areWords [.dup, .drop])
        (List.forall_mem_nil _) dropped Run.leads_nil after
    · obtain ⟨doubled, dup, exchanged, -⟩ := Run.leads_dup deep
      exact ofProcessed_between_eq completed (Keyword.areWords [.dup, .swap])
        (Keyword.areWords [.dup]) exchanged dup after
    · exact ofProcessed_between_eq completed (Keyword.areWords [.swap, .swap])
        (List.forall_mem_nil _) (Run.leads_swap_swap deep) Run.leads_nil after
  · intro stopped words
    simp only [reply, Reply.ofProcessed_eq]
    exact congrArg Reply.ofRun (Run.ofLine_between_of_stopped stopped words after)

/-- Shuffles of a number and a variable between two lines, and behind a line that fails. -/
theorem processLine_shuffles_printed :
    let reply := fun before words =>
      Reply.ofProcessed (fresh.processLine (between before words "print print".toList) .initial)
    let front := "5 x".toList
    let failing := "5 @ x".toList
    reply front ["2e1".toList, Keyword.drop.word] = reply front [] ∧
      reply front [Keyword.dup.word, Keyword.drop.word] = reply front [] ∧
      reply front [Keyword.dup.word, Keyword.swap.word] = reply front [Keyword.dup.word] ∧
      reply front [Keyword.swap.word, Keyword.swap.word] = reply front [] ∧
      (reply front []).messages = ["x".toList, "5.0".toList] ∧
      (reply failing [Keyword.dup.word, Keyword.drop.word]).messages =
        ["? unrecognised token: @".toList] := by
  intro reply front failing
  have shuffles := (processLine_shuffles fresh front "print print".toList .initial).1
    (by decide +kernel)
  have stopped : reply failing [Keyword.dup.word, Keyword.drop.word] =
      Reply.ofProcessed (fresh.processLine failing .initial) :=
    (processLine_shuffles fresh failing "print print".toList .initial).2 (by decide +kernel) _
  have puts : Token.Puts "2e1".toList :=
    .inr ⟨by decide +kernel, .finite false 0x4034000000000000, by decide +kernel⟩
  refine ⟨shuffles.1 _ puts, shuffles.2.1 (by decide +kernel), shuffles.2.2.1 (by decide +kernel),
    shuffles.2.2.2 (by decide +kernel), by decide +kernel, ?_⟩
  rw [stopped]
  decide +kernel

end Machine

end ReversePolish
