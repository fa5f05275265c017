import ReversePolish.CommandLine.Program
import ReversePolish.Proofs.OptionGroups

/-! # Arguments that give lines

Each line that the options give can be attached to a long option, whatever is in it, with one
exception: two dashes alone say that there is no value.  Each of these arguments is a group of
options of its own, so any number of them is read one by one (`read_map_evalArgument`), and the
lines that the program can be given are all those without that one (`exists_read_iff`).
-/

namespace ReversePolish.CommandLine

/-- The argument that gives a line to run. -/
def evalArgument (line : Text) : Text := "--eval=".toList ++ line

/-- The arguments that give lines to a session that is quiet or not. -/
def evalArguments (quiet : Bool) (lines : List Text) : List Text :=
  (if quiet then ["-q".toList] else []) ++ lines.map evalArgument

theorem read_evalArgument (line : Text) :
    read [evalArgument line] = .ok ⟨[lineOf line], false, false⟩ := by
  have value : cluster .eval false (some line) = .ok ⟨[], .eval, some line⟩ := by
    cases line <;> rfl
  exact read_eq_ok_iff.mpr
    ⟨[(evalArgument line, .option .eval false (some line))], rfl, .attached value rfl .done⟩

namespace OptionGroup

/-- One line, attached to the long option. -/
def eval (line : Text) : OptionGroup :=
  ⟨[evalArgument line], ⟨[lineOf line], false, false⟩, read_evalArgument line⟩

theorem argumentsOf_eval (lines : List Text) :
    argumentsOf (lines.map eval) = lines.map evalArgument := by
  induction lines with
  | nil => rfl
  | cons line later ih => exact congrArg (evalArgument line :: ·) ih

theorem settingsOf_eval (lines : List Text) :
    settingsOf (lines.map eval) = ⟨lines.map lineOf, false, false⟩ := by
  induction lines with
  | nil => rfl
  | cons line later ih => exact congrArg (Settings.join ⟨[lineOf line], false, false⟩) ih

end OptionGroup

theorem read_map_evalArgument (lines : List Text) :
    read (lines.map evalArgument) = .ok ⟨lines.map lineOf, false, false⟩ := by
  have reads := OptionGroup.read_argumentsOf (lines.map OptionGroup.eval)
  rwa [OptionGroup.argumentsOf_eval, OptionGroup.settingsOf_eval] at reads

theorem lineOf_ne_dashes (value : Text) : lineOf value ≠ "--".toList := by
  unfold lineOf
  split
  · decide
  · assumption

theorem lineOf_eq_self_iff {line : Text} : lineOf line = line ↔ line ≠ "--".toList := by
  constructor
  · intro kept
    rw [← kept]
    exact lineOf_ne_dashes line
  · intro different
    exact if_neg different

theorem read_evalArguments_lineOf (quiet : Bool) (lines : List Text) :
    read (evalArguments quiet lines) = .ok ⟨lines.map lineOf, quiet, false⟩ := by
  have reads := read_map_evalArgument lines
  cases quiet with
  | false => exact reads
  | true => exact read_append OptionGroup.quiet.reads reads

/-- All lines but two dashes can be given. -/
theorem read_evalArguments {lines : List Text} (noDashes : "--".toList ∉ lines) (quiet : Bool) :
    read (evalArguments quiet lines) = .ok ⟨lines, quiet, false⟩ := by
  have kept : lines.map lineOf = lines :=
    calc lines.map lineOf
      _ = lines.map id := by
        apply List.map_congr_left
        intro line member
        exact lineOf_eq_self_iff.mpr fun dashes => noDashes (dashes ▸ member)
      _ = lines := List.map_id lines
  rw [read_evalArguments_lineOf, kept]

namespace Settings

theorem lines_switchAll {settings switched : Settings} {flags : List Flag}
    (carriedOut : settings.switchAll flags = .ok switched) : switched.lines = settings.lines := by
  induction flags generalizing settings with
  | nil =>
      cases carriedOut
      rfl
  | cons flag later ih =>
      cases flag with
      | help | eval => cases carriedOut
      | quiet =>
          have after : switchAll { settings with quiet := true } later = .ok switched := carriedOut
          exact (ih after :)
      | verbose =>
          have after : switchAll { settings with verbose := true } later = .ok switched :=
            carriedOut
          exact (ih after :)

theorem noDashes_addLine {settings added : Settings} {before : List Flag} {value : Text}
    (noDashes : "--".toList ∉ settings.lines)
    (carriedOut : settings.addLine before value = .ok added) : "--".toList ∉ added.lines := by
  unfold addLine at carriedOut
  cases switched : settings.switchAll before with
  | error stop =>
      rw [switched] at carriedOut
      cases carriedOut
  | ok after =>
      rw [switched] at carriedOut
      cases carriedOut
      rw [List.mem_append, List.mem_singleton, not_or, lines_switchAll switched]
      exact ⟨noDashes, (lineOf_ne_dashes value).symm⟩

end Settings

theorem Settles.noDashes {shaped : List (Text × Shape)} {settings settled : Settings}
    {extras left : List Text} (settles : Settles shaped settings extras settled left)
    (noDashes : "--".toList ∉ settings.lines) : "--".toList ∉ settled.lines := by
  induction settles with
  | done => exact noDashes
  | attached _ added _ ih | apart _ added _ ih =>
      exact ih (Settings.noDashes_addLine noDashes added)
  | switched _ _ switched _ ih =>
      apply ih
      rw [Settings.lines_switchAll switched]
      exact noDashes
  | leftOver _ _ ih => exact ih noDashes

theorem noDashes_of_read {arguments : List Text} {settings : Settings}
    (reads : read arguments = .ok settings) : "--".toList ∉ settings.lines := by
  obtain ⟨shaped, -, settles⟩ := read_eq_ok_iff.mp reads
  exact settles.noDashes List.not_mem_nil

/-- The lines that can be given are all those but two dashes. -/
theorem exists_read_iff {lines : List Text} {quiet : Bool} :
    (∃ arguments verbose, read arguments = .ok ⟨lines, quiet, verbose⟩) ↔ "--".toList ∉ lines := by
  constructor
  · rintro ⟨arguments, verbose, settled⟩
    exact noDashes_of_read settled
  · intro noDashes
    exact ⟨evalArguments quiet lines, false, read_evalArguments noDashes quiet⟩

end ReversePolish.CommandLine
