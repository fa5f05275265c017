import ReversePolish.CommandLine.Options

/-! # Groups of options

Arguments that are read by themselves, with no option among them that waits for a value, are read
in the same way among others: the lines of all groups of options are run in the order in which the
groups stand, and the session is quiet, or logged, if one of the groups says so
(`OptionGroup.read_argumentsOf`).  So an option that takes no value may stand anywhere among the
others.
-/

namespace ReversePolish.CommandLine

/-- What two groups of options come to together. -/
def Settings.join (first second : Settings) : Settings :=
  ⟨first.lines ++ second.lines, first.quiet || second.quiet, first.verbose || second.verbose⟩

namespace Settings

variable (earlier : Settings)

theorem join_initial : earlier.join .initial = earlier := by
  simp [join, initial]

theorem switch_join (settings : Settings) (flag : Flag) :
    (earlier.join settings).switch flag = (settings.switch flag).map earlier.join := by
  cases flag with
  | help | eval => rfl
  | quiet | verbose => simp [switch, join, Except.map]

theorem switchAll_join (settings : Settings) (flags : List Flag) :
    (earlier.join settings).switchAll flags = (settings.switchAll flags).map earlier.join := by
  induction flags generalizing settings with
  | nil => rfl
  | cons flag later ih =>
      rw [switchAll, switchAll, switch_join]
      cases settings.switch flag with
      | error stop => rfl
      | ok switched => exact ih switched

theorem addLine_join (settings : Settings) (before : List Flag) (value : Text) :
    (earlier.join settings).addLine before value =
      (settings.addLine before value).map earlier.join := by
  rw [addLine, addLine, switchAll_join]
  cases settings.switchAll before with
  | error stop => rfl
  | ok switched => simp [Except.map, join]

end Settings

/-- How recognised arguments are carried out if none of them stops it: settings and left-over words
    become others, a step for each option and for each word that is none. -/
inductive Settles : List (Text × Shape) → Settings → List Text → Settings → List Text → Prop where
  | done {settings : Settings} {extras : List Text} : Settles [] settings extras settings extras
  | attached {word line : Text} {flag : Flag} {short : Bool} {value : Option Text}
      {before : List Flag} {later : List (Text × Shape)} {settings next settled : Settings}
      {extras left : List Text}
      (clustered : cluster flag short value = .ok ⟨before, .eval, some line⟩)
      (added : settings.addLine before line = .ok next)
      (rest : Settles later next extras settled left) :
      Settles ((word, .option flag short value) :: later) settings extras settled left
  | apart {word line : Text} {flag : Flag} {short : Bool} {value : Option Text}
      {before : List Flag} {later : List (Text × Shape)} {settings next settled : Settings}
      {extras left : List Text}
      (clustered : cluster flag short value = .ok ⟨before, .eval, none⟩)
      (added : settings.addLine before line = .ok next)
      (rest : Settles later next extras settled left) :
      Settles ((word, .option flag short value) :: (line, .plain) :: later) settings extras settled
        left
  | switched {word : Text} {flag last : Flag} {short : Bool} {value attached : Option Text}
      {before : List Flag} {later : List (Text × Shape)} {settings next settled : Settings}
      {extras left : List Text}
      (clustered : cluster flag short value = .ok ⟨before, last, attached⟩)
      (noValue : last ≠ .eval)
      (switched : settings.switchAll (before ++ [last]) = .ok next)
      (rest : Settles later next extras settled left) :
      Settles ((word, .option flag short value) :: later) settings extras settled left
  | leftOver {word : Text} {shape : Shape} {later : List (Text × Shape)}
      {settings settled : Settings} {extras left : List Text}
      (noOption : ∀ flag short value, shape ≠ .option flag short value)
      (rest : Settles later settings (extras ++ [word]) settled left) :
      Settles ((word, shape) :: later) settings extras settled left

theorem settle_eq_ok_iff {shaped : List (Text × Shape)} {settings settled : Settings}
    {extras left : List Text} :
    settle shaped settings extras = .ok (settled, left) ↔
      Settles shaped settings extras settled left := by
  constructor
  · intro carriedOut
    fun_induction settle shaped settings extras with
    | case1 settings extras =>
        cases carriedOut
        exact .done
    | case2 | case4 | case6 | case7 | case9 => cases carriedOut
    | case3 word flag short value later settings extras before line clustered next added ih =>
        exact .attached clustered added (ih carriedOut)
    | case5 word flag short value settings extras before clustered line later next added ih =>
        exact .apart clustered added (ih carriedOut)
    | case8 word flag short value later settings extras before last attached notAttached notApart
        clustered next switched ih =>
        have noValue : last ≠ .eval := by
          intro eval
          cases attached with
          | none => exact notApart eval rfl
          | some line => exact notAttached line eval rfl
        exact .switched clustered noValue switched (ih carriedOut)
    | case10 word shape later settings extras noOption ih =>
        exact .leftOver noOption (ih carriedOut)
  · intro settles
    induction settles with
    | done => rfl
    | attached clustered added rest ih =>
        simp only [settle, clustered, added]
        exact ih
    | apart clustered added rest ih =>
        simp only [settle, clustered, added]
        exact ih
    | @switched _ _ last _ _ attached _ _ _ _ _ _ _ clustered noValue switched rest ih =>
        cases last with
        | eval => exact absurd rfl noValue
        | help | quiet | verbose =>
            simp only [settle, clustered, switched]
            exact ih
    | @leftOver _ shape _ _ _ _ _ noOption rest ih =>
        cases shape with
        | option flag short value => exact absurd rfl (noOption flag short value)
        | plain | separator | unknown => exact ih

namespace Settles

variable {shaped before after : List (Text × Shape)} {settings settled : Settings}
  {extras left : List Text}

/-- What was settled before stays settled. -/
theorem join (earlier : Settings) (settles : Settles shaped settings extras settled left) :
    Settles shaped (earlier.join settings) extras (earlier.join settled) left := by
  induction settles with
  | done => exact .done
  | attached clustered added rest ih =>
      exact .attached clustered (by rw [Settings.addLine_join, added]; rfl) ih
  | apart clustered added rest ih =>
      exact .apart clustered (by rw [Settings.addLine_join, added]; rfl) ih
  | switched clustered noValue switched rest ih =>
      exact .switched clustered noValue (by rw [Settings.switchAll_join, switched]; rfl) ih
  | leftOver noOption rest ih => exact .leftOver noOption ih

theorem append {next : Settings} {middle : List Text}
    (first : Settles before settings extras next middle)
    (second : Settles after next middle settled left) :
    Settles (before ++ after) settings extras settled left := by
  induction first with
  | done => exact second
  | attached clustered added rest ih => exact .attached clustered added (ih second)
  | apart clustered added rest ih => exact .apart clustered added (ih second)
  | switched clustered noValue switched rest ih =>
      exact .switched clustered noValue switched (ih second)
  | leftOver noOption rest ih => exact .leftOver noOption (ih second)

/-- A word that is left over is never taken away again. -/
theorem extras_prefix (settles : Settles shaped settings extras settled left) :
    extras <+: left := by
  induction settles with
  | done => exact List.prefix_refl _
  | attached _ _ _ ih | apart _ _ _ ih | switched _ _ _ _ ih => exact ih
  | leftOver _ _ ih => exact (List.prefix_append _ _).trans ih

/-- The two dashes are left over, so there are none if nothing is. -/
theorem no_separator (settles : Settles shaped settings extras settled left)
    (nothing : left = []) (word : Text) : (word, .separator) ∉ shaped := by
  induction settles with
  | done => exact List.not_mem_nil
  | attached _ _ _ ih | apart _ _ _ ih | switched _ _ _ _ ih => simpa using ih nothing
  | leftOver _ rest _ =>
      have kept := rest.extras_prefix
      simp [nothing] at kept

end Settles

theorem read_eq_ok_iff {arguments : List Text} {settings : Settings} :
    read arguments = .ok settings ↔
      ∃ shaped, shapes arguments = .ok shaped ∧ Settles shaped .initial [] settings [] := by
  simp only [← settle_eq_ok_iff, read, bind, Except.bind]
  constructor
  · intro reads
    split at reads
    · cases reads
    · next shaped shapedOk =>
        split at reads
        · cases reads
        · next result carriedOut =>
            obtain ⟨settled, left⟩ := result
            simp only at reads
            split at reads
            · next nothing =>
                subst nothing
                cases reads
                exact ⟨shaped, shapedOk, carriedOut⟩
            · cases reads
  · rintro ⟨shaped, shapedOk, carriedOut⟩
    simp only [shapedOk, carriedOut]
    rfl

/-- The shapes of arguments behind a separator are no longer their own. -/
theorem shapes_append {before after : List Text} {shapedBefore shapedAfter : List (Text × Shape)}
    (first : shapes before = .ok shapedBefore) (second : shapes after = .ok shapedAfter)
    (noSeparator : ∀ word, (word, .separator) ∉ shapedBefore) :
    shapes (before ++ after) = .ok (shapedBefore ++ shapedAfter) := by
  induction before generalizing shapedBefore with
  | nil =>
      cases first
      exact second
  | cons argument later ih =>
      rw [shapes] at first
      rw [List.cons_append, shapes]
      by_cases dashes : argument = "--".toList
      · rw [if_pos dashes] at first
        cases first
        exact absurd (List.mem_cons_self ..) (noSeparator argument)
      · rw [if_neg dashes] at first ⊢
        cases own : shape argument with
        | error stop => simp [own, bind, Except.bind] at first
        | ok shape =>
            cases others : shapes later with
            | error stop => simp [own, others, bind, Except.bind] at first
            | ok shaped =>
                simp only [own, others, bind, Except.bind, pure, Except.pure,
                  Except.ok.injEq] at first
                subst first
                have behind := ih others fun word member =>
                  noSeparator word (List.mem_cons_of_mem _ member)
                simp only [behind, bind, Except.bind]
                rfl

/-- Arguments that are read by themselves come to the same in front of others. -/
theorem read_append {before after : List Text} {first second : Settings}
    (readsFirst : read before = .ok first) (readsSecond : read after = .ok second) :
    read (before ++ after) = .ok (first.join second) := by
  obtain ⟨shapedBefore, shapedOk, settlesFirst⟩ := read_eq_ok_iff.mp readsFirst
  obtain ⟨shapedAfter, alsoOk, settlesSecond⟩ := read_eq_ok_iff.mp readsSecond
  refine read_eq_ok_iff.mpr ⟨shapedBefore ++ shapedAfter, ?_, ?_⟩
  · exact shapes_append shapedOk alsoOk (settlesFirst.no_separator rfl)
  · have behind := settlesSecond.join first
    rw [Settings.join_initial] at behind
    exact settlesFirst.append behind

/-- Arguments that are read by themselves: no option among them waits for a value. -/
structure OptionGroup where
  arguments : List Text
  settings : Settings
  reads : read arguments = .ok settings

namespace OptionGroup

def quiet : OptionGroup := ⟨["-q".toList], ⟨[], true, false⟩, rfl⟩

def verbose : OptionGroup := ⟨["-v".toList], ⟨[], false, true⟩, rfl⟩

/-- The arguments of groups that stand one behind the other. -/
def argumentsOf (groups : List OptionGroup) : List Text := groups.flatMap arguments

/-- All lines in their order; one group is enough to make the session quiet, or logged. -/
def settingsOf (groups : List OptionGroup) : Settings where
  lines := groups.flatMap (·.settings.lines)
  quiet := groups.any (·.settings.quiet)
  verbose := groups.any (·.settings.verbose)

/-- Whether a group gives lines to run, and not flags alone. -/
def givesLines (group : OptionGroup) : Bool := group.settings.lines ≠ []

/-- Groups that give no line can stand anywhere among the others and change no line. -/
theorem lines_settingsOf_filter (groups : List OptionGroup) :
    (settingsOf (groups.filter givesLines)).lines = (settingsOf groups).lines := by
  induction groups with
  | nil => rfl
  | cons group later ih =>
      change ((group :: later).filter givesLines).flatMap (·.settings.lines) =
        group.settings.lines ++ (settingsOf later).lines
      by_cases none : group.settings.lines = []
      · rw [List.filter_cons_of_neg (by simp [givesLines, none]), none]
        exact ih
      · rw [List.filter_cons_of_pos (by simp [givesLines, none])]
        exact congrArg (group.settings.lines ++ ·) ih

/-- The lines are the same if the same groups give them, in one order. -/
theorem lines_eq_of_givers {groups others : List OptionGroup}
    (same : groups.filter givesLines = others.filter givesLines) :
    (settingsOf groups).lines = (settingsOf others).lines := by
  rw [← lines_settingsOf_filter, same, lines_settingsOf_filter]

/-- Groups are read as if each of them stood alone. -/
theorem read_argumentsOf (groups : List OptionGroup) :
    read (argumentsOf groups) = .ok (settingsOf groups) := by
  induction groups with
  | nil => rfl
  | cons group later ih => exact read_append group.reads ih

end OptionGroup

end ReversePolish.CommandLine
