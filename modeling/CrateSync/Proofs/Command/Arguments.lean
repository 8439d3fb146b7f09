/-
# Command lines for a synchronisation

A command line that names the synchronisation asks for one, or is refused.  The value of the option for the
format has a part in the format and in nothing else: a command line in which it is replaced asks for the same
synchronisation, or is refused as the other one is.

* `NamesSync.of_parse` : what a command line asks for that names the synchronisation;
* `readOptions_append` : options are read one after the other;
* `DifferInFormat` : command lines of the synchronisation with the value of one option replaced;
* `parse_of_differInFormat` : what such command lines ask for.
-/
import CrateSync.Command.Arguments

namespace CrateSync.Command

/-! ## Single options -/

section

variable {o : OptionSet} {word v : Text}

theorem readOptions_attached (hword : word ≠ ['-', '-']) (ho : o.valued.contains (optionName word) = true)
    (hv : attached? word = some v) (rest : List Text) :
    readOptions o (word :: rest) = (readOptions o rest).map (.value (optionName word) v :: ·) := by
  rw [readOptions.eq_def]
  simp only [if_neg hword, if_pos ho, hv]

theorem readOptions_next (hword : word ≠ ['-', '-']) (ho : o.valued.contains (optionName word) = true)
    (hv : attached? word = none) (rest : List Text) :
    readOptions o (word :: v :: rest) = (readOptions o rest).map (.value word v :: ·) := by
  rw [readOptions, if_neg hword, if_pos ho, hv]

theorem readOptions_switch (hword : word ≠ ['-', '-']) (ho : ¬o.valued.contains (optionName word) = true)
    (hs : (o.hasSwitch && isSwitch word) = true) (rest : List Text) :
    readOptions o (word :: rest) = (readOptions o rest).map (.switch :: ·) := by
  rw [readOptions.eq_def]
  simp only [if_neg hword, if_neg ho, if_pos hs]

/-! ## Options one after the other -/

/-- What words give is given in front of what the words behind them give, unless there must be none. -/
def GivesInFront (o : OptionSet) (front : List Text) (given : List Given) : Prop :=
  (∀ rest, readOptions o (front ++ rest) = (readOptions o rest).map (given ++ ·))
    ∨ ∀ rest, rest ≠ [] → readOptions o (front ++ rest) = none

theorem GivesInFront.cons (words : List Text) {front : List Text} {g : Given} {given : List Given}
    (hfirst : ∀ rest, readOptions o (words ++ rest) = (readOptions o rest).map (g :: ·))
    (h : GivesInFront o front given) : GivesInFront o (words ++ front) (g :: given) := by
  rcases h with h | h
  · refine Or.inl fun rest => ?_
    rw [List.append_assoc, hfirst, h, Option.map_map]
    rfl
  · refine Or.inr fun rest hne => ?_
    rw [List.append_assoc, hfirst, h rest hne]
    rfl

/-- **Options are read one after the other**; only two dashes, which end them, can be followed by no other
word. -/
theorem readOptions_append {front : List Text} {given : List Given} (h : readOptions o front = some given) :
    GivesInFront o front given := by
  fun_induction readOptions o front generalizing given with
  | case1 =>
    obtain rfl := Option.some.inj h
    exact Or.inl fun rest => by simp
  | case2 rest hend =>
    obtain rfl : rest = [] := List.isEmpty_iff.mp hend
    refine Or.inr fun more hne => ?_
    rw [List.singleton_append, readOptions.eq_def]
    simp [hne]
  | case3 | case5 | case8 => exact absurd h (by simp)
  | case4 word rest hword ho v hv ih =>
    obtain ⟨given', hrest, rfl⟩ := Option.map_eq_some_iff.mp h
    exact .cons [word] (readOptions_attached hword ho hv) (ih hrest)
  | case6 word hword ho hv v rest ih =>
    obtain ⟨given', hrest, rfl⟩ := Option.map_eq_some_iff.mp h
    exact .cons [word, v] (readOptions_next hword ho hv) (ih hrest)
  | case7 word rest hword ho hs ih =>
    obtain ⟨given', hrest, rfl⟩ := Option.map_eq_some_iff.mp h
    exact .cons [word] (readOptions_switch hword ho hs) (ih hrest)

end

/-! ## The option for the format -/

/-- The words of an option that asks for a format: its value is the next word, or stands behind an equals
sign. -/
inductive AsksFor (format : OutputFormat) : List Text → Prop
  | next {v : Text} (h : OutputFormat.ofName? v = some format) : AsksFor format ["--format", v]
  | attached {v : Text} (h : OutputFormat.ofName? v = some format) :
      AsksFor format [("--format=" : String).toList ++ v]

/-- Command lines of the synchronisation that ask for formats in one place, and are the same in all others.
An option can begin behind words that give options. -/
inductive DifferInFormat : List Text → List Text → Prop
  | mk {start front option option' behind : List Text} {given : List Given} {format format' : OutputFormat}
      (hstart : start = [("sync" : Text)] ∨ start = [['-', '-'], ("sync" : Text)])
      (hfront : readOptions syncOptions front = some given)
      (h : AsksFor format option) (h' : AsksFor format' option') :
      DifferInFormat (start ++ (front ++ (option ++ behind))) (start ++ (front ++ (option' ++ behind)))

section

variable {format format' : OutputFormat} {option : List Text} {v : Text}

theorem AsksFor.append_ne_nil (h : AsksFor format option) (behind : List Text) : option ++ behind ≠ [] := by
  cases h <;> simp

/-- The option gives the name of the format. -/
theorem AsksFor.readOptions_eq (h : AsksFor format option) :
    ∃ v, OutputFormat.ofName? v = some format ∧ ∀ behind,
      readOptions syncOptions (option ++ behind)
        = (readOptions syncOptions behind).map (.value "--format" v :: ·) := by
  cases h with
  | @next v h =>
    exact ⟨v, h, readOptions_next (by decide : ("--format" : Text) ≠ ['-', '-']) (by decide) (by decide)⟩
  | @attached v h =>
    have hname : optionName (("--format=" : String).toList ++ v) = "--format" := by
      simp [optionName]
    have hvalue : attached? (("--format=" : String).toList ++ v) = some v := by
      simp [attached?, Text.cutAt?]
    have hread := readOptions_attached (o := syncOptions) (by simp) (hname ▸ by decide) hvalue
    exact ⟨v, h, fun behind => hname ▸ hread behind⟩

theorem lastValue?_append_cons_of_ne {name other : Text} (hne : other ≠ name) (given more : List Given) :
    lastValue? name (given ++ .value other v :: more) = lastValue? name (given ++ more) := by
  simp [lastValue?, hne]

/-- The last value counts. -/
theorem lastValue?_append_cons (name : Text) (given more : List Given) :
    lastValue? name (given ++ .value name v :: more) = some ((lastValue? name more).getD v) := by
  simp [lastValue?, List.getLast?_append, List.getLast?_cons]

/-- A format counts unless another one is asked for behind it. -/
theorem format?_append_cons (given more : List Given) :
    format? (given ++ .value "--format" v :: more)
      = OutputFormat.ofName? ((lastValue? "--format" more).getD v) := by
  rw [format?, lastValue?_append_cons]

/-- What is asked of the synchronisation does not depend on the format. -/
theorem requestOf_append_cons (given more : List Given) :
    requestOf (given ++ .value "--format" v :: more) = requestOf (given ++ more) := by
  have hswitch : (given ++ .value "--format" v :: more).contains .switch = (given ++ more).contains .switch := by
    simp
  simp only [requestOf, hswitch,
    lastValue?_append_cons_of_ne (by decide : ("--format" : Text) ≠ "--private"),
    lastValue?_append_cons_of_ne (by decide : ("--format" : Text) ≠ "--name"),
    lastValue?_append_cons_of_ne (by decide : ("--format" : Text) ≠ "--template")]

end

/-! ## Command lines -/

/-- A command line that names the command for a synchronisation. -/
def NamesSync (line : List Text) : Prop :=
  ∃ words, line = "sync".toList :: words ∨ line = ['-', '-'] :: "sync".toList :: words

theorem ofWords_sync_eq (admits : Text → Bool) (words : List Text) :
    ofWords admits "sync" words
      = (readOptions syncOptions words).bind fun given => (format? given).bind fun format =>
          if (lastValue? "--template" given).all admits then some (.sync (requestOf given) format)
          else none := by
  have hguard : ∀ (b : Bool) (command : Command),
      (guard (b = true) >>= fun _ => pure command : Option Command) = if b then some command else none := by
    intro b command
    cases b
    · rfl
    · rfl
  rw [ofWords, if_pos rfl]
  refine congrArg (Option.bind _) (funext fun given => ?_)
  refine congrArg (Option.bind _) (funext fun format => ?_)
  exact hguard _ _

theorem ofWords_sync {admits : Text → Bool} {words : List Text} {command : Command}
    (h : ofWords admits "sync" words = some command) :
    ∃ request format, command = .sync request format := by
  rw [ofWords_sync_eq] at h
  obtain ⟨given, -, h⟩ := Option.bind_eq_some_iff.mp h
  obtain ⟨format, -, h⟩ := Option.bind_eq_some_iff.mp h
  obtain ⟨-, h⟩ := Option.ite_none_right_eq_some.mp h
  exact ⟨_, format, (Option.some.inj h).symm⟩

/-- Such a command line asks for a synchronisation, if it is well formed. -/
theorem NamesSync.of_parse {line : List Text} (hline : NamesSync line) {admits : Text → Bool}
    {command : Command} (h : parse admits line = some command) :
    ∃ request format, command = .sync request format := by
  obtain ⟨words, rfl | rfl⟩ := hline
  · exact ofWords_sync h
  · exact ofWords_sync h

/-- Words that give the same options but for a format ask for the same synchronisation, or for none. -/
theorem ofWords_of_formats {admits : Text → Bool} {words words' : List Text} {given more : List Given}
    {v v' : Text} {format format' : OutputFormat}
    (h : readOptions syncOptions words = some (given ++ .value "--format" v :: more))
    (h' : readOptions syncOptions words' = some (given ++ .value "--format" v' :: more))
    (hv : OutputFormat.ofName? v = some format) (hv' : OutputFormat.ofName? v' = some format') :
    ofWords admits "sync" words = none ∧ ofWords admits "sync" words' = none
      ∨ ∃ request format format', ofWords admits "sync" words = some (.sync request format)
        ∧ ofWords admits "sync" words' = some (.sync request format') := by
  simp only [ofWords_sync_eq, h, h', Option.bind_some, format?_append_cons, requestOf_append_cons,
    lastValue?_append_cons_of_ne (by decide : ("--format" : Text) ≠ "--template")]
  by_cases hadmits : (lastValue? "--template" (given ++ more)).all admits = true
  · simp only [if_pos hadmits]
    rcases lastValue? "--format" more with _ | name
    · simp only [Option.getD_none, hv, hv', Option.bind_some]
      exact Or.inr ⟨_, _, _, rfl, rfl⟩
    · -- a format that is asked for behind both counts for both
      simp only [Option.getD_some]
      cases OutputFormat.ofName? name with
      | none => exact Or.inl ⟨rfl, rfl⟩
      | some other => exact Or.inr ⟨_, _, _, rfl, rfl⟩
  · simp only [if_neg hadmits]
    exact Or.inl ⟨Option.bind_fun_none _, Option.bind_fun_none _⟩

theorem ofWords_of_none {admits : Text → Bool} {words : List Text}
    (h : readOptions syncOptions words = none) : ofWords admits "sync" words = none := by
  rw [ofWords_sync_eq, h, Option.bind_none]

/-- **Command lines that differ only in a format ask for the same synchronisation**, or are both refused. -/
theorem parse_of_differInFormat {line line' : List Text} (h : DifferInFormat line line')
    (admits : Text → Bool) :
    parse admits line = none ∧ parse admits line' = none
      ∨ ∃ request format format', parse admits line = some (.sync request format)
        ∧ parse admits line' = some (.sync request format') := by
  cases h with
  | @mk start front option option' behind given format format' hstart hfront hasks hasks' =>
    have hparse : ∀ words, parse admits (start ++ words) = ofWords admits "sync" words := by
      rcases hstart with rfl | rfl
      · exact fun _ => rfl
      · exact fun _ => rfl
    obtain ⟨v, hv, hoption⟩ := hasks.readOptions_eq
    obtain ⟨v', hv', hoption'⟩ := hasks'.readOptions_eq
    rw [hparse, hparse]
    rcases readOptions_append hfront with hinfront | hends
    · have hread : ∀ {option : List Text} {v : Text},
          (∀ behind, readOptions syncOptions (option ++ behind)
            = (readOptions syncOptions behind).map (.value "--format" v :: ·)) →
          readOptions syncOptions (front ++ (option ++ behind))
            = (readOptions syncOptions behind).map fun more => given ++ .value "--format" v :: more := by
        intro option v hoption
        rw [hinfront, hoption, Option.map_map]
        rfl
      have h := hread hoption
      have h' := hread hoption'
      rcases hmore : readOptions syncOptions behind with _ | more
      · -- what stands behind is no option, whatever the format
        rw [hmore] at h h'
        exact Or.inl ⟨ofWords_of_none h, ofWords_of_none h'⟩
      · rw [hmore] at h h'
        exact ofWords_of_formats h h' hv hv'
    · -- two dashes end the options in front
      exact Or.inl ⟨ofWords_of_none (hends _ (hasks.append_ne_nil behind)),
        ofWords_of_none (hends _ (hasks'.append_ne_nil behind))⟩

end CrateSync.Command
