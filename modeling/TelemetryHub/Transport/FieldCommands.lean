import TelemetryHub.Core.Normal
import TelemetryHub.Server.Batches
import TelemetryHub.Server.Metadata

/-!
# Commands in a message field

Field 9 of a message carries a command: an envelope with a `command_type`, an entry with a
`Command` or `0` selector whose further keys are its arguments, or a telemetry request under
the key `1`. What such an entry tells is compared with the command that is read from it.
-/

namespace TelemetryHub

open Lib ServerM

/-! ## The forms of an entry -/

/-- The text under a key, trimmed, where it is not blank. -/
def nonblankText (entry : Value) (key : String) : Option String :=
  (((entry.get key).bind Value.asStr).map trim).filter fun value => !value.isEmpty

/-- The documented forms, with the command each names. -/
inductive CommandForm where
  | envelope (name : String)
  | selector (key name : String)
  | telemetryRequest

/-- The form of an entry. -/
def commandForm (entry : Value) : Option CommandForm :=
  match nonblankText entry "command_type" with
  | some name => some (.envelope name)
  | none =>
    match nonblankText entry "Command" with
    | some name => some (.selector "Command" name)
    | none =>
      match nonblankText entry "0" with
      | some name => some (.selector "0" name)
      | none => if entry.containsKey "1" then some .telemetryRequest else none

/-- The correlation id is the trimmed `command_id`, a text. -/
def CorrelationKept (entry : Value) (correlationId : Option String) : Prop :=
  match entry.get "command_id" with
  | none => correlationId = none
  | some value => ∃ text, value = .string text ∧ correlationId = if (trim text).isEmpty then none else some (trim text)

/-- What the explicit arguments of an entry say under a key; what is no object is the argument
`args`. -/
def explicitArg (entry : Value) (key : String) : Option Value :=
  match entry.get "args" with
  | some (.object explicit) => explicit.lookup key
  | some value => if key = "args" then some value else none
  | none => none

/-- What the arguments of a selector's entry are to say under a key: what the entry does, else
what its explicit arguments do. -/
def keptArg (entry : Value) (selector key : String) : Option Value :=
  (if [selector, "command_id", "args"].contains key then none else entry.get key).or (explicitArg entry key)

/-- The command tells what the entry does. -/
def CommandForm.Kept (entry : Value) (command : ProtocolCommand) : CommandForm → Prop
  | .envelope name => command.name = name ∧ CorrelationKept entry command.correlationId ∧
    ∀ explicit, entry.get "args" = some (.object explicit) → command.args = .object explicit
  | .selector key name => command.name = name ∧ CorrelationKept entry command.correlationId ∧
    command.args.isObject = true ∧ command.args.Distinct ∧ ∀ arg, command.args.get arg = keptArg entry key arg
  | .telemetryRequest => command.name = "TelemetryRequest" ∧ CorrelationKept entry command.correlationId

/-- An entry of a form is read as its command, any other is malformed. -/
def EntryKept (entry : Value) (result : DirectLxmfCommandResult) : Prop :=
  match commandForm entry with
  | some form => ∃ command, result = .valid command ∧ form.Kept entry command
  | none => ∃ reason, result = .malformed reason

/-- A `command_id` is a text. -/
def CommandIdIsText (entry : Value) : Prop :=
  ∀ value, entry.get "command_id" = some value → value.asStr.isSome = true

/-- The entry has no key of a selector before its own, nor one that is left out of its
arguments; and it is no telemetry request. -/
def EntryPlain (entry : Value) : Prop :=
  match commandForm entry with
  | some (.envelope _) => CommandIdIsText entry
  | some (.selector "Command" _) => entry.containsKey "command_type" = false ∧ CommandIdIsText entry ∧
    ∀ value, entry.get "0" = some value → explicitArg entry "0" = some value
  | some (.selector _ _) => entry.containsKey "command_type" = false ∧ entry.containsKey "Command" = false ∧
    CommandIdIsText entry
  | some .telemetryRequest => False
  | none => True

/-- No key of the entry, nor of its arguments, occurs twice. -/
def EntryDistinct (entry : Value) : Prop :=
  entry.Distinct ∧ ∀ args, entry.get "args" = some args → args.Distinct

/-! ## The command of an entry -/

variable {entry : Value} {selector name : String}

theorem correlationKept_iff : CorrelationKept entry (nonblankText entry "command_id") ↔ CommandIdIsText entry := by
  unfold CorrelationKept CommandIdIsText nonblankText
  cases entry.get "command_id" with
  | none => simp
  | some value =>
    cases value with
    | string text =>
      simp only [Option.bind_some, Value.asStr, Option.map_some, Option.filter_some, Value.string.injEq, exists_eq_left',
        Option.some.injEq, forall_eq', Option.isSome_some, iff_true]
      cases (trim text).isEmpty <;> rfl
    | _ => simp [Value.asStr]

theorem containsKey_of_nonblank {key : String} (named : nonblankText entry key = some name) :
    entry.containsKey key = true := by
  unfold nonblankText at named
  unfold Value.containsKey
  cases found : entry.get key with
  | none =>
    rw [found] at named
    cases named
  | some value => rfl

theorem isObject_of_containsKey {key : String} (there : entry.containsKey key = true) : entry.isObject = true := by
  cases entry with
  | object fields => rfl
  | _ => cases there

/-- The selector is the first of the three keys that is there. -/
theorem entry_selected (selected : commandSelector entry = some selector) : directLxmfCommandEntry entry =
    match nonblankText entry selector with
    | none => .malformed ("field 0x09 selector \"" ++ selector ++ "\" must be a non-empty string")
    | some name => .valid {
        name
        args := directCommandArgs selector entry
        correlationId := nonblankText entry "command_id" } := by
  have there : entry.containsKey selector = true := List.find?_some selected
  unfold directLxmfCommandEntry
  rw [isObject_of_containsKey there, selected]
  rfl

/-- Without a text under any of the three keys the entry is malformed. -/
theorem entry_unnamed (unnamed : ∀ key ∈ ["command_type", "Command", "0"], nonblankText entry key = none) :
    ∃ reason, directLxmfCommandEntry entry = .malformed reason := by
  cases selected : commandSelector entry with
  | none =>
    unfold directLxmfCommandEntry
    rw [selected]
    split
    · exact ⟨_, rfl⟩
    · exact ⟨_, rfl⟩
  | some selector =>
    rw [entry_selected selected, unnamed selector (List.mem_of_find?_eq_some selected)]
    exact ⟨_, rfl⟩

/-! ## The arguments of an entry -/

theorem distinct_filter {fields : List (String × Value)} (distinct : (Value.object fields).Distinct)
    (p : String × Value → Bool) : (Value.object (fields.filter p)).Distinct :=
  distinct.sublist (List.filter_sublist.map _)

/-- The explicit arguments of an entry as an object. -/
def explicitArgs : Option Value → Value
  | some (.object fields) => .object fields
  | some value => .object [("args", value)]
  | none => .object []

theorem explicitArgs_isObject (args : Option Value) : (explicitArgs args).isObject = true := by
  unfold explicitArgs
  split <;> rfl

theorem explicitArgs_distinct (args : Option Value) (distinct : ∀ value, args = some value → value.Distinct) :
    (explicitArgs args).Distinct := by
  unfold explicitArgs
  split
  · exact distinct _ rfl
  · exact List.nodup_singleton "args"
  · exact List.nodup_nil

theorem explicitArgs_get (entry : Value) (key : String) :
    (explicitArgs (entry.get "args")).get key = explicitArg entry key := by
  unfold explicitArg explicitArgs
  split
  · rfl
  · next value other _ =>
    rw [get_object, List.lookup_cons]
    by_cases same : key = "args"
    · simp [same]
    · simp [same, beq_eq_false_iff_ne.2 same]
  · rfl

theorem directCommandArgs_eq (other : selector ≠ "command_type") : directCommandArgs selector entry =
    mergeDeliveryMetadata (explicitArgs (entry.get "args"))
      (.object ((entry.asObject.getD []).filter fun field => !(["Command", "0", "command_id", "args"].contains field.1))) := by
  unfold directCommandArgs mergeDeliveryMetadata
  rw [if_neg other, explicitArgs_isObject]
  cases found : entry.get "args" with
  | none => rfl
  | some args => cases args <;> rfl

/-- The arguments of a selector's entry are its explicit ones under its further keys. -/
theorem directCommandArgs_selector (selector : String) (distinct : EntryDistinct entry) (other : selector ≠ "command_type")
    (isObject : entry.isObject = true) :
    (directCommandArgs selector entry).isObject = true ∧ (directCommandArgs selector entry).Distinct ∧
    ∀ key, (directCommandArgs selector entry).get key =
      (if ["Command", "0", "command_id", "args"].contains key then none else entry.get key).or (explicitArg entry key) := by
  cases entry with
  | object fields =>
    rw [directCommandArgs_eq other]
    refine ⟨isObject_merge _ _, distinct_merge (explicitArgs_distinct _ distinct.2) _, fun key => ?_⟩
    change (mergeDeliveryMetadata _ (.object (fields.filter _))).get key = _
    rw [get_merge_distinct _ (distinct_filter distinct.1 _), explicitArgs_get, get_object]
    exact congrArg (Option.or · _) (lookup_filter_keys _ fields key)
  | _ => cases isObject

/-! ## What is kept -/

/-- Only the key `0` beside `Command` is left out. -/
theorem command_args_iff (distinct : EntryDistinct entry) (isObject : entry.isObject = true) :
    (∀ key, (directCommandArgs "Command" entry).get key = keptArg entry "Command" key) ↔
      ∀ value, entry.get "0" = some value → explicitArg entry "0" = some value := by
  have told := (directCommandArgs_selector "Command" distinct (by decide) isObject).2.2
  constructor
  · intro kept value there
    have same := (told "0").symm.trans (kept "0")
    rw [keptArg, there] at same
    simpa using same
  · intro explicit key
    rw [told, keptArg]
    by_cases zero : key = "0"
    · subst zero
      cases there : entry.get "0" with
      | none => simp
      | some value => simp [explicit value there]
    · simp [zero]

theorem zero_args (distinct : EntryDistinct entry) (isObject : entry.isObject = true)
    (absent : entry.containsKey "Command" = false) (key : String) :
    (directCommandArgs "0" entry).get key = keptArg entry "0" key := by
  rw [(directCommandArgs_selector "0" distinct (by decide) isObject).2.2, keptArg]
  have none_ : entry.get "Command" = none := by simpa [Value.containsKey] using absent
  by_cases command : key = "Command"
  · subst command
    simp [none_]
  · simp [command]

/-- An entry is kept exactly when it is plain. -/
theorem entry_kept_iff (distinct : EntryDistinct entry) : EntryKept entry (directLxmfCommandEntry entry) ↔ EntryPlain entry := by
  unfold EntryKept EntryPlain commandForm
  cases typed : nonblankText entry "command_type" with
  | some name =>
    have selected : commandSelector entry = some "command_type" := by
      rw [commandSelector, List.find?_cons_of_pos (containsKey_of_nonblank typed)]
    rw [entry_selected selected, typed]
    simp only [DirectLxmfCommandResult.valid.injEq, exists_eq_left', CommandForm.Kept, true_and]
    rw [correlationKept_iff]
    refine and_iff_left fun explicit found => ?_
    rw [directCommandArgs, if_pos rfl, found]
    rfl
  | none =>
    cases commanded : nonblankText entry "Command" with
    | some name =>
      have there := containsKey_of_nonblank commanded
      cases first : entry.containsKey "command_type" with
      | true =>
        have selected : commandSelector entry = some "command_type" := by
          rw [commandSelector, List.find?_cons_of_pos first]
        rw [entry_selected selected, typed]
        simp
      | false =>
        have selected : commandSelector entry = some "Command" := by
          rw [commandSelector, List.find?_cons_of_neg (by simp [first]), List.find?_cons_of_pos there]
        have isObject := isObject_of_containsKey there
        obtain ⟨object, once, -⟩ := directCommandArgs_selector "Command" distinct (by decide) isObject
        rw [entry_selected selected, commanded]
        simp only [DirectLxmfCommandResult.valid.injEq, exists_eq_left', CommandForm.Kept, true_and, object, once]
        rw [correlationKept_iff, command_args_iff distinct isObject]
    | none =>
      cases zero : nonblankText entry "0" with
      | some name =>
        have there := containsKey_of_nonblank zero
        have isObject := isObject_of_containsKey there
        cases first : entry.containsKey "command_type" with
        | true =>
          have selected : commandSelector entry = some "command_type" := by
            rw [commandSelector, List.find?_cons_of_pos first]
          rw [entry_selected selected, typed]
          simp
        | false =>
          cases second : entry.containsKey "Command" with
          | true =>
            have selected : commandSelector entry = some "Command" := by
              rw [commandSelector, List.find?_cons_of_neg (by simp [first]), List.find?_cons_of_pos second]
            rw [entry_selected selected, commanded]
            simp
          | false =>
            have selected : commandSelector entry = some "0" := by
              rw [commandSelector, List.find?_cons_of_neg (by simp [first]), List.find?_cons_of_neg (by simp [second]),
                List.find?_cons_of_pos there]
            obtain ⟨object, once, -⟩ := directCommandArgs_selector "0" distinct (by decide) isObject
            rw [entry_selected selected, zero]
            simp only [DirectLxmfCommandResult.valid.injEq, exists_eq_left', CommandForm.Kept, true_and, object, once]
            rw [correlationKept_iff]
            exact and_iff_left (zero_args distinct isObject second)
      | none =>
        have unnamed : ∀ key ∈ ["command_type", "Command", "0"], nonblankText entry key = none := by
          simp [typed, commanded, zero]
        obtain ⟨reason, malformed⟩ := entry_unnamed unnamed
        rw [malformed]
        cases entry.containsKey "1" <;> simp

/-! ## The field -/

/-- The value of the commands' field: under its number, else under its name, else under the
first spelling of its name in other letters. -/
inductive CommandsField (fields : List (String × Value)) (commands : Value) : Prop where
  | number (found : fields.lookup "9" = some commands)
  | name (absent : fields.lookup "9" = none) (found : fields.lookup "FIELD_COMMANDS" = some commands)
  | spelled (absent : fields.lookup "9" = none) (unnamed : fields.lookup "FIELD_COMMANDS" = none)
    (before after : List (String × Value)) (key : String) (split : fields = before ++ (key, commands) :: after)
    (same : eqIgnoreAsciiCase key "FIELD_COMMANDS" = true)
    (first : ∀ field ∈ before, eqIgnoreAsciiCase field.1 "FIELD_COMMANDS" = false)

theorem asciiLower_eq_nine {c : Char} (lower : asciiLower c = '9') : c = '9' := by
  by_cases capital : 'A' ≤ c ∧ c ≤ 'Z'
  · have nat := asciiLower_capital capital
    rw [lower] at nat
    have low : 65 ≤ c.toNat := capital.1
    have nine : ('9' : Char).toNat = 57 := rfl
    omega
  · rwa [asciiLower, if_neg capital] at lower

/-- A digit has no other case. -/
theorem eqIgnoreAsciiCase_nine {key : String} (same : eqIgnoreAsciiCase key "9" = true) : key = "9" := by
  have chars := congrArg String.toList (eq_of_beq same)
  rw [toAsciiLowercase, String.toList_ofList] at chars
  change key.toList.map asciiLower = ['9'] at chars
  obtain ⟨c, rest, opens, lower, none_⟩ := List.map_eq_cons_iff.1 chars
  rw [List.map_eq_nil_iff] at none_
  rw [asciiLower_eq_nine lower, none_] at opens
  exact String.toList_inj.1 opens

/-- The field that is read is the field of the commands. -/
theorem commands_found_iff {fields : List (String × Value)} {commands : Value} :
    optionalFieldValue fields ["9", "FIELD_COMMANDS"] = some commands ↔ CommandsField fields commands := by
  have nothing : fields.lookup "9" = none → (fields.find? fun field => eqIgnoreAsciiCase field.1 "9") = none := by
    intro absent
    rw [List.find?_eq_none]
    intro field there same
    have other := List.lookup_eq_none_iff.1 absent field there
    rw [eqIgnoreAsciiCase_nine same] at other
    exact absurd other (by decide)
  unfold optionalFieldValue
  rw [List.findSome?_cons, List.findSome?_cons, List.findSome?_nil]
  cases number : fields.lookup "9" with
  | some value =>
    constructor
    · intro found
      exact .number (number.trans found)
    · rintro (found | absent | absent)
      · exact number.symm.trans found
      · cases number.symm.trans absent
      · cases number.symm.trans absent
  | none =>
    rw [nothing number]
    cases name : fields.lookup "FIELD_COMMANDS" with
    | some value =>
      constructor
      · intro found
        exact .name number (name.trans found)
      · rintro (found | ⟨-, found⟩ | ⟨-, absent⟩)
        · cases number.symm.trans found
        · exact name.symm.trans found
        · cases name.symm.trans absent
    | none =>
      simp only [Option.map_none, Option.or_none, Option.none_or]
      constructor
      · intro found
        cases searched : fields.find? fun field => eqIgnoreAsciiCase field.1 "FIELD_COMMANDS" with
        | none =>
          rw [searched] at found
          cases found
        | some field =>
          rw [searched] at found
          obtain ⟨key, value⟩ := field
          obtain rfl : value = commands := Option.some.inj found
          obtain ⟨same, before, after, split, others⟩ := List.find?_eq_some_iff_append.1 searched
          exact .spelled number name before after key split same fun field there => by simpa using others field there
      · rintro (found | ⟨-, found⟩ | ⟨-, -, before, after, key, split, same, first⟩)
        · cases number.symm.trans found
        · cases name.symm.trans found
        · have found : (fields.find? fun field => eqIgnoreAsciiCase field.1 "FIELD_COMMANDS") = some (key, commands) :=
            List.find?_eq_some_iff_append.2 ⟨same, before, after, split, fun field there => by simp [first field there]⟩
          rw [found]
          rfl

/-- Where one field only has the number or the name, in whatever letters, it is read wherever it
stands. -/
theorem commandsField_only {fields : List (String × Value)} {key : String} {commands : Value}
    (there : (key, commands) ∈ fields) (named : key = "9" ∨ eqIgnoreAsciiCase key "FIELD_COMMANDS" = true)
    (only : ∀ field ∈ fields, field.1 = "9" ∨ eqIgnoreAsciiCase field.1 "FIELD_COMMANDS" = true → field = (key, commands)) :
    CommandsField fields commands := by
  have of_lookup : ∀ {spelling value}, spelling = "9" ∨ eqIgnoreAsciiCase spelling "FIELD_COMMANDS" = true →
      fields.lookup spelling = some value → value = commands := by
    intro spelling value names found
    obtain ⟨before, after, split, -⟩ := List.lookup_eq_some_iff.1 found
    have inside : (spelling, value) ∈ fields := by
      rw [split]
      exact List.mem_append_right before List.mem_cons_self
    exact congrArg Prod.snd (only _ inside names)
  cases number : fields.lookup "9" with
  | some value => exact .number (of_lookup (.inl rfl) number ▸ number)
  | none =>
    cases name : fields.lookup "FIELD_COMMANDS" with
    | some value =>
      obtain rfl := of_lookup (.inr (by decide)) name
      exact .name number name
    | none =>
      have other := List.lookup_eq_none_iff.1 number _ there
      have same : eqIgnoreAsciiCase key "FIELD_COMMANDS" = true :=
        named.resolve_left fun nine => by simp [nine] at other
      cases searched : fields.find? fun field => eqIgnoreAsciiCase field.1 "FIELD_COMMANDS" with
      | none => exact absurd same (List.find?_eq_none.1 searched _ there)
      | some field =>
        obtain ⟨spelled, before, after, split, others⟩ := List.find?_eq_some_iff_append.1 searched
        have inside : field ∈ fields := by
          rw [split]
          exact List.mem_append_right before List.mem_cons_self
        obtain rfl := only field inside (.inr spelled)
        exact .spelled number name before after key split same fun field there => by simpa using others field there

/-! ## Messages with commands -/

/-- The first entry of the field. -/
def firstEntry : Value → Option Value
  | .array entries => entries.head?
  | entry => some entry

theorem directLxmfCommand_eq {fields : List (String × Value)} {commands : Value} (field : CommandsField fields commands) :
    directLxmfCommand (some fields) =
      match firstEntry commands with
      | some entry => directLxmfCommandEntry entry
      | none => .malformed "field 0x09 command list is empty" := by
  unfold directLxmfCommand
  rw [Option.bind_some, commands_found_iff.2 field]
  cases commands with
  | array entries => cases entries <;> rfl
  | _ => rfl

section

variable [ServerHost]

/-- The first entry is read as the command it is, or is malformed; and what is no command is
never taken for a text. -/
def CommandsKept (fields : List (String × Value)) (commands : Value) : Prop :=
  (match firstEntry commands with
  | some entry => EntryKept entry (directLxmfCommand (some fields))
  | none => ∃ reason, directLxmfCommand (some fields) = .malformed reason) ∧
  ∀ message localSource w, (message.get "fields").bind Value.asObject = some fields →
    (∀ command, directLxmfCommand (some fields) ≠ .valid command) →
    ∃ error, (directLxmfMessageEnvelope message localSource w).1 = .error error

theorem malformed_refused {fields : List (String × Value)} {reason : String}
    (malformed : directLxmfCommand (some fields) = .malformed reason) {message : Value}
    (told : (message.get "fields").bind Value.asObject = some fields) (localSource : String) (w : ServerWorld) :
    ∃ error, (directLxmfMessageEnvelope message localSource w).1 = .error error := by
  unfold directLxmfMessageEnvelope
  simp only [told, malformed]
  exact ⟨_, rfl⟩

omit [ServerHost] in
theorem directLxmfCommandEntry_cases (entry : Value) : (∃ command, directLxmfCommandEntry entry = .valid command) ∨
    ∃ reason, directLxmfCommandEntry entry = .malformed reason := by
  unfold directLxmfCommandEntry
  split
  · exact .inr ⟨_, rfl⟩
  · split
    · exact .inr ⟨_, rfl⟩
    · split
      · exact .inr ⟨_, rfl⟩
      · exact .inl ⟨_, rfl⟩

/-- The commands of a message lose nothing exactly when the first entry is plain. -/
theorem field_commands_kept_iff (fields : List (String × Value)) (commands : Value) (field : CommandsField fields commands)
    (distinct : ∀ entry, firstEntry commands = some entry → EntryDistinct entry) :
    CommandsKept fields commands ↔ ∀ entry, firstEntry commands = some entry → EntryPlain entry := by
  unfold CommandsKept
  have same := directLxmfCommand_eq field
  cases first : firstEntry commands with
  | none =>
    rw [first] at same
    simp only [same, reduceCtorEq, false_imp_iff, implies_true, iff_true]
    refine ⟨⟨_, rfl⟩, fun message localSource w told _ => malformed_refused same told localSource w⟩
  | some entry =>
    rw [first] at same
    have refused : ∀ message localSource w, (message.get "fields").bind Value.asObject = some fields →
        (∀ command, directLxmfCommand (some fields) ≠ .valid command) →
        ∃ error, (directLxmfMessageEnvelope message localSource w).1 = .error error := by
      intro message localSource w told invalid
      obtain ⟨command, valid⟩ | ⟨reason, malformed⟩ := directLxmfCommandEntry_cases entry
      · exact absurd (same.trans valid) (invalid command)
      · exact malformed_refused (same.trans malformed) told localSource w
    simp only [Option.some.injEq, forall_eq', same]
    rw [same] at refused
    exact (and_iff_left refused).trans (entry_kept_iff (distinct entry first))

theorem not_kept {fields : List (String × Value)} {commands : Value} (field : CommandsField fields commands)
    (first : firstEntry commands = some entry) (distinct : EntryDistinct entry) (cut : ¬EntryPlain entry) :
    ¬CommandsKept fields commands := by
  rintro ⟨kept, -⟩
  rw [directLxmfCommand_eq field, first] at kept
  exact cut ((entry_kept_iff distinct).1 kept)

end

/-- The fields of a message with one entry. -/
def commandFields (key : String) (entry : List (String × Value)) : List (String × Value) := [(key, .array [.object entry])]

/-- A join whose arguments are in the entry and in its `args`. -/
def joinEntry : List (String × Value) :=
  [("Command", .string " join "), ("command_id", .string " c-1 "), ("args", .object [("nick", .string "a"), ("team", .null)]),
    ("nick", .string "b"), ("1", .number (.int 5))]

theorem join_kept :
    letI := ServerHost.blank
    CommandsKept (commandFields "Field_Commands" joinEntry) (.array [.object joinEntry]) := by
  let := ServerHost.blank
  have field : CommandsField (commandFields "Field_Commands" joinEntry) (.array [.object joinEntry]) :=
    .spelled rfl rfl [] [] "Field_Commands" rfl (by decide) nofun
  have distinct : ∀ entry, firstEntry (.array [.object joinEntry]) = some entry → EntryDistinct entry := by
    rintro entry ⟨⟩
    refine ⟨show (joinEntry.map Prod.fst).Nodup by decide, ?_⟩
    rintro args ⟨⟩
    exact show ["nick", "team"].Nodup by decide
  rw [field_commands_kept_iff _ _ field distinct]
  rintro entry ⟨⟩
  refine ⟨by decide, ?_, nofun⟩
  rintro value ⟨⟩
  rfl

/-- An entry that is the command field of a message and is not kept. -/
def EntryCut [ServerHost] (entry : List (String × Value)) : Prop :=
  CommandsField (commandFields "9" entry) (.array [.object entry]) ∧
    ¬CommandsKept (commandFields "9" entry) (.array [.object entry])

theorem EntryCut.of [ServerHost] {entry : List (String × Value)} (once : (entry.map Prod.fst).Nodup)
    (argless : entry.lookup "args" = none) (cut : ¬EntryPlain (.object entry)) : EntryCut entry := by
  have field : CommandsField (commandFields "9" entry) (.array [.object entry]) := .number rfl
  refine ⟨field, not_kept field rfl ⟨once, fun args found => ?_⟩ cut⟩
  cases argless.symm.trans found

/-- The telemetry request of the document is malformed; a key of a selector beside another is
left out, or hides it; a number is no correlation id. -/
theorem entries_cut :
    letI := ServerHost.blank
    EntryCut [("1", .number (.int 1700000000)), ("TopicID", .string "ops")] ∧
      EntryCut [("Command", .string "join"), ("0", .string "leave")] ∧
      EntryCut [("Command", .string "join"), ("command_type", .null)] ∧
      EntryCut [("Command", .string "join"), ("command_id", .number (.int 5))] := by
  let := ServerHost.blank
  refine ⟨.of (by decide) rfl id, .of (by decide) rfl ?_, .of (by decide) rfl ?_, .of (by decide) rfl ?_⟩
  · rintro ⟨-, -, kept⟩
    cases kept _ rfl
  · rintro ⟨first, -⟩
    cases first
  · rintro ⟨-, isText, -⟩
    cases isText _ rfl

end TelemetryHub
