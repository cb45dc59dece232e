import TelemetryHub.Bridge.Responses
import TelemetryHub.Core.Args

/-!
# The time of an EAM

The server checks the `reported_at` of an EAM before the core reads it. The check takes what
the core does not: floating-point numbers, texts with blanks around them, texts without a zone.
-/

namespace TelemetryHub

/-- What the check takes from chrono: a date and time with a zone, as seconds since the epoch
and nanoseconds of the second, and one without. -/
class ReportHost extends Host where
  rfc3339 : String → Option (Int × Nat)
  rfc3339_seconds : ∀ text, parseRfc3339 text = (rfc3339 text).map Prod.fst
  rfc3339_format : ∀ text time, rfc3339 text = some time → trim text = text ∧ ':' ∈ text.toList
  rfc3339_range : ∀ text time, rfc3339 text = some time → inI64 (time.1 * 1000) = true
  /-- `NaiveDateTime::parse_from_str(.., "%Y-%m-%dT%H:%M:%S")`, as seconds since the epoch in UTC. -/
  naiveDateTime : String → Option Int
  naive_format : ∀ text time, naiveDateTime text = some time → ':' ∈ text.toList

/-- `&text[..n]` of the characters; `none` where the slice panics. -/
def sliceTo : Nat → List Char → Option (List Char)
  | 0, _ => some []
  | _ + 1, [] => none
  | n + 1, c :: cs => if c.utf8Size ≤ n + 1 then (sliceTo (n + 1 - c.utf8Size) cs).map (c :: ·) else none

section Host

variable [ReportHost]

/-- `validate_eam_reported_at_field`: the detail of what is `Unprocessable`, and `none` where the
check panics. -/
def validateEamReportedAtField : Option Value → Option (Except String Unit)
  | none => some (.ok ())
  | some value =>
    if value.isNull || value.asI64.isSome || value.asF64.isSome then some (.ok ())
    else
      match (value.asStr.map trim).filter fun text => !text.isEmpty with
      | none => some (.error "reported_at: input should be a valid datetime")
      | some text =>
        if (Host.parseRfc3339 text).isSome then some (.ok ())
        else if 19 ≤ text.utf8ByteSize then
          (sliceTo 19 text.toList).map fun start =>
            if (ReportHost.naiveDateTime (String.ofList start)).isSome then .ok ()
            else .error "reported_at: input should be a valid datetime"
        else some (.error "reported_at: input should be a valid datetime")

/-! ## The instant of a value -/

/-- The instant a text stands for, in nanoseconds: as the check reads it, UTC where there is no
zone. -/
def textInstant (text : String) : Option Int :=
  match ReportHost.rfc3339 text with
  | some (seconds, nanos) => some (seconds * 10 ^ 9 + nanos)
  | none => ((sliceTo 19 text.toList).bind fun start => ReportHost.naiveDateTime (String.ofList start)).map (· * 10 ^ 9)

/-- The instant a value stands for, in nanoseconds: an integer is a Unix time, in seconds where
that is below 10^10 and in milliseconds from there. -/
def reportedInstant : Option Value → Option Int
  | some (.number (.int n)) => some (if n < 10000000000 then n * 10 ^ 9 else n * 10 ^ 6)
  | some (.string text) => textInstant (trim text)
  | _ => none

/-- The check returns, and what it accepts the core reads as the same instant. -/
def ReadAsChecked (payload : Value) : Prop :=
  ∃ checked, validateEamReportedAtField (payload.get "reported_at") = some checked ∧
    (checked = .ok () → ∃ time, optionalTimestampMs payload ["reported_at"] = .ok time ∧
      time.map (· * 10 ^ 6) = reportedInstant (payload.get "reported_at"))

/-- A text with a zone has no blanks around it and no fraction of a second; one without is no
date and time, and a character ends at its 19th byte. -/
def TextReadable (text : String) : Prop :=
  match ReportHost.rfc3339 (trim text) with
  | some (_, nanos) => trim text = text ∧ nanos = 0
  | none => 19 ≤ (trim text).utf8ByteSize →
    ∃ start, sliceTo 19 (trim text).toList = some start ∧ ReportHost.naiveDateTime (String.ofList start) = none

/-- The values that are read as they are checked. -/
def ReportedAtReadable : Option Value → Prop
  | some (.number (.int n)) => inI64 n = true ∧ (n < 10000000000 → inI64 (n * 1000) = true)
  | some (.number (.float _)) => False
  | some (.string text) => TextReadable text
  | none | some .null | some (.bool _) | some (.array _) | some (.object _) => True

omit [ReportHost] in
/-- What is before the slice's end is of the text. -/
theorem sliceTo_begins {n : Nat} {cs start : List Char} (found : sliceTo n cs = some start) : start <+: cs := by
  fun_induction sliceTo n cs generalizing start with
  | case1 =>
    obtain rfl := Option.some.inj found
    exact List.nil_prefix
  | case2 => cases found
  | case3 n c cs fits ih =>
    obtain ⟨rest, inside, rfl⟩ := Option.map_eq_some_iff.1 found
    exact (List.prefix_cons_inj c).2 (ih inside)
  | case4 => cases found

omit [ReportHost] in
/-- A text with a colon is no integer. -/
theorem parseI64_colon {text : String} (colon : ':' ∈ text.toList) : parseI64 text = none := by
  have none_ : ∀ digits, ':' ∈ digits → digitsValue digits = none := by
    intro digits inside
    cases value : digitsValue digits with
    | none => rfl
    | some n => exact absurd ((Bridge.digitsValue_digits value).2 ':' inside) (by decide)
  unfold parseI64
  split
  · next digits opens =>
    rw [opens, List.mem_cons] at colon
    rw [none_ digits (colon.resolve_left (by decide))]
    rfl
  · next digits opens =>
    rw [opens, List.mem_cons] at colon
    rw [none_ digits (colon.resolve_left (by decide))]
    rfl
  · rw [none_ _ colon]
    rfl

omit [ReportHost] in
theorem i64_eq_iff {n : Int} : i64 n = n ↔ inI64 n = true := by
  unfold i64 inI64
  simp only [Bool.and_eq_true, decide_eq_true_eq]
  rw [Int.bmod_def]
  split <;> omega

omit [ReportHost] in
theorem mem_of_mem_trim {c : Char} {text : String} (inside : c ∈ (trim text).toList) : c ∈ text.toList := by
  rw [trim, String.toList_ofList, trimChars, List.mem_reverse] at inside
  have back := (List.dropWhile_suffix _).subset inside
  exact (List.dropWhile_suffix _).subset (List.mem_reverse.1 back)

variable {payload : Value} {text : String}

/-! ## What the core reads -/

/-- The core reads a text with a colon only where it has a zone and no blanks around it. -/
theorem core_text (found : payload.get "reported_at" = some (.string text)) (colon : ':' ∈ text.toList) :
    optionalTimestampMs payload ["reported_at"] =
      match ReportHost.rfc3339 text with
      | some (seconds, _) => .ok (some (seconds * 1000))
      | none => invalidPayload "timestamp must be RFC3339" := by
  unfold optionalTimestampMs
  simp only [List.findSome?_cons, found, Value.isNull, Bool.false_eq_true, ↓reduceIte, valueAsI64,
    Value.asI64, Value.asStr, Option.none_or, Option.bind_some, parseI64_colon colon, ReportHost.rfc3339_seconds]
  cases zoned : ReportHost.rfc3339 text with
  | none => rfl
  | some time =>
    simp only [Option.map_some]
    rw [i64_eq_iff.2 (ReportHost.rfc3339_range text time zoned)]

theorem core_int (n : Int) (found : payload.get "reported_at" = some (.number (.int n))) :
    optionalTimestampMs payload ["reported_at"] =
      if inI64 n then .ok (some (if n < 10000000000 then i64 (n * 1000) else n))
      else invalidPayload "timestamp must be RFC3339 or Unix time" := by
  unfold optionalTimestampMs
  simp only [List.findSome?_cons, found, Value.isNull, Bool.false_eq_true, ↓reduceIte, valueAsI64,
    Value.asI64, Value.asStr, Option.bind_none, Option.or_none]
  cases inI64 n <;> rfl

/-! ## What the check accepts -/

/-- A text with a zone is accepted; else what is before the 19th byte decides. -/
theorem check_text (text : String) : validateEamReportedAtField (some (.string text)) =
    match ReportHost.rfc3339 (trim text) with
    | some _ => some (.ok ())
    | none =>
      if 19 ≤ (trim text).utf8ByteSize then
        (sliceTo 19 (trim text).toList).map fun start =>
          if (ReportHost.naiveDateTime (String.ofList start)).isSome then .ok ()
          else .error "reported_at: input should be a valid datetime"
      else some (.error "reported_at: input should be a valid datetime") := by
  unfold validateEamReportedAtField
  simp only [Value.isNull, Value.asI64, Value.asF64, Value.asStr, Option.isSome_none, Bool.or_self, Bool.false_eq_true,
    ↓reduceIte, Option.map_some, Option.filter_some]
  cases zoned : ReportHost.rfc3339 (trim text) with
  | some time =>
    have filled : (trim text).isEmpty = false := by
      rw [Bool.eq_false_iff, Ne, String.isEmpty_iff]
      intro empty
      have colon := (ReportHost.rfc3339_format _ time zoned).2
      rw [empty] at colon
      cases colon
    simp only [filled, Bool.not_false, ↓reduceIte, ReportHost.rfc3339_seconds, zoned, Option.map_some, Option.isSome_some]
  | none =>
    cases filled : (trim text).isEmpty with
    | true =>
      rw [String.isEmpty_iff.1 filled]
      rfl
    | false =>
      simp only [Bool.not_false, ↓reduceIte, ReportHost.rfc3339_seconds, zoned, Option.map_none, Option.isSome_none,
        Bool.false_eq_true]

/-- A text is read as it is checked exactly when it is readable. -/
theorem text_read_iff (found : payload.get "reported_at" = some (.string text)) :
    ReadAsChecked payload ↔ TextReadable text := by
  unfold ReadAsChecked TextReadable
  rw [found, check_text]
  cases zoned : ReportHost.rfc3339 (trim text) with
  | some time =>
    obtain ⟨seconds, nanos⟩ := time
    have colon := mem_of_mem_trim (ReportHost.rfc3339_format _ _ zoned).2
    rw [core_text found colon]
    simp only [Option.some.injEq, exists_eq_left', forall_const, reportedInstant, textInstant, zoned]
    constructor
    · rintro ⟨time, core, same⟩
      cases zoned' : ReportHost.rfc3339 text with
      | none =>
        rw [zoned'] at core
        cases core
      | some time' =>
        have bare := (ReportHost.rfc3339_format text time' zoned').1
        rw [bare, zoned'] at zoned
        obtain rfl := Option.some.inj zoned
        rw [zoned'] at core
        obtain rfl := Except.ok.inj core
        simp only [Option.map_some, Option.some.injEq] at same
        exact ⟨bare, by omega⟩
    · rintro ⟨bare, rfl⟩
      rw [bare] at zoned
      rw [zoned]
      refine ⟨_, rfl, ?_⟩
      simp only [Option.map_some, Option.some.injEq]
      omega
  | none =>
    by_cases long : 19 ≤ (trim text).utf8ByteSize
    · simp only [long, ↓reduceIte, forall_const]
      cases sliced : sliceTo 19 (trim text).toList with
      | none => simp
      | some start =>
        simp only [Option.map_some, Option.some.injEq, exists_eq_left']
        cases naive : ReportHost.naiveDateTime (String.ofList start) with
        | none => simp
        | some time =>
          -- the core knows no time without a zone
          have colon : ':' ∈ text.toList := by
            have inside := ReportHost.naive_format _ time naive
            rw [String.toList_ofList] at inside
            exact mem_of_mem_trim ((sliceTo_begins sliced).subset inside)
          have unzoned : ReportHost.rfc3339 text = none := by
            cases zoned' : ReportHost.rfc3339 text with
            | none => rfl
            | some time' =>
              rw [(ReportHost.rfc3339_format text time' zoned').1, zoned'] at zoned
              cases zoned
          rw [core_text found colon, unzoned]
          simp [invalidPayload]
    · simp [long]

/-- An EAM is read as it is checked exactly when its time is readable, whatever the payload. -/
theorem reported_at_read_iff (payload : Value) :
    ReadAsChecked payload ↔ ReportedAtReadable (payload.get "reported_at") := by
  cases found : payload.get "reported_at" with
  | none =>
    simp [ReadAsChecked, found, validateEamReportedAtField, optionalTimestampMs, reportedInstant, ReportedAtReadable]
  | some value =>
    cases value with
    | null =>
      simp [ReadAsChecked, found, validateEamReportedAtField, optionalTimestampMs, reportedInstant, ReportedAtReadable,
        Value.isNull]
    | bool | array | object =>
      simp [ReadAsChecked, found, validateEamReportedAtField, ReportedAtReadable, Value.isNull, Value.asI64, Value.asF64,
        Value.asStr]
    | string text => exact text_read_iff found
    | number number =>
      cases number with
      | float x =>
        simp [ReadAsChecked, found, validateEamReportedAtField, optionalTimestampMs, invalidPayload, ReportedAtReadable,
          Value.isNull, Value.asI64, Value.asF64, Value.asStr, valueAsI64]
      | int n =>
        have checked : validateEamReportedAtField (some (.number (.int n))) = some (.ok ()) := by
          simp [validateEamReportedAtField, Value.asF64]
        unfold ReadAsChecked ReportedAtReadable
        rw [found, checked, core_int n found]
        cases within : inI64 n with
        | false => simp [invalidPayload, within]
        | true =>
          simp only [Option.some.injEq, exists_eq_left', forall_const, ↓reduceIte, Except.ok.injEq, reportedInstant]
          by_cases early : n < 10000000000
          · simp only [early, ↓reduceIte, Option.map_some, Option.some.injEq, forall_const]
            constructor
            · intro same
              exact ⟨within, i64_eq_iff.1 (by omega)⟩
            · rintro ⟨-, within'⟩
              rw [i64_eq_iff.2 within']
              omega
          · simp [early, within]

end Host

/-! ## A character at the 19th byte -/

/-- A time, and the one half a second later. -/
def reportedTime (text : String) : Option (Int × Nat) :=
  if text = "2026-01-01T00:00:00Z" then some (1767225600, 0)
  else if text = "2026-01-01T00:00:00.5Z" then some (1767225600, 500000000)
  else none

theorem reportedTime_cases {text : String} {time : Int × Nat} (found : reportedTime text = some time) :
    text = "2026-01-01T00:00:00Z" ∧ time = (1767225600, 0) ∨
      text = "2026-01-01T00:00:00.5Z" ∧ time = (1767225600, 500000000) := by
  unfold reportedTime at found
  split at found
  · next whole => exact .inl ⟨whole, (Option.some.inj found).symm⟩
  · split at found
    · next half => exact .inr ⟨half, (Option.some.inj found).symm⟩
    · cases found

/-- A host that knows these times. -/
@[reducible] def ReportHost.sample : ReportHost where
  toHost := { Host.blank with parseRfc3339 := fun text => (reportedTime text).map Prod.fst }
  rfc3339 := reportedTime
  rfc3339_seconds _ := rfl
  rfc3339_format text time found := by
    obtain ⟨rfl, -⟩ | ⟨rfl, -⟩ := reportedTime_cases found
    · decide
    · decide
  rfc3339_range text time found := by
    obtain ⟨-, rfl⟩ | ⟨-, rfl⟩ := reportedTime_cases found
    · decide
    · decide
  naiveDateTime text := if text = "2026-01-01T00:00:00" then some 1767225600 else none
  naive_format text time found := by
    split at found
    · next whole =>
      rw [whole]
      decide
    · cases found

theorem not_read [ReportHost] {payload : Value} {error : RchCoreError}
    (accepted : validateEamReportedAtField (payload.get "reported_at") = some (.ok ()))
    (refused : optionalTimestampMs payload ["reported_at"] = .error error) : ¬ReadAsChecked payload := by
  rintro ⟨checked, ran, read⟩
  obtain rfl := Option.some.inj (accepted.symm.trans ran)
  obtain ⟨time, core, -⟩ := read rfl
  cases refused.symm.trans core

/-- The check panics where a character stands across the 19th byte; and a time without a zone,
a number with a fraction, and a text with a blank are accepted and not read, or read as another
instant. -/
theorem reported_at_differs :
    letI := ReportHost.sample
    let reported (value : Value) : Value := .object [("reported_at", value)]
    validateEamReportedAtField (some (.string "2026-01-01T00:00:0é")) = none ∧
    ¬ReadAsChecked (reported (.string "2026-01-01T00:00:0é")) ∧
    ¬ReadAsChecked (reported (.string "2026-01-01T00:00:00")) ∧
    ¬ReadAsChecked (reported (.string " 2026-01-01T00:00:00Z")) ∧
    ¬ReadAsChecked (reported (.string "2026-01-01T00:00:00.5Z")) ∧
    ¬ReadAsChecked (reported (.number (.float 1767225600.5))) := by
  let := ReportHost.sample
  have panicked : validateEamReportedAtField (some (.string "2026-01-01T00:00:0é")) = none := by decide +kernel
  refine ⟨panicked, ?_, ?_, ?_, ?_, ?_⟩
  · rintro ⟨checked, ran, -⟩
    cases panicked.symm.trans ran
  · exact not_read (by rfl) (by rfl)
  · exact not_read (by rfl) (by rfl)
  · rintro ⟨checked, ran, read⟩
    have accepted : validateEamReportedAtField (some (.string "2026-01-01T00:00:00.5Z")) = some (.ok ()) := rfl
    have truncated : optionalTimestampMs (.object [("reported_at", .string "2026-01-01T00:00:00.5Z")]) ["reported_at"] =
        .ok (some 1767225600000) := rfl
    obtain rfl := Option.some.inj (accepted.symm.trans ran)
    obtain ⟨time, core, same⟩ := read rfl
    obtain rfl := Except.ok.inj (truncated.symm.trans core)
    exact absurd same (by decide +kernel)
  · exact not_read (by rfl) (by rfl)

end TelemetryHub
