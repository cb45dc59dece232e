import TelemetryHub.Core.Args

/-!
# Normal forms

Normalising an identifier twice is normalising it once, so a stored identifier
normalises to itself.
-/

namespace TelemetryHub

open Lib

/-! ## Trimming -/

/-- No white space at either end. -/
def Trimmed (cs : List Char) : Prop :=
  (∀ c ∈ cs.head?, isWhitespace c = false) ∧ ∀ c ∈ cs.getLast?, isWhitespace c = false

theorem dropWhile_eq_self {cs : List Char} (h : ∀ c ∈ cs.head?, isWhitespace c = false) :
    cs.dropWhile isWhitespace = cs := by
  cases cs with
  | nil => rfl
  | cons c cs => rw [List.dropWhile_cons, h c rfl, if_neg Bool.false_ne_true]

theorem trimChars_of_trimmed {cs : List Char} (h : Trimmed cs) : trimChars cs = cs := by
  unfold trimChars
  rw [dropWhile_eq_self h.1, dropWhile_eq_self, List.reverse_reverse]
  intro c hc
  rw [List.head?_reverse] at hc
  exact h.2 c hc

theorem head_dropWhile (cs : List Char) :
    ∀ c ∈ (cs.dropWhile isWhitespace).head?, isWhitespace c = false := by
  intro c hc
  have := List.head?_dropWhile_not isWhitespace cs
  rw [Option.mem_def.1 hc] at this
  simpa using this

theorem trimmed_trimChars (cs : List Char) : Trimmed (trimChars cs) := by
  unfold trimChars
  refine ⟨fun c hc => ?_, fun c hc => ?_⟩
  · have hprefix : ((cs.dropWhile isWhitespace).reverse.dropWhile isWhitespace).reverse <+:
        cs.dropWhile isWhitespace := by
      rw [← List.reverse_suffix, List.reverse_reverse]
      exact List.dropWhile_suffix _
    obtain ⟨rest, hrest⟩ := hprefix
    apply head_dropWhile cs
    rw [← hrest, List.head?_append, Option.mem_def.1 hc]
    rfl
  · rw [List.getLast?_reverse] at hc
    exact head_dropWhile _ c hc

theorem trimChars_trimChars (cs : List Char) : trimChars (trimChars cs) = trimChars cs :=
  trimChars_of_trimmed (trimmed_trimChars cs)

@[simp] theorem trim_trim (s : String) : trim (trim s) = trim s := by
  rw [trim, trim, String.toList_ofList, trimChars_trimChars]

/-! ## Letter case -/

theorem toNat_ofNat {n : Nat} (h : n < 0xd800) : (Char.ofNat n).toNat = n := by
  rw [Char.ofNat, dif_pos (.inl h)]
  rfl

theorem asciiLower_capital {c : Char} (h : 'A' ≤ c ∧ c ≤ 'Z') :
    (asciiLower c).toNat = c.toNat + 32 := by
  have hhigh : c.toNat ≤ 90 := h.2
  rw [asciiLower, if_pos h]
  exact toNat_ofNat (by omega)

theorem isWhitespace_asciiLower (c : Char) : isWhitespace (asciiLower c) = isWhitespace c := by
  by_cases h : 'A' ≤ c ∧ c ≤ 'Z'
  · have hlow : 65 ≤ c.toNat := h.1
    have hhigh : c.toNat ≤ 90 := h.2
    have visible : ∀ n, 65 ≤ n → n ≤ 122 →
        (((9 ≤ n && n ≤ 13) || n == 32 || n == 0x85 || n == 0xA0 || n == 0x1680 ||
          (0x2000 ≤ n && n ≤ 0x200A) || n == 0x2028 || n == 0x2029 || n == 0x202F || n == 0x205F ||
          n == 0x3000) : Bool) = false := by
      intro n hlow hhigh
      simp only [Bool.or_eq_false_iff, Bool.and_eq_false_iff, decide_eq_false_iff_not,
        beq_eq_false_iff_ne]
      omega
    unfold isWhitespace
    rw [asciiLower_capital h]
    exact (visible _ (by omega) (by omega)).trans (visible _ hlow (by omega)).symm
  · rw [asciiLower, if_neg h]

theorem asciiLower_asciiLower (c : Char) : asciiLower (asciiLower c) = asciiLower c := by
  by_cases h : 'A' ≤ c ∧ c ≤ 'Z'
  · have hlow : 65 ≤ c.toNat := h.1
    have hnat := asciiLower_capital h
    have small : ¬('A' ≤ asciiLower c ∧ asciiLower c ≤ 'Z') := by
      rintro ⟨-, hz⟩
      have hz : (asciiLower c).toNat ≤ 90 := hz
      omega
    rw [asciiLower, if_neg small]
  · have hc : asciiLower c = c := if_neg h
    rw [hc, hc]

theorem dropWhile_map_asciiLower (cs : List Char) :
    (cs.map asciiLower).dropWhile isWhitespace = (cs.dropWhile isWhitespace).map asciiLower := by
  induction cs with
  | nil => rfl
  | cons c cs ih =>
    rw [List.map_cons, List.dropWhile_cons, List.dropWhile_cons, isWhitespace_asciiLower, ih]
    split <;> rfl

theorem trimChars_map_asciiLower (cs : List Char) :
    trimChars (cs.map asciiLower) = (trimChars cs).map asciiLower := by
  unfold trimChars
  rw [dropWhile_map_asciiLower, ← List.map_reverse, dropWhile_map_asciiLower, List.map_reverse]

@[simp] theorem toAsciiLowercase_toAsciiLowercase (s : String) :
    toAsciiLowercase (toAsciiLowercase s) = toAsciiLowercase s := by
  rw [toAsciiLowercase, toAsciiLowercase, String.toList_ofList, List.map_map]
  exact congrArg String.ofList (List.map_congr_left fun c _ => asciiLower_asciiLower c)

theorem trim_toAsciiLowercase (s : String) :
    trim (toAsciiLowercase s) = toAsciiLowercase (trim s) := by
  rw [trim, toAsciiLowercase, toAsciiLowercase, trim, String.toList_ofList, String.toList_ofList,
    trimChars_map_asciiLower]

theorem isEmpty_ofList (cs : List Char) : (String.ofList cs).isEmpty = cs.isEmpty := by
  rw [Bool.eq_iff_iff, String.isEmpty_iff, List.isEmpty_iff, ← String.toList_eq_nil_iff,
    String.toList_ofList]

theorem isEmpty_toAsciiLowercase (s : String) : (toAsciiLowercase s).isEmpty = s.isEmpty := by
  rw [toAsciiLowercase, isEmpty_ofList, List.isEmpty_map, ← isEmpty_ofList, String.ofList_toList]

theorem isEmpty_toAsciiUppercase (s : String) : (toAsciiUppercase s).isEmpty = s.isEmpty := by
  rw [toAsciiUppercase, isEmpty_ofList, List.isEmpty_map, ← isEmpty_ofList, String.ofList_toList]

/-- A member of the vocabulary, or the empty text of a blank value. -/
theorem normalizeEnum_member {value fieldName s : String} {allowedValues : List String}
    (h : normalizeEnum value fieldName allowedValues = .ok s) :
    s ∈ allowedValues ∨ (trim value).isEmpty = true ∧ s = "" := by
  unfold normalizeEnum at h
  dsimp only at h
  split at h
  · rename_i blank
    exact .inr ⟨(isEmpty_toAsciiUppercase _).symm.trans blank, (Except.ok.inj h).symm⟩
  · split at h
    · rename_i member
      exact .inl (Except.ok.inj h ▸ member)
    · exact nomatch h

/-! ## Identifiers -/

theorem normalizeHash_eq_some {value text : String} :
    normalizeHash value = some text ↔ toAsciiLowercase (trim value) = text ∧ text.isEmpty = false := by
  unfold normalizeHash
  generalize toAsciiLowercase (trim value) = lowered
  dsimp only
  cases hempty : lowered.isEmpty with
  | true =>
    rw [if_pos rfl]
    refine ⟨nofun, ?_⟩
    rintro ⟨rfl, hne⟩
    rw [hempty] at hne
    cases hne
  | false =>
    rw [if_neg Bool.false_ne_true, Option.some.injEq]
    refine ⟨?_, And.left⟩
    rintro rfl
    exact ⟨rfl, hempty⟩

/-- What `normalize_hash` returns is its own normal form. -/
theorem normalizeHash_normal {value text : String} (h : normalizeHash value = some text) :
    normalizeHash text = some text := by
  rw [normalizeHash_eq_some] at h ⊢
  obtain ⟨rfl, hne⟩ := h
  refine ⟨?_, hne⟩
  rw [trim_toAsciiLowercase, trim_trim, toAsciiLowercase_toAsciiLowercase]

theorem normalizeHash_trim (value : String) : normalizeHash (trim value) = normalizeHash value := by
  rw [normalizeHash, normalizeHash, trim_trim]

/-! ## UUIDs -/

theorem isLowerHex_range {c : Char} (h : isLowerHex c = true) :
    (48 ≤ c.toNat ∧ c.toNat ≤ 57) ∨ (97 ≤ c.toNat ∧ c.toNat ≤ 102) := by
  unfold isLowerHex at h
  simp only [Bool.or_eq_true, Bool.and_eq_true, decide_eq_true_eq] at h
  exact h

theorem asciiLower_of_isLowerHex {c : Char} (h : isLowerHex c = true) : asciiLower c = c := by
  refine if_neg fun hcapital => ?_
  have hlow : 65 ≤ c.toNat := hcapital.1
  have hhigh : c.toNat ≤ 90 := hcapital.2
  have hrange := isLowerHex_range h
  omega

theorem isWhitespace_of_isLowerHex {c : Char} (h : isLowerHex c = true) : isWhitespace c = false := by
  have hrange := isLowerHex_range h
  unfold isWhitespace
  simp only [Bool.or_eq_false_iff, Bool.and_eq_false_iff, decide_eq_false_iff_not,
    beq_eq_false_iff_ne]
  omega

/-- The text of a UUID has no white space to trim. -/
theorem trim_simple (u : Uuid) : trim u.simple = u.simple := by
  rw [trim, Uuid.simple, String.toList_ofList, trimChars_of_trimmed]
  refine ⟨fun c hc => ?_, fun c hc => ?_⟩
  · exact isWhitespace_of_isLowerHex (u.hex c (List.mem_of_mem_head? hc))
  · exact isWhitespace_of_isLowerHex (u.hex c (List.mem_of_getLast? hc))

theorem isEmpty_simple (u : Uuid) : u.simple.isEmpty = false := by
  rw [Uuid.simple, isEmpty_ofList]
  obtain ⟨digits, hlength, -⟩ := u
  cases digits with
  | nil => cases hlength
  | cons => rfl

theorem ofDigits_digits (u : Uuid) : Uuid.ofDigits u.digits = some u := by
  have hdigits : u.digits.map asciiLower = u.digits :=
    (List.map_congr_left fun c hc => asciiLower_of_isLowerHex (u.hex c hc)).trans (List.map_id _)
  unfold Uuid.ofDigits
  dsimp only
  rw [dif_pos ⟨by rw [hdigits, u.length_eq], by rw [hdigits]; exact u.hex⟩]
  obtain ⟨digits, _, _⟩ := u
  simpa using hdigits

theorem parseStr_simple (u : Uuid) : Uuid.parseStr u.simple = some u := by
  unfold Uuid.parseStr Uuid.simple
  dsimp only
  rw [String.toList_ofList, if_pos u.length_eq, ofDigits_digits]

/-! ## Topics and subscribers -/

/-- What `normalize_topic_id` returns is its own normal form. -/
theorem normalizeTopicId_normal {value text : String} (h : normalizeTopicId value = some text) :
    normalizeTopicId text = some text := by
  unfold normalizeTopicId at h
  dsimp only at h
  split at h
  · exact nomatch h
  · rename_i hne
    split at h
    · rename_i u _
      rw [← Option.some.inj h]
      unfold normalizeTopicId
      dsimp only
      rw [trim_simple, isEmpty_simple, if_neg Bool.false_ne_true, parseStr_simple]
    · rename_i hparse
      rw [← Option.some.inj h]
      unfold normalizeTopicId
      dsimp only
      rw [trim_trim, if_neg hne, hparse]

/-- What `normalize_subscriber_node_id` returns is its own normal form. -/
theorem normalizeSubscriberNodeId_normal {value text : String}
    (h : normalizeSubscriberNodeId value = some text) : normalizeSubscriberNodeId text = some text := by
  unfold normalizeSubscriberNodeId at h
  dsimp only at h
  split at h
  · exact nomatch h
  · rename_i hne
    split at h
    · rw [← Option.some.inj h]
      unfold normalizeSubscriberNodeId
      dsimp only
      rw [trim_toAsciiLowercase, trim_trim, toAsciiLowercase_toAsciiLowercase,
        isEmpty_toAsciiLowercase, if_neg hne]
      split <;> rfl
    · rename_i hhex
      rw [← Option.some.inj h]
      unfold normalizeSubscriberNodeId
      dsimp only
      rw [trim_trim, if_neg hne, if_neg hhex]

/-! ## Subjects -/

theorem requiredNonEmpty_eq_ok {value fieldName text : String} :
    requiredNonEmpty value fieldName = .ok text ↔ trim value = text ∧ text.isEmpty = false := by
  unfold requiredNonEmpty invalidPayload
  generalize trim value = trimmed
  dsimp only
  cases hempty : trimmed.isEmpty with
  | true =>
    rw [if_pos rfl]
    refine ⟨nofun, ?_⟩
    rintro ⟨rfl, hne⟩
    rw [hempty] at hne
    cases hne
  | false =>
    rw [if_neg Bool.false_ne_true, Except.ok.injEq]
    refine ⟨?_, And.left⟩
    rintro rfl
    exact ⟨rfl, hempty⟩

/-- A text read from the arguments is its own required text. -/
theorem requiredNonEmpty_of_trimmed {fieldName text : String} (h : trim text = text ∧ text.isEmpty = false) :
    requiredNonEmpty text fieldName = .ok text := requiredNonEmpty_eq_ok.2 h

/-- What `normalize_subject_type` returns is its own normal form. -/
theorem normalizeSubjectType_normal {value text : String} (h : normalizeSubjectType value = .ok text) :
    normalizeSubjectType text = .ok text := by
  unfold normalizeSubjectType invalidPayload at h ⊢
  dsimp only at h ⊢
  split at h
  · rename_i hknown
    rw [← Except.ok.inj h, trim_toAsciiLowercase, trim_trim, toAsciiLowercase_toAsciiLowercase,
      if_pos hknown]
  · exact nomatch h

/-- What `normalize_subject_id` returns is its own normal form. -/
theorem normalizeSubjectId_normal {subjectType value text : String}
    (h : normalizeSubjectId subjectType value = .ok text) :
    normalizeSubjectId subjectType text = .ok text := by
  unfold normalizeSubjectId at h ⊢
  obtain ⟨trimmed, htrimmed, h⟩ := bind_eq_ok.1 h
  obtain ⟨htrim, hne⟩ := requiredNonEmpty_eq_ok.1 htrimmed
  have hself : trim trimmed = trimmed := by rw [← htrim, trim_trim]
  have h := Except.ok.inj h
  split at h
  · rename_i htype
    subst h
    have hlower : trim (toAsciiLowercase trimmed) = toAsciiLowercase trimmed := by
      rw [trim_toAsciiLowercase, hself]
    rw [requiredNonEmpty_of_trimmed ⟨hlower, by rw [isEmpty_toAsciiLowercase, hne]⟩]
    change Except.ok (if subjectType = "identity" then _ else _) = _
    rw [if_pos htype, toAsciiLowercase_toAsciiLowercase]
  · rename_i htype
    subst h
    rw [requiredNonEmpty_of_trimmed ⟨hself, hne⟩]
    change Except.ok (if subjectType = "identity" then _ else _) = _
    rw [if_neg htype]

/-! ## Arguments -/

section

variable [Host]

/-- An argument is read trimmed and is not empty. -/
theorem optionalText_trimmed {args : Value} {keys : List String} {text : String}
    (h : optionalText args keys = some text) : trim text = text ∧ text.isEmpty = false := by
  unfold optionalText optionalTextOrEmpty at h
  obtain ⟨hmap, hne⟩ := Option.filter_eq_some_iff.1 h
  obtain ⟨raw, -, rfl⟩ := Option.map_eq_some_iff.1 hmap
  exact ⟨trim_trim raw, by simpa using hne⟩

theorem requiredText_eq_ok {args : Value} {keys : List String} {text : String}
    (h : requiredText args keys = .ok text) : optionalText args keys = some text := by
  unfold requiredText at h
  cases hread : (optionalText args keys).filter fun value => !(trim value).isEmpty with
  | none =>
    rw [hread] at h
    exact absurd h (by simp [invalidPayload])
  | some value =>
    rw [hread] at h
    rw [← Except.ok.inj h]
    exact (Option.filter_eq_some_iff.1 hread).1

theorem requiredText_trimmed {args : Value} {keys : List String} {text : String}
    (h : requiredText args keys = .ok text) : trim text = text ∧ text.isEmpty = false :=
  optionalText_trimmed (requiredText_eq_ok h)

end
end TelemetryHub
