import TelemetryHub.Core.Markers
import TelemetryHub.Core.Normal

/-!
# Marker symbols over HTTP

The server has a copy of the core's two symbol functions, which lowers ASCII capitals
first where the core lowers every letter. They are the same functions.
-/

namespace TelemetryHub

open Lib

/-- `char::is_ascii_alphanumeric`. -/
def isAsciiAlphanumeric (c : Char) : Bool := ('a' ≤ c && c ≤ 'z') || ('A' ≤ c && c ≤ 'Z') || c.isDigit

/-- `trim_matches('-')` on the characters. -/
def trimDashes (cs : List Char) : List Char := ((cs.dropWhile (· == '-')).reverse.dropWhile (· == '-')).reverse

/-- One character of a segment, of what is kept so far and whether a separator is due. -/
def segmentStep (kept : Char → Bool) : List Char × Bool → Char → List Char × Bool :=
  fun (normalized, pending) c =>
    if kept c then ((if pending && !normalized.isEmpty then normalized ++ ['-'] else normalized) ++ [c], false)
    else (normalized, true)

/-- `normalize_marker_symbol_segment_for_http`. -/
def normalizeMarkerSymbolSegmentForHttp (value : List Char) : List Char :=
  trimDashes (((trimChars value).flatMap charToLowercase).foldl (segmentStep isAsciiAlphanumeric) ([], false)).1

/-- `normalize_marker_symbol_for_http`. -/
def normalizeMarkerSymbolForHttp (symbol : String) : Option String :=
  let raw := toAsciiLowercase (trim symbol)
  if raw.isEmpty then none
  else
    let parts := ((splitChars '.' raw.toList).map normalizeMarkerSymbolSegmentForHttp).filter
      fun segment => !segment.isEmpty
    if parts.isEmpty then none else some (markerSymbolAlias (joinWith "." (parts.map String.ofList)))

/-- `is_supported_marker_symbol_for_http`. -/
def isSupportedMarkerSymbolForHttp (symbol : String) : Bool :=
  symbol ∈ ["marker", "friendly", "hostile", "neutral", "unknown", "vehicle", "drone", "animal",
    "sensor", "radio", "antenna", "camera", "fire", "flood", "person", "group", "infrastructure",
    "medic", "alert", "task"]

/-! ## Letter case, character by character -/

theorem toNat_asciiLower (c : Char) :
    (asciiLower c).toNat = c.toNat ∧ ¬('A' ≤ c ∧ c ≤ 'Z') ∨
      (asciiLower c).toNat = c.toNat + 32 ∧ 65 ≤ c.toNat ∧ c.toNat ≤ 90 := by
  by_cases capital : 'A' ≤ c ∧ c ≤ 'Z'
  · exact Or.inr ⟨asciiLower_capital capital, capital.1, capital.2⟩
  · left
    rw [asciiLower, if_neg capital]
    exact ⟨rfl, capital⟩

/-- Lowering an ASCII capital first makes no difference. -/
theorem charToLowercase_asciiLower (c : Char) : charToLowercase (asciiLower c) = charToLowercase c := by
  rcases toNat_asciiLower c with ⟨same, small⟩ | ⟨lowered, above, below⟩
  · rw [asciiLower, if_neg small]
  · have kelvin : ((asciiLower c).toNat == 0x212A) = false := by
      rw [beq_eq_false_iff_ne]
      omega
    have dotted : ((asciiLower c).toNat == 0x130) = false := by
      rw [beq_eq_false_iff_ne]
      omega
    have kelvin' : (c.toNat == 0x212A) = false := by
      rw [beq_eq_false_iff_ne]
      omega
    have dotted' : (c.toNat == 0x130) = false := by
      rw [beq_eq_false_iff_ne]
      omega
    simp only [charToLowercase, kelvin, dotted, kelvin', dotted', asciiLower_asciiLower]

/-- The three ways a character is lowered. -/
theorem charToLowercase_cases (c : Char) :
    charToLowercase c = ['k'] ∧ c.toNat = 0x212A ∨
      charToLowercase c = ['i', Char.ofNat 0x307] ∧ c.toNat = 0x130 ∨ charToLowercase c = [asciiLower c] ∧
        c.toNat ≠ 0x212A ∧ c.toNat ≠ 0x130 := by
  unfold charToLowercase
  split
  · next kelvin => exact Or.inl ⟨rfl, by simpa using kelvin⟩
  · next noKelvin =>
    split
    · next dotted => exact Or.inr (Or.inl ⟨rfl, by simpa using dotted⟩)
    · next noDotted => exact Or.inr (Or.inr ⟨rfl, by simpa using noKelvin, by simpa using noDotted⟩)

/-- What is lowered once is lowered for good. -/
theorem flatMap_charToLowercase (c : Char) : (charToLowercase c).flatMap charToLowercase = charToLowercase c := by
  rcases charToLowercase_cases c with ⟨lowered, -⟩ | ⟨lowered, -⟩ | ⟨lowered, -⟩
  · rw [lowered]
    decide
  · rw [lowered]
    decide
  · rw [lowered, List.flatMap_singleton, charToLowercase_asciiLower, lowered]

theorem flatMap_flatMap_charToLowercase (cs : List Char) :
    (cs.flatMap charToLowercase).flatMap charToLowercase = cs.flatMap charToLowercase := by
  rw [List.flatMap_assoc]
  exact List.flatMap_congr fun c _ => flatMap_charToLowercase c

theorem flatMap_map_asciiLower (cs : List Char) :
    (cs.map asciiLower).flatMap charToLowercase = cs.flatMap charToLowercase := by
  rw [List.flatMap_map]
  exact List.flatMap_congr fun c _ => charToLowercase_asciiLower c

theorem isWhitespace_toNat {c : Char} (white : isWhitespace c = true) : c.toNat < 65 ∨ 90 < c.toNat ∧ c.toNat ≠ 0x212A ∧ c.toNat ≠ 0x130 := by
  simp only [isWhitespace, Bool.or_eq_true, Bool.and_eq_true, decide_eq_true_eq, beq_iff_eq] at white
  omega

/-- White space has no case. -/
theorem charToLowercase_white {c : Char} (white : isWhitespace c = true) : charToLowercase c = [c] := by
  have range := isWhitespace_toNat white
  rcases charToLowercase_cases c with ⟨-, kelvin⟩ | ⟨-, dotted⟩ | ⟨lowered, -⟩
  · omega
  · omega
  · rcases toNat_asciiLower c with ⟨-, small⟩ | ⟨-, above, below⟩
    · rw [lowered, asciiLower, if_neg small]
    · omega

/-- Nothing else is lowered to white space. -/
theorem charToLowercase_visible {c : Char} (visible : isWhitespace c = false) :
    ∀ lowered ∈ charToLowercase c, isWhitespace lowered = false := by
  rcases charToLowercase_cases c with ⟨lowered, -⟩ | ⟨lowered, -⟩ | ⟨lowered, -⟩
  · rw [lowered]
    intro other mem
    rw [List.mem_singleton.1 mem]
    decide
  · rw [lowered]
    intro other mem
    obtain rfl | rfl : other = 'i' ∨ other = Char.ofNat 0x307 := by simpa using mem
    · decide
    · decide
  · rw [lowered]
    intro other mem
    rw [List.mem_singleton.1 mem, isWhitespace_asciiLower]
    exact visible

theorem charToLowercase_ne_nil (c : Char) : charToLowercase c ≠ [] := by
  rcases charToLowercase_cases c with ⟨lowered, -⟩ | ⟨lowered, -⟩ | ⟨lowered, -⟩
  all_goals
    rw [lowered]
    exact List.cons_ne_nil _ _

section Trim

variable {p : Char → Bool} {f : Char → List Char}

/-- Dropping what `f` leaves alone, before the rest is mapped or after. -/
theorem dropWhile_flatMap (alone : ∀ c, p c = true → f c = [c]) (rest : ∀ c, p c = false → ∀ d ∈ f c, p d = false)
    (full : ∀ c, f c ≠ []) (cs : List Char) : (cs.flatMap f).dropWhile p = (cs.dropWhile p).flatMap f := by
  induction cs with
  | nil => rfl
  | cons c cs ih =>
    cases white : p c with
    | true =>
      rw [List.flatMap_cons, alone c white, List.singleton_append, List.dropWhile_cons_of_pos white,
        List.dropWhile_cons_of_pos white, ih]
    | false =>
      rw [List.dropWhile_cons_of_neg (by simp [white]), List.flatMap_cons]
      obtain ⟨head, tail, mapped⟩ := List.exists_cons_of_ne_nil (full c)
      have visible := rest c white head (by rw [mapped]; exact List.mem_cons_self)
      rw [mapped, List.cons_append, List.dropWhile_cons_of_neg (by simp [visible])]

end Trim

theorem reverse_flatMap (f : Char → List Char) (cs : List Char) :
    (cs.flatMap f).reverse = cs.reverse.flatMap fun c => (f c).reverse := by
  rw [List.reverse_flatMap]
  rfl

theorem trimChars_flatMap (cs : List Char) :
    trimChars (cs.flatMap charToLowercase) = (trimChars cs).flatMap charToLowercase := by
  unfold trimChars
  rw [dropWhile_flatMap (fun c => charToLowercase_white) (fun c => charToLowercase_visible) charToLowercase_ne_nil,
    reverse_flatMap, dropWhile_flatMap, reverse_flatMap]
  · simp only [List.reverse_reverse]
  · intro c white
    rw [charToLowercase_white white]
    rfl
  · intro c visible d mem
    exact charToLowercase_visible visible d (List.mem_reverse.1 mem)
  · intro c empty
    exact charToLowercase_ne_nil c (List.reverse_eq_nil_iff.1 empty)

/-! ## Segments -/

/-- A dot is lowered to itself, and nothing else to a dot. -/
theorem dot_mem_charToLowercase {c : Char} : '.' ∈ charToLowercase c ↔ c = '.' := by
  constructor
  · intro mem
    rcases charToLowercase_cases c with ⟨lowered, -⟩ | ⟨lowered, -⟩ | ⟨lowered, -⟩
    · rw [lowered] at mem
      exact absurd mem (by decide)
    · rw [lowered] at mem
      exact absurd mem (by decide)
    · rw [lowered, List.mem_singleton] at mem
      rcases toNat_asciiLower c with ⟨-, small⟩ | ⟨grown, above, below⟩
      · rw [asciiLower, if_neg small] at mem
        exact mem.symm
      · rw [← mem] at grown
        have : ('.' : Char).toNat = 46 := rfl
        omega
  · rintro rfl
    decide

/-- Splitting at the dots, before the letters are lowered or after. -/
theorem splitChars_flatMap {f : Char → List Char} (dot : f '.' = ['.']) (others : ∀ c, c ≠ '.' → '.' ∉ f c)
    (cs : List Char) : splitChars '.' (cs.flatMap f) = (splitChars '.' cs).map fun part => part.flatMap f := by
  induction cs with
  | nil => rfl
  | cons c cs ih =>
    rw [List.flatMap_cons]
    by_cases isDot : c = '.'
    · subst isDot
      rw [dot, List.singleton_append, splitChars, if_pos rfl, splitChars, if_pos rfl, ih]
      rfl
    · rw [splitChars_append (others c isDot), ih, splitChars, if_neg isDot]
      cases split : splitChars '.' cs with
      | nil => exact absurd split (splitChars_ne_nil '.' cs)
      | cons part parts => rfl

theorem splitChars_lowercase (cs : List Char) :
    splitChars '.' (cs.flatMap charToLowercase) = (splitChars '.' cs).map fun part => part.flatMap charToLowercase :=
  splitChars_flatMap rfl (fun _ other mem => other (dot_mem_charToLowercase.1 mem)) cs

theorem splitChars_asciiLower (cs : List Char) :
    splitChars '.' (cs.map asciiLower) = (splitChars '.' cs).map fun part => part.map asciiLower := by
  have single : ∀ part : List Char, part.map asciiLower = part.flatMap fun c => [asciiLower c] := by
    intro part
    exact List.map_eq_flatMap
  simp only [single]
  apply splitChars_flatMap rfl
  intro c other mem
  rw [List.mem_singleton] at mem
  rcases toNat_asciiLower c with ⟨-, small⟩ | ⟨grown, above, below⟩
  · rw [asciiLower, if_neg small] at mem
    exact other mem.symm
  · rw [← mem] at grown
    have : ('.' : Char).toNat = 46 := rfl
    omega

/-- What the core keeps of a lowered text. -/
def isSymbolChar (c : Char) : Bool := ('a' ≤ c && c ≤ 'z') || c.isDigit

theorem normalizeMarkerSymbolSegment_eq (value : List Char) : normalizeMarkerSymbolSegment value =
    (((trimChars value).flatMap charToLowercase).foldl (segmentStep isSymbolChar) ([], false)).1 := rfl

/-- No capital is left to keep. -/
theorem kept_of_lowered {c d : Char} (mem : d ∈ charToLowercase c) : isAsciiAlphanumeric d = isSymbolChar d := by
  have small : ¬('A' ≤ d ∧ d ≤ 'Z') := by
    rcases charToLowercase_cases c with ⟨lowered, -⟩ | ⟨lowered, -⟩ | ⟨lowered, -⟩
    · rw [lowered, List.mem_singleton] at mem
      rw [mem]
      decide
    · rw [lowered, List.mem_cons, List.mem_singleton] at mem
      rcases mem with rfl | rfl
      · decide
      · decide
    · rw [lowered, List.mem_singleton] at mem
      rw [mem]
      rcases toNat_asciiLower c with ⟨same, small⟩ | ⟨grown, above, below⟩
      · rw [asciiLower, if_neg small]
        exact small
      · rintro ⟨-, capital⟩
        have capital : (asciiLower c).toNat ≤ 90 := capital
        omega
  have none : (decide ('A' ≤ d) && decide (d ≤ 'Z')) = false := by
    simp only [Bool.and_eq_false_iff, decide_eq_false_iff_not]
    by_cases above : 'A' ≤ d
    · exact Or.inr fun below => small ⟨above, below⟩
    · exact Or.inl above
  simp only [isAsciiAlphanumeric, isSymbolChar, none, Bool.or_false]

/-- A segment neither begins nor ends with a dash. -/
def Undashed (cs : List Char) : Prop := cs.head? ≠ some '-' ∧ cs.getLast? ≠ some '-'

theorem segmentStep_undashed {acc : List Char × Bool} (h : Undashed acc.1) (c : Char) :
    Undashed (segmentStep isSymbolChar acc c).1 := by
  unfold segmentStep
  dsimp only
  cases kept : isSymbolChar c with
  | false => exact h
  | true =>
    have letter : c ≠ '-' := by
      rintro rfl
      exact absurd kept (by decide)
    rw [if_pos rfl]
    dsimp only
    have last : (((if acc.2 && !acc.1.isEmpty then acc.1 ++ ['-'] else acc.1) ++ [c]).getLast?) ≠ some '-' := by
      rw [List.getLast?_concat]
      intro same
      exact letter (Option.some.inj same)
    refine ⟨?_, last⟩
    rcases acc with ⟨normalized, pending⟩
    cases normalized with
    | nil =>
      have alone : (if pending && !([] : List Char).isEmpty then [] ++ ['-'] else []) ++ [c] = [c] := by simp
      dsimp only
      rw [alone]
      intro same
      exact letter (Option.some.inj same)
    | cons d rest =>
      intro same
      apply h.1
      dsimp only at same ⊢
      split at same
      · exact same
      · exact same

theorem foldl_segmentStep_undashed (cs : List Char) :
    ∀ {acc : List Char × Bool}, Undashed acc.1 → Undashed (cs.foldl (segmentStep isSymbolChar) acc).1 := by
  induction cs with
  | nil =>
    intro acc h
    exact h
  | cons c cs ih =>
    intro acc h
    exact ih (segmentStep_undashed h c)

theorem dropWhile_dash {cs : List Char} (h : cs.head? ≠ some '-') : cs.dropWhile (· == '-') = cs := by
  cases cs with
  | nil => rfl
  | cons c cs =>
    apply List.dropWhile_cons_of_neg
    intro dash
    apply h
    rw [beq_iff_eq] at dash
    rw [dash]
    rfl

theorem trimDashes_eq_self {cs : List Char} (h : Undashed cs) : trimDashes cs = cs := by
  unfold trimDashes
  rw [dropWhile_dash h.1, dropWhile_dash, List.reverse_reverse]
  rw [List.head?_reverse]
  exact h.2

/-- A segment whose capitals were lowered reads as one whose letters were. -/
theorem segment_agrees (part : List Char) : normalizeMarkerSymbolSegmentForHttp (part.map asciiLower) =
    normalizeMarkerSymbolSegment (part.flatMap charToLowercase) := by
  have kept : ((trimChars part).flatMap charToLowercase).foldl (segmentStep isAsciiAlphanumeric) ([], false) =
      ((trimChars part).flatMap charToLowercase).foldl (segmentStep isSymbolChar) ([], false) := by
    apply List.foldl_ext
    intro acc d mem
    obtain ⟨c, -, mem⟩ := List.mem_flatMap.1 mem
    rw [segmentStep, segmentStep, kept_of_lowered mem]
  rw [normalizeMarkerSymbolSegment_eq, normalizeMarkerSymbolSegmentForHttp, trimChars_map_asciiLower,
    flatMap_map_asciiLower, trimChars_flatMap, flatMap_flatMap_charToLowercase, kept]
  apply trimDashes_eq_self
  apply foldl_segmentStep_undashed
  exact ⟨nofun, nofun⟩

/-! ## The whole symbol -/

theorem joinWith_isEmpty {parts : List (List Char)} (full : ∀ part ∈ parts, part.isEmpty = false) :
    (joinWith "." (parts.map String.ofList)).isEmpty = parts.isEmpty := by
  cases parts with
  | nil => rfl
  | cons part parts =>
    have filled := full part List.mem_cons_self
    cases parts with
    | nil =>
      rw [List.map_singleton, joinWith, isEmpty_ofList]
      exact filled
    | cons second rest =>
      rw [List.map_cons, List.map_cons, joinWith, Bool.eq_iff_iff, String.isEmpty_iff]
      · constructor
        · intro empty
          have := congrArg String.toList empty
          simp at this
        · nofun
      · nofun

/-- The server's symbols are the core's, for every text. -/
theorem normalizeMarkerSymbolForHttp_eq (symbol : String) :
    normalizeMarkerSymbolForHttp symbol = normalizeMarkerSymbol symbol := by
  unfold normalizeMarkerSymbolForHttp normalizeMarkerSymbol
  dsimp only
  have segments : (splitChars '.' (toAsciiLowercase (trim symbol)).toList).map normalizeMarkerSymbolSegmentForHttp =
      (splitChars '.' (toLowercase (trim symbol)).toList).map normalizeMarkerSymbolSegment := by
    rw [toAsciiLowercase, toLowercase, String.toList_ofList, String.toList_ofList, splitChars_asciiLower,
      splitChars_lowercase, List.map_map, List.map_map]
    exact List.map_congr_left fun part _ => segment_agrees part
  have empty : (toAsciiLowercase (trim symbol)).isEmpty = (toLowercase (trim symbol)).isEmpty := by
    rw [isEmpty_toAsciiLowercase, toLowercase, isEmpty_ofList, ← String.ofList_toList (s := trim symbol), isEmpty_ofList,
      String.toList_ofList]
    cases (trim symbol).toList with
    | nil => rfl
    | cons c cs =>
      rw [List.flatMap_cons]
      obtain ⟨head, tail, mapped⟩ := List.exists_cons_of_ne_nil (charToLowercase_ne_nil c)
      rw [mapped]
      rfl
  rw [segments, empty, joinWith_isEmpty]
  intro part mem
  simpa using (List.mem_filter.1 mem).2

end TelemetryHub
