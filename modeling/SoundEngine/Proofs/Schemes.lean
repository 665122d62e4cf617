import SoundEngine.Proofs.Addresses

/-!
# The grammar of absolute names

RFC 3986 gives a scheme by the rule `ALPHA *( ALPHA / DIGIT / "+" / "-" / "." )`, and a name is absolute
if it is a scheme, a mark and a rest.  The rule says nothing about which of the marks in a name is meant,
and `isAbsolute` looks at the first one only.

* §1 writes the rule down, with the ranges of its characters, and compares it with the check of the
  characters.
* §2 shows that there is no choice: a scheme has no colon, so the scheme of a name ends in front of its
  first mark, wherever the name is cut (`Cut.scheme_prefix`).  That makes the scan right about every name,
  and the cut unique (`isAbsolute_grammar`).
-/

namespace SoundEngine.Address

/-! ## 1. The rule -/

/-- ALPHA: the letters of ASCII, and no others. -/
def Letter (c : Char) : Prop := 'A' ≤ c ∧ c ≤ 'Z' ∨ 'a' ≤ c ∧ c ≤ 'z'

/-- DIGIT. -/
def Digit (c : Char) : Prop := '0' ≤ c ∧ c ≤ '9'

/-- What may stand behind the first character of a scheme. -/
def Follower (c : Char) : Prop := Letter c ∨ Digit c ∨ c = '+' ∨ c = '-' ∨ c = '.'

/-- A scheme: a letter and any number of followers. -/
def Scheme (scheme : String) : Prop :=
  ∃ first others, scheme.toList = first :: others ∧ Letter first ∧ ∀ c ∈ others, Follower c

theorem isUpper_iff {c : Char} : c.isUpper = true ↔ 'A' ≤ c ∧ c ≤ 'Z' := decide_eq_true_iff

theorem isLower_iff {c : Char} : c.isLower = true ↔ 'a' ≤ c ∧ c ≤ 'z' :=
  Bool.and_eq_true_iff.trans (and_congr decide_eq_true_iff decide_eq_true_iff)

theorem isAlpha_iff {c : Char} : c.isAlpha = true ↔ Letter c :=
  Bool.or_eq_true_iff.trans (or_congr isUpper_iff isLower_iff)

theorem isDigit_iff {c : Char} : c.isDigit = true ↔ Digit c :=
  Bool.and_eq_true_iff.trans (and_congr decide_eq_true_iff decide_eq_true_iff)

theorem isSchemeChar_iff {c : Char} : isSchemeChar c = true ↔ Follower c := by
  simp only [isSchemeChar, Char.isAlphanum, Bool.or_eq_true, beq_iff_eq, isAlpha_iff, isDigit_iff,
    Follower, or_assoc]

theorem isScheme_iff {scheme : String} : isScheme scheme.toList = true ↔ Scheme scheme := by
  unfold Scheme
  cases scheme.toList with
  | nil => simp [isScheme]
  | cons first others =>
    rw [isScheme, Bool.and_eq_true, isAlpha_iff, List.all_eq_true]
    constructor
    · rintro ⟨hfirst, hothers⟩
      exact ⟨first, others, rfl, hfirst, fun c hc => isSchemeChar_iff.mp (hothers c hc)⟩
    · rintro ⟨_, _, heq, hfirst, hothers⟩
      obtain ⟨rfl, rfl⟩ := List.cons.inj heq
      exact ⟨hfirst, fun c hc => isSchemeChar_iff.mpr (hothers c hc)⟩

/-! ## 2. The cut -/

/-- The name, cut into a scheme and a rest at one of its marks.  Nothing is asked of the rest, which may
be empty and may have marks of its own. -/
structure Cut (name scheme rest : String) : Prop where
  parts : name = scheme ++ "://" ++ rest
  scheme : Scheme scheme

variable {name scheme scheme' rest rest' : String}

theorem toList_parts (before after : String) :
    (before ++ "://" ++ after).toList = before.toList ++ (mark ++ after.toList) := by
  rw [String.toList_append, String.toList_append, List.append_assoc]
  rfl

theorem isAbsolute_iff_cut : isAbsolute name = true ↔ ∃ scheme rest, Cut name scheme rest := by
  rw [isAbsolute_iff]
  constructor
  · rintro ⟨scheme, rest, hname, hscheme⟩
    refine ⟨String.ofList scheme, String.ofList rest, String.toList_injective ?_, isScheme_iff.mp ?_⟩
    · rw [toList_parts, String.toList_ofList, String.toList_ofList, hname]
    · rw [String.toList_ofList, hscheme]
  · rintro ⟨scheme, rest, rfl, hscheme⟩
    exact ⟨scheme.toList, rest.toList, toList_parts scheme rest, isScheme_iff.mpr hscheme⟩

/-- **The scheme ends in front of every mark.** -/
theorem Cut.scheme_prefix (h : Cut name scheme rest) {before after : String}
    (hmark : name = before ++ "://" ++ after) : scheme.toList <+: before.toList := by
  have heq : scheme.toList ++ (mark ++ rest.toList) = before.toList ++ (mark ++ after.toList) := by
    rw [← toList_parts, ← toList_parts, ← h.parts, hmark]
  have hcolon : ':' ∉ scheme.toList := (not_mem_scheme (isScheme_iff.mpr h.scheme)).1
  rcases List.append_eq_append_iff.mp heq with ⟨more, hmore, -⟩ | ⟨more, hmore, hrest⟩
  · exact ⟨more, hmore.symm⟩
  · -- what the scheme would have beyond the mark begins with the colon of the mark
    cases more with
    | nil => exact ⟨[], by simpa using hmore⟩
    | cons c more =>
      obtain ⟨rfl, -⟩ := List.cons.inj hrest
      rw [hmore] at hcolon
      exact absurd (List.mem_append_right _ List.mem_cons_self) hcolon

/-- A name is cut in one way at most. -/
theorem Cut.unique (h : Cut name scheme rest) (h' : Cut name scheme' rest') :
    scheme' = scheme ∧ rest' = rest := by
  have hscheme : scheme' = scheme :=
    String.toList_injective ((h'.scheme_prefix h.parts).eq_of_length_le
      (h.scheme_prefix h'.parts).length_le)
  have hrest : (scheme ++ "://" ++ rest').toList = (scheme ++ "://" ++ rest).toList := by
    rw [← h.parts, h'.parts, hscheme]
  rw [toList_parts, toList_parts] at hrest
  exact ⟨hscheme, String.toList_injective (List.append_cancel_left (List.append_cancel_left hrest))⟩

/-- **The scan for a mark accepts the grammar.**  For every name: it is absolute if it can be cut, at any
of its marks, into a scheme by the rule and a rest; it is cut in one way at most; and the mark it is cut at
is the first one, since no other mark has less in front of it. -/
theorem isAbsolute_grammar (name : String) :
    (isAbsolute name = true ↔ ∃ scheme rest, Cut name scheme rest) ∧
    (∀ scheme rest scheme' rest', Cut name scheme rest → Cut name scheme' rest' →
      scheme' = scheme ∧ rest' = rest) ∧
    ∀ scheme rest before after, Cut name scheme rest → name = before ++ "://" ++ after →
      scheme.toList <+: before.toList :=
  ⟨isAbsolute_iff_cut, fun _ _ _ _ => Cut.unique, fun _ _ _ _ h => h.scheme_prefix⟩

/-- A mark without a scheme spoils a name, even if a scheme and a mark follow; a mark in the rest does
not. -/
example : isAbsolute "a b://c://d" = false ∧ isAbsolute "c:/://d" = false ∧
    isAbsolute "c://a b://d" = true := by decide

end SoundEngine.Address
