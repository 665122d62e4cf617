import SoundEngine.Json.Error

/-!
# Reading from a text

A reader takes the characters that are left and gives a result with the characters it leaves, or
the first thing that is wrong.  Readers never go back, so what a reader makes of a text depends
on the characters it consumes and on the one after them.

Everything repeated (the characters of a text, the items of a list, the members of an object) is
one loop, `Reader.loop`.  It ends because each turn that asks for another one consumes a
character; `loop_eq` states the loop's equation under that condition, so no proof has to look
at the number of turns.
-/

namespace SoundEngine.Json

/-- A step on the text that is left. -/
abbrev Reader := StateT (List Char) (Except Error)

namespace Reader

variable {σ α : Type}

/-- Refuses the document. -/
def fail (e : Error) : Reader α := fun _ => .error e

/-- A result that is ready, or the reason why there is none. -/
def ofResult : Except Error α → Reader α
  | .ok a => pure a
  | .error e => fail e

/-! ## 1. The loop -/

/-- At most `turns` turns of `step`. -/
def turns (step : σ → Reader (σ ⊕ α)) : Nat → σ → List Char → Except Error (α × List Char)
  | 0, _, _ => .error .endInValue
  | n + 1, a, s =>
    match step a s with
    | .error e => .error e
    | .ok (.inl b, rest) => turns step n b rest
    | .ok (.inr x, rest) => .ok (x, rest)

/-- Repeats `step` until it gives a result.  One turn more than there are characters is enough. -/
def loop (step : σ → Reader (σ ⊕ α)) (start : σ) : Reader α :=
  fun s => turns step (s.length + 1) start s

/-- Each turn that asks for another one has consumed a character. -/
def Progresses (step : σ → Reader (σ ⊕ α)) : Prop :=
  ∀ a s b rest, step a s = .ok (.inl b, rest) → rest.length < s.length

/-- Turns beyond the length of the text are never needed. -/
theorem turns_eq_of_length_lt {step : σ → Reader (σ ⊕ α)} (h : Progresses step) :
    ∀ {m n : Nat} {a : σ} {s : List Char}, s.length < m → s.length < n →
      turns step m a s = turns step n a s := by
  intro m
  induction m with
  | zero => intro n a s hm _; omega
  | succ m ih =>
    intro n a s hm hn
    cases n with
    | zero => omega
    | succ n =>
      simp only [turns]
      split
      · rfl
      · next b rest hs =>
        have := h a s b rest hs
        exact ih (by omega) (by omega)
      · rfl

/-- The loop's equation: one turn, then the loop again if the turn asks for it. -/
theorem loop_eq {step : σ → Reader (σ ⊕ α)} (h : Progresses step) (a : σ) (s : List Char) :
    loop step a s =
      match step a s with
      | .error e => .error e
      | .ok (.inl b, rest) => loop step b rest
      | .ok (.inr x, rest) => .ok (x, rest) := by
  have unfolded : loop step a s = turns step (s.length + 1) a s := rfl
  rw [unfolded, turns]
  split
  · rfl
  · next b rest hs =>
    have := h a s b rest hs
    exact turns_eq_of_length_lt h (by omega) (Nat.lt_succ_self _)
  · rfl

/-! ## 2. Blanks, words and separators -/

/-- Space, tab, line feed and carriage return stand between the parts of a document. -/
def isBlank (c : Char) : Bool :=
  c == ' ' || c == '\t' || c == '\n' || c == '\r'

/-- The text without its leading blanks. -/
def trimmed (s : List Char) : List Char := s.dropWhile isBlank

/-- The rest of `null`, `true` or `false` after its first letter. -/
def word : List Char → Reader Unit
  | [] => pure ()
  | c :: cs => fun s =>
    match s with
    | [] => .error .endInValue
    | d :: rest => if d = c then word cs rest else .error .expectedIdentifier

/-- The colon between a key and its value. -/
def colon : Reader Unit := fun s =>
  match trimmed s with
  | [] => .error .endInObject
  | c :: rest => if c = ':' then .ok ((), rest) else .error .expectedColon

/-- After the opening bracket of a list (`first`) or after an item: is there another item?  A
closing bracket is consumed, and so is the comma before another item. -/
def nextItem (first : Bool) : Reader Bool := fun s =>
  match trimmed s with
  | [] => .error .endInList
  | c :: rest =>
    if c = ']' then .ok (false, rest)
    else if first then .ok (true, c :: rest)
    else if c = ',' then
      match trimmed rest with
      | [] => .error .endInValue
      | d :: rest => if d = ']' then .error .trailingComma else .ok (true, d :: rest)
    else .error .expectedItemEnd

/-- After as many items as are wanted: the list must close. -/
def closeList : Reader Unit := fun s =>
  match trimmed s with
  | [] => .error .endInList
  | c :: rest =>
    if c = ']' then .ok ((), rest)
    else if c = ',' then
      match trimmed rest with
      | d :: _ => if d = ']' then .error .trailingComma else .error .trailingCharacters
      | [] => .error .trailingCharacters
    else .error .trailingCharacters

/-- After the opening bracket of an object (`first`) or after a member: is there another member?
A closing bracket is consumed, and so are a comma and the quotation mark of a key. -/
def nextMember (first : Bool) : Reader Bool := fun s =>
  match trimmed s with
  | [] => .error .endInObject
  | c :: rest =>
    if c = '\x7d' then .ok (false, rest)
    else if first then
      if c = '"' then .ok (true, rest) else .error .keyNotText
    else if c = ',' then
      match trimmed rest with
      | [] => .error .endInValue
      | d :: rest =>
        if d = '"' then .ok (true, rest)
        else if d = '\x7d' then .error .trailingComma
        else .error .keyNotText
    else .error .expectedMemberEnd

/-! ## 3. Whole documents -/

/-- Reads all of a text: only blanks may follow. -/
def run (r : Reader α) (text : String) : Except Error α :=
  match r text.toList with
  | .error e => .error e
  | .ok (a, rest) => if (trimmed rest).isEmpty then .ok a else .error .trailingCharacters

end Reader

end SoundEngine.Json
